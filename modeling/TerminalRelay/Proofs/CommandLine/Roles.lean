import Mathlib.Data.List.Induction
import Mathlib.Data.List.TakeWhile
import TerminalRelay.Proofs.CommandLine.Arrangement

/-! The role of every argument, told by what stands before it. Flags are moved to the front until
a separator ends them or a command begins; what stands behind is an operand, whatever it looks
like. So the arrangement parts the arguments without losing, repeating or reordering any. -/

namespace TerminalRelay.CommandLine

inductive Role where
  | flag
  | operand
  | ending
  deriving DecidableEq, Repr

def hasOperand (before : List Bytes) : Bool :=
  before.any (!isFlag ·)

/-- A flag that opens a pty stands before the first operand of these arguments. -/
def CommandBegun (before : List Bytes) : Prop :=
  opensCommand before = true ∧ hasOperand before = true

/-- Whatever stands behind these arguments is an operand. -/
def Decided (before : List Bytes) : Prop :=
  separator ∈ before ∨ CommandBegun before

instance : DecidablePred CommandBegun := fun _ => inferInstanceAs (Decidable (_ ∧ _))

instance : DecidablePred Decided := fun _ => inferInstanceAs (Decidable (_ ∨ _))

/-- The role of an argument that stands behind these. -/
def role (before : List Bytes) (argument : Bytes) : Role :=
  if isFlag argument = false ∨ Decided before then .operand
  else if argument = separator then .ending
  else .flag

def rolesAfter (before : List Bytes) : List Bytes → List (Role × Bytes)
  | [] => []
  | argument :: rest => (role before argument, argument) :: rolesAfter (before ++ [argument]) rest

def roles (arguments : List Bytes) : List (Role × Bytes) :=
  rolesAfter [] arguments

def withRole (role : Role) (told : List (Role × Bytes)) : List Bytes :=
  (told.filter (·.1 = role)).map Prod.snd

section
variable {before : List Bytes} {argument : Bytes}

theorem role_eq_operand_iff :
    role before argument = .operand ↔ isFlag argument = false ∨ Decided before := by
  unfold role
  split
  · next operand => simp [operand]
  · next looked => split <;> simp [looked]

theorem role_eq_ending_iff :
    role before argument = .ending ↔ argument = separator ∧ ¬ Decided before := by
  unfold role
  split
  · next operand =>
    refine ⟨nofun, ?_⟩
    rintro ⟨rfl, undecided⟩
    rcases operand with none | decided
    · cases none
    · exact absurd decided undecided
  · next looked =>
    have undecided : ¬ Decided before := fun decided => looked (.inr decided)
    split
    · next ends => simp [ends, undecided]
    · next apart => simp [apart]

theorem role_eq_flag_iff :
    role before argument = .flag ↔
      isFlag argument = true ∧ argument ≠ separator ∧ ¬ Decided before := by
  unfold role
  split
  · next operand =>
    refine ⟨nofun, ?_⟩
    rintro ⟨flag, -, undecided⟩
    rcases operand with none | decided
    · rw [flag] at none
      cases none
    · exact absurd decided undecided
  · next looked =>
    obtain ⟨flag, undecided⟩ := not_or.mp looked
    rw [Bool.not_eq_false] at flag
    split
    · next ends => simp [ends]
    · next apart => simp [apart, flag, undecided]

end

/-! What has been decided stays so. -/

section
variable {before : List Bytes} {argument : Bytes}

theorem opensCommand_append (before rest : List Bytes) :
    opensCommand (before ++ rest) =
      (opensCommand before || before.all isProperFlag && opensCommand rest) := by
  induction before with
  | nil => simp [opensCommand, leading]
  | cons argument before ih =>
    by_cases proper : isProperFlag argument
    · rw [List.cons_append, opensCommand_cons proper, opensCommand_cons proper, ih,
        List.all_cons, proper, Bool.true_and, Bool.or_assoc]
    · simp [opensCommand, leading, proper]

theorem hasOperand_append (before rest : List Bytes) :
    hasOperand (before ++ rest) = (hasOperand before || hasOperand rest) :=
  List.any_append

theorem CommandBegun.append (begun : CommandBegun before) (rest : List Bytes) :
    CommandBegun (before ++ rest) := by
  obtain ⟨opens, operand⟩ := begun
  refine ⟨?_, ?_⟩
  · rw [opensCommand_append, opens, Bool.true_or]
  · rw [hasOperand_append, operand, Bool.true_or]

theorem Decided.append (decided : Decided before) (rest : List Bytes) :
    Decided (before ++ rest) := by
  rcases decided with separated | begun
  · exact .inl (List.mem_append_left rest separated)
  · exact .inr (begun.append rest)

theorem not_decided_nil : ¬ Decided [] := by decide

end

/-! Of the arguments before, the scan knows whether an operand is among them and whether their
flags open a command. -/

section
variable {before : List Bytes} {argument : Bytes}

theorem all_isProperFlag (unseparated : separator ∉ before) :
    before.all isProperFlag = !hasOperand before := by
  rw [hasOperand, List.not_any_eq_all_not, Bool.eq_iff_iff, List.all_eq_true, List.all_eq_true]
  apply forall₂_congr
  intro argument member
  have apart : argument ≠ separator := fun same => unseparated (same ▸ member)
  simp [isProperFlag, apart]

section
variable {flags : List Bytes} (proper : ∀ flag ∈ flags, isProperFlag flag = true)
include proper

theorem leading_of_proper : leading flags = flags :=
  List.takeWhile_eq_self_iff.mpr proper

theorem hasOperand_of_proper : hasOperand flags = false := by
  rw [hasOperand, List.any_eq_false]
  intro flag member
  simp [(isProperFlag_iff.mp (proper flag member)).1]

theorem separator_not_mem_of_proper : separator ∉ flags :=
  fun member => (isProperFlag_iff.mp (proper separator member)).2 rfl

end

theorem not_separator_mem_append (unseparated : separator ∉ before) (apart : argument ≠ separator) :
    separator ∉ before ++ [argument] := by
  simp [unseparated, apart.symm]

section
variable (flag : isFlag argument = true)
include flag

theorem hasOperand_append_flag : hasOperand (before ++ [argument]) = hasOperand before := by
  simp [hasOperand, flag]

theorem opensCommand_append_flag (unseparated : separator ∉ before) (apart : argument ≠ separator) :
    opensCommand (before ++ [argument]) =
      (opensCommand before || !hasOperand before && opensPty argument) := by
  have alone : opensCommand [argument] = opensPty argument := by
    rw [opensCommand_cons (isProperFlag_iff.mpr ⟨flag, apart⟩)]
    exact Bool.or_false _
  rw [opensCommand_append, all_isProperFlag unseparated, alone]

theorem not_decided_append_flag (undecided : ¬ Decided before) (apart : argument ≠ separator) :
    ¬ Decided (before ++ [argument]) := by
  obtain ⟨unseparated, plain⟩ := not_or.mp undecided
  rintro (separated | ⟨opens, operand⟩)
  · exact not_separator_mem_append unseparated apart separated
  · rw [hasOperand_append_flag flag] at operand
    rw [opensCommand_append_flag flag unseparated apart, operand] at opens
    exact plain ⟨by simpa using opens, operand⟩

end

section
variable (operand : isFlag argument = false)
include operand

theorem hasOperand_append_operand : hasOperand (before ++ [argument]) = true := by
  simp [hasOperand, operand]

theorem opensCommand_append_operand :
    opensCommand (before ++ [argument]) = opensCommand before := by
  have alone : opensCommand [argument] = false := by
    simp [opensCommand, leading, isProperFlag, operand]
  rw [opensCommand_append, alone, Bool.and_false, Bool.or_false]

theorem apart_of_operand : argument ≠ separator := by
  rintro rfl
  cases operand

theorem not_decided_append_operand (undecided : ¬ Decided before)
    (plain : opensCommand before = false) : ¬ Decided (before ++ [argument]) := by
  rintro (separated | ⟨opens, -⟩)
  · have unseparated := (not_or.mp undecided).1
    exact not_separator_mem_append unseparated (apart_of_operand operand) separated
  · rw [opensCommand_append_operand operand, plain] at opens
    cases opens

end
end

@[simp] theorem withRole_nil (role : Role) : withRole role [] = [] := rfl

@[simp] theorem withRole_append (role : Role) (told others : List (Role × Bytes)) :
    withRole role (told ++ others) = withRole role told ++ withRole role others := by
  simp [withRole]

@[simp] theorem withRole_cons (role other : Role) (argument : Bytes)
    (told : List (Role × Bytes)) :
    withRole role ((other, argument) :: told) =
      if other = role then argument :: withRole role told else withRole role told := by
  by_cases same : other = role
  · simp [withRole, same]
  · simp [withRole, same]

@[simp] theorem withRole_map (role other : Role) (arguments : List Bytes) :
    withRole role (arguments.map (other, ·)) = if other = role then arguments else [] := by
  induction arguments with
  | nil => simp
  | cons argument arguments ih =>
    rw [List.map_cons, withRole_cons, ih]
    split <;> rfl

theorem rolesAfter_append (before first second : List Bytes) :
    rolesAfter before (first ++ second) =
      rolesAfter before first ++ rolesAfter (before ++ first) second := by
  induction first generalizing before with
  | nil => simp [rolesAfter]
  | cons argument first ih => simp [rolesAfter, ih]

theorem rolesAfter_map_snd (before arguments : List Bytes) :
    (rolesAfter before arguments).map Prod.snd = arguments := by
  induction arguments generalizing before with
  | nil => rfl
  | cons argument arguments ih => simp [rolesAfter, ih]

theorem rolesAfter_of_decided {before : List Bytes} (decided : Decided before)
    (arguments : List Bytes) : rolesAfter before arguments = arguments.map (.operand, ·) := by
  induction arguments generalizing before with
  | nil => rfl
  | cons argument arguments ih =>
    rw [rolesAfter, ih (decided.append _), role_eq_operand_iff.mpr (.inr decided), List.map_cons]

/-- Where the scan goes on, it finds the arguments of each role. -/
theorem divide_eq_rolesAfter {before : List Bytes} (undecided : ¬ Decided before)
    (arguments : List Bytes) :
    divide (hasOperand before) (opensCommand before) arguments =
      (withRole .flag (rolesAfter before arguments),
        withRole .operand (rolesAfter before arguments)) := by
  induction arguments generalizing before with
  | nil => rfl
  | cons argument arguments ih =>
    have unseparated := (not_or.mp undecided).1
    rw [rolesAfter]
    by_cases ends : argument = separator
    · subst ends
      have decided : Decided (before ++ [separator]) := .inl (by simp)
      rw [divide_separator, role_eq_ending_iff.mpr ⟨rfl, undecided⟩,
        rolesAfter_of_decided decided]
      simp
    cases flag : isFlag argument with
    | true =>
      have later := ih (not_decided_append_flag flag undecided ends)
      rw [hasOperand_append_flag flag, opensCommand_append_flag flag unseparated ends] at later
      rw [divide_flag _ _ _ flag ends, later, role_eq_flag_iff.mpr ⟨flag, ends, undecided⟩]
      simp
    | false =>
      have operand : ¬ isFlag argument = true := by simp [flag]
      rw [role_eq_operand_iff.mpr (.inl flag)]
      cases opens : opensCommand before with
      | true =>
        have begins : CommandBegun (before ++ [argument]) :=
          ⟨by rw [opensCommand_append_operand flag, opens], hasOperand_append_operand flag⟩
        rw [divide_command _ _ operand, rolesAfter_of_decided (.inr begins)]
        simp
      | false =>
        have later := ih (not_decided_append_operand flag undecided opens)
        rw [hasOperand_append_operand flag, opensCommand_append_operand flag, opens] at later
        rw [divide_operand _ _ operand, later]
        simp

theorem divide_eq_roles (arguments : List Bytes) :
    divide false false arguments =
      (withRole .flag (roles arguments), withRole .operand (roles arguments)) :=
  divide_eq_rolesAfter not_decided_nil arguments

theorem hoisted_eq_withRole (arguments : List Bytes) :
    hoisted arguments = withRole .flag (roles arguments.tail) := by
  rw [hoisted, divide_eq_roles]

theorem operands_eq_withRole (arguments : List Bytes) :
    operands arguments = withRole .operand (roles arguments.tail) := by
  rw [operands, divide_eq_roles]

section
variable {told : List (Role × Bytes)}

theorem withRole_sublist (role : Role) (told : List (Role × Bytes)) :
    (withRole role told).Sublist (told.map Prod.snd) :=
  List.filter_sublist.map Prod.snd

theorem withRole_perm (told : List (Role × Bytes)) :
    (withRole .flag told ++ withRole .ending told ++ withRole .operand told).Perm
      (told.map Prod.snd) := by
  induction told with
  | nil => exact .nil
  | cons first told ih =>
    obtain ⟨role, argument⟩ := first
    rw [List.map_cons]
    cases role with
    | flag => simpa using ih
    | ending =>
      rw [List.append_assoc] at ih
      simpa using List.perm_middle.trans (ih.cons argument)
    | operand => simpa using List.perm_middle.trans (ih.cons argument)

end

theorem rolesAfter_length (before arguments : List Bytes) :
    (rolesAfter before arguments).length = arguments.length := by
  have listed := congrArg List.length (rolesAfter_map_snd before arguments)
  rwa [List.length_map] at listed

theorem rolesAfter_split {before arguments : List Bytes} {earlier later : List (Role × Bytes)}
    (split : rolesAfter before arguments = earlier ++ later) :
    rolesAfter before (earlier.map Prod.snd) = earlier ∧
      rolesAfter (before ++ earlier.map Prod.snd) (later.map Prod.snd) = later := by
  have listed := rolesAfter_map_snd before arguments
  rw [split, List.map_append] at listed
  rw [← listed, rolesAfter_append] at split
  apply List.append_inj split
  rw [rolesAfter_length, List.length_map]

theorem withRole_ending (before arguments : List Bytes) :
    withRole .ending (rolesAfter before arguments) = [] ∨
      withRole .ending (rolesAfter before arguments) = [separator] := by
  induction arguments generalizing before with
  | nil => exact .inl rfl
  | cons argument arguments ih =>
    rw [rolesAfter, withRole_cons]
    split
    · next ends =>
      obtain ⟨rfl, -⟩ := role_eq_ending_iff.mp ends
      have decided : Decided (before ++ [separator]) := .inl (by simp)
      right
      rw [rolesAfter_of_decided decided]
      simp
    · exact ih _

theorem decided_iff {before : List Bytes} :
    Decided before ↔ (.ending, separator) ∈ roles before ∨ CommandBegun before := by
  constructor
  · intro decided
    induction before using List.reverseRecOn with
    | nil => exact absurd decided not_decided_nil
    | append_singleton before argument ih =>
      rw [roles, rolesAfter_append, ← roles, List.mem_append]
      by_cases earlier : Decided before
      · exact (ih earlier).imp Or.inl (·.append _)
      · rcases decided with separated | begun
        · have ends : argument = separator := by
            by_contra apart
            exact not_separator_mem_append (fun member => earlier (.inl member)) apart separated
          have ending := role_eq_ending_iff.mpr ⟨ends, earlier⟩
          subst ends
          exact .inl (.inr (by simp [rolesAfter, ending]))
        · exact .inr begun
  · rintro (ended | begun)
    · left
      have listed := List.mem_map_of_mem (f := Prod.snd) ended
      rwa [roles, rolesAfter_map_snd] at listed
    · exact .inr begun

/-- How arguments come apart: each has one role, and what could be a flag is an operand just if
the separator that ends the flags stands before it, or the operand that begins a command. -/
structure Partition (arguments : List Bytes) (told : List (Role × Bytes)) : Prop where
  complete : told.map Prod.snd = arguments
  proper : ∀ flag ∈ withRole .flag told, isFlag flag = true ∧ flag ≠ separator
  ending : withRole .ending told = [] ∨ withRole .ending told = [separator]
  operand_iff : ∀ earlier part argument later, told = earlier ++ (part, argument) :: later →
    (part = .operand ↔ isFlag argument = false ∨
      (.ending, separator) ∈ earlier ∨ CommandBegun (earlier.map Prod.snd))

theorem partition_roles (arguments : List Bytes) : Partition arguments (roles arguments) := by
  constructor
  case complete => exact rolesAfter_map_snd [] arguments
  case proper =>
    intro flag member
    have moved : flag ∈ (divide false false arguments).1 := by rwa [divide_eq_roles]
    exact of_mem_divide moved
  case ending => exact withRole_ending [] arguments
  case operand_iff =>
    intro earlier part argument later split
    obtain ⟨before, behind⟩ := rolesAfter_split split
    have told : role (earlier.map Prod.snd) argument = part :=
      congrArg Prod.fst (List.cons.inj behind).1
    rw [← told, role_eq_operand_iff, decided_iff, roles, before]

/-- The arrangement is a stable partition of the arguments behind the program name. Every one of
them but the separator that ends the flags is a flag or an operand, and what looks like a flag is
an operand only behind that separator or in a command. -/
theorem arrangement_parts_arguments :
    arrange [] = [] ∧ ∀ program arguments,
      Partition arguments (roles arguments) ∧
      arrange (program :: arguments) = program :: withRole .flag (roles arguments) ++
        separator :: withRole .operand (roles arguments) ∧
      (withRole .flag (roles arguments)).Sublist arguments ∧
      (withRole .operand (roles arguments)).Sublist arguments ∧
      (arrange (program :: arguments) ++ withRole .ending (roles arguments)).Perm
        (separator :: program :: arguments) := by
  refine ⟨rfl, fun program arguments => ?_⟩
  have parted := partition_roles arguments
  have sublist : ∀ role, (withRole role (roles arguments)).Sublist arguments := by
    intro role
    have kept := withRole_sublist role (roles arguments)
    rwa [parted.complete] at kept
  have arranged : arrange (program :: arguments) = program :: withRole .flag (roles arguments) ++
      separator :: withRole .operand (roles arguments) := by
    rw [arrange, divide_eq_roles]
  refine ⟨parted, arranged, sublist .flag, sublist .operand, ?_⟩
  have whole := withRole_perm (roles arguments)
  rw [parted.complete, List.append_assoc] at whole
  have turned := (List.perm_append_comm.append_left _).trans whole
  calc arrange (program :: arguments) ++ withRole .ending (roles arguments)
    _ = program :: withRole .flag (roles arguments) ++ separator ::
          (withRole .operand (roles arguments) ++ withRole .ending (roles arguments)) := by
      simp only [arranged, List.append_assoc, List.cons_append]
    List.Perm _ (separator :: program :: (withRole .flag (roles arguments) ++
          (withRole .operand (roles arguments) ++ withRole .ending (roles arguments)))) :=
      List.perm_middle
    List.Perm _ (separator :: program :: arguments) := (turned.cons program).cons separator

end TerminalRelay.CommandLine
