import Mathlib.Data.List.Basic
import TerminalRelay.Proofs.CommandLine.Reading
import TerminalRelay.Proofs.CommandLine.Roles

/-! Letters behind one dash and letters behind a dash each mean the same. Of a flag only its marks
are read, and only whether it opens a pty tells on what stands behind it, so flags that agree in
both stand for each other wherever flags are looked at. -/

namespace TerminalRelay.CommandLine

section
variable {before flags others : List Bytes}

section
variable (proper : ∀ flag ∈ flags, isProperFlag flag = true) (more : List Bytes)
include proper

theorem opensCommand_around_flags :
    opensCommand (before ++ flags ++ more) = (opensCommand before ||
      before.all isProperFlag && (flags.any opensPty || opensCommand more)) := by
  have opens : opensCommand flags = flags.any opensPty := by
    rw [opensCommand, leading_of_proper proper]
  have all : flags.all isProperFlag = true := List.all_eq_true.mpr proper
  rw [List.append_assoc, opensCommand_append, opensCommand_append, opens, all, Bool.true_and]

theorem hasOperand_around_flags :
    hasOperand (before ++ flags ++ more) = (hasOperand before || hasOperand more) := by
  rw [hasOperand_append, hasOperand_append, hasOperand_of_proper proper, Bool.or_false]

theorem separator_mem_around_flags :
    separator ∈ before ++ flags ++ more ↔ separator ∈ before ∨ separator ∈ more := by
  simp [separator_not_mem_of_proper proper]

end

theorem decided_replace (proper : ∀ flag ∈ flags, isProperFlag flag = true)
    (too : ∀ flag ∈ others, isProperFlag flag = true)
    (sameOpens : flags.any opensPty = others.any opensPty) (more : List Bytes) :
    Decided (before ++ flags ++ more) ↔ Decided (before ++ others ++ more) := by
  rw [Decided, Decided, CommandBegun, CommandBegun, separator_mem_around_flags proper,
    separator_mem_around_flags too, opensCommand_around_flags proper,
    opensCommand_around_flags too, hasOperand_around_flags proper, hasOperand_around_flags too,
    sameOpens]

theorem rolesAfter_congr (alike : ∀ more, Decided (before ++ more) ↔ Decided (others ++ more))
    (arguments : List Bytes) : rolesAfter before arguments = rolesAfter others arguments := by
  induction arguments generalizing before others with
  | nil => rfl
  | cons argument arguments ih =>
    have same : role before argument = role others argument := by
      have now := alike []
      simp only [List.append_nil] at now
      simp only [role, now]
    have later : ∀ more, Decided (before ++ [argument] ++ more) ↔
        Decided (others ++ [argument] ++ more) := by
      intro more
      simpa using alike ([argument] ++ more)
    rw [rolesAfter, rolesAfter, same, ih later]

theorem rolesAfter_flags (undecided : ¬ Decided before)
    (proper : ∀ flag ∈ flags, isProperFlag flag = true) :
    rolesAfter before flags = flags.map (.flag, ·) := by
  induction flags generalizing before with
  | nil => rfl
  | cons flag flags ih =>
    obtain ⟨first, rest⟩ := List.forall_mem_cons.mp proper
    obtain ⟨isFlag, apart⟩ := isProperFlag_iff.mp first
    rw [rolesAfter, role_eq_flag_iff.mpr ⟨isFlag, apart, undecided⟩,
      ih (not_decided_append_flag isFlag undecided apart) rest, List.map_cons]

theorem roles_around_flags (undecided : ¬ Decided before)
    (proper : ∀ flag ∈ flags, isProperFlag flag = true) (after : List Bytes) :
    roles (before ++ flags ++ after) =
      roles before ++ flags.map (.flag, ·) ++ rolesAfter (before ++ flags) after := by
  rw [roles, rolesAfter_append, rolesAfter_append, List.nil_append, List.nil_append,
    rolesAfter_flags undecided proper, roles]

theorem readOptions_of_marks (same : flags.flatMap marks = others.flatMap marks)
    (operands : List Bytes) : readOptions flags operands = readOptions others operands := by
  rw [readOptions, readOptions, same]

/-- Flags that carry the same marks and open a pty alike stand for each other. -/
theorem parse_replace (program : Bytes) (undecided : ¬ Decided before)
    (proper : ∀ flag ∈ flags, isProperFlag flag = true)
    (too : ∀ flag ∈ others, isProperFlag flag = true)
    (sameMarks : flags.flatMap marks = others.flatMap marks)
    (sameOpens : flags.any opensPty = others.any opensPty) (after : List Bytes) :
    parse (program :: (before ++ flags ++ after)) =
      parse (program :: (before ++ others ++ after)) := by
  have behind : rolesAfter (before ++ flags) after = rolesAfter (before ++ others) after :=
    rolesAfter_congr (decided_replace proper too sameOpens) after
  have one := roles_around_flags undecided proper after
  have other := roles_around_flags undecided too after
  rw [behind] at one
  have operands : operands (program :: (before ++ flags ++ after)) =
      operands (program :: (before ++ others ++ after)) := by
    rw [operands_eq_withRole, operands_eq_withRole, List.tail_cons, List.tail_cons, one, other]
    simp
  rw [parse_eq, parse_eq, operands]
  apply readOptions_of_marks
  rw [hoisted_eq_withRole, hoisted_eq_withRole, List.tail_cons, List.tail_cons, one, other]
  simp [sameMarks]

end

/-! Letters behind a dash. -/

/-- ASCII without a dash. -/
def AreLetters (letters : Bytes) : Prop :=
  ∀ letter ∈ letters, letter < 0x80 ∧ letter ≠ 0x2d

instance : DecidablePred AreLetters :=
  fun letters => List.decidableBAll (fun letter => letter < 0x80 ∧ letter ≠ 0x2d) letters

example : AreLetters [0x6c, 0x4c, 0x73, 0x54, 0x56, 0x68, 0x76] := by decide

section
variable {letters : Bytes} (plain : AreLetters letters)
include plain

theorem decode?_letters :
    Text.decode? (0x2d :: letters) = some ('-' :: letters.map Text.asciiChar) := by
  have ascii : ∀ byte ∈ 0x2d :: letters, byte < 0x80 :=
    List.forall_mem_cons.mpr ⟨by decide, fun letter member => (plain letter member).1⟩
  rw [Text.decode?_of_ascii ascii]
  rfl

theorem dash_not_mem : '-' ∉ letters.map Text.asciiChar := by
  intro member
  obtain ⟨letter, stands, dash⟩ := List.mem_map.mp member
  obtain ⟨ascii, apart⟩ := plain letter stands
  exact apart (Text.asciiChar_injective ascii (by decide) dash)

theorem isProperFlag_letters (some : letters ≠ []) : isProperFlag (0x2d :: letters) = true := by
  obtain ⟨letter, rest, rfl⟩ := List.exists_cons_of_ne_nil some
  have flag : isFlag (0x2d :: letter :: rest) = true :=
    isFlag_eq_true_iff.mpr ⟨_, _, decode?_letters plain⟩
  have apart : 0x2d :: letter :: rest ≠ separator := by
    intro same
    have dash := (List.cons.inj (List.cons.inj same).2).1
    exact (plain letter List.mem_cons_self).2 dash
  exact isProperFlag_iff.mpr ⟨flag, apart⟩

theorem marks_letters :
    marks (0x2d :: letters) = letters.map fun letter => .letter (Text.asciiChar letter) := by
  have dashless := dash_not_mem plain
  have decoded := decode?_letters plain
  cases letters with
  | nil => rfl
  | cons letter rest =>
    have apart : Text.asciiChar letter ≠ '-' := fun dash => dashless (dash ▸ List.mem_cons_self)
    rw [List.map_cons] at decoded
    rw [marks_of_letters decoded apart, ← List.map_cons, List.map_map]
    rfl

theorem opensPty_letters :
    opensPty (0x2d :: letters) = true ↔
      ∃ letter ∈ letters, Text.asciiChar letter = 'l' ∨ Text.asciiChar letter = 'L' := by
  have found : ('l' ∈ letters.map Text.asciiChar ∨ 'L' ∈ letters.map Text.asciiChar) ↔
      ∃ letter ∈ letters, Text.asciiChar letter = 'l' ∨ Text.asciiChar letter = 'L' := by
    simp only [List.mem_map, ← exists_or, ← and_or_left]
  rw [opensPty_eq_true_iff, ← found]
  constructor
  · rintro ⟨text, decoded, -, opens⟩
    cases (decode?_letters plain).symm.trans decoded
    exact opens
  · intro opens
    have single := fun dash => dash_not_mem plain (List.mem_of_head? dash)
    exact ⟨_, decode?_letters plain, single, opens⟩

end

/-- Each letter behind a dash of its own. -/
def singly (letters : Bytes) : List Bytes :=
  letters.map ([0x2d, ·])

section
variable {letters : Bytes} (plain : AreLetters letters)
include plain

theorem AreLetters.single {letter : UInt8} (stands : letter ∈ letters) : AreLetters [letter] := by
  intro other member
  rw [List.mem_singleton.mp member]
  exact plain letter stands

theorem isProperFlag_singly : ∀ flag ∈ singly letters, isProperFlag flag = true := by
  intro flag member
  obtain ⟨letter, stands, rfl⟩ := List.mem_map.mp member
  exact isProperFlag_letters (plain.single stands) (List.cons_ne_nil letter [])

theorem marks_singly : (singly letters).flatMap marks = marks (0x2d :: letters) := by
  have each : ∀ letter ∈ letters, marks [0x2d, letter] = [.letter (Text.asciiChar letter)] :=
    fun letter stands => marks_letters (plain.single stands)
  rw [singly, List.flatMap_map, marks_letters plain, List.map_eq_flatMap]
  exact List.flatMap_congr each

theorem opensPty_singly : (singly letters).any opensPty = opensPty (0x2d :: letters) := by
  rw [Bool.eq_iff_iff, opensPty_letters plain, singly, List.any_map, List.any_eq_true]
  apply exists_congr
  intro letter
  apply and_congr_right
  intro stands
  exact (opensPty_letters (plain.single stands)).trans (by simp)

end

/-- A hoisted flag can be written letter by letter: the command line reads the same, or is refused
for the same reason. -/
theorem clusters_read_as_single_letters {program : Bytes} {before after : List Bytes}
    {letters : Bytes} (plain : AreLetters letters)
    (isHoisted : role before (0x2d :: letters) = .flag) :
    parse (program :: before ++ (0x2d :: letters) :: after) =
      parse (program :: before ++ singly letters ++ after) := by
  obtain ⟨flag, apart, undecided⟩ := role_eq_flag_iff.mp isHoisted
  have proper : ∀ other ∈ [0x2d :: letters], isProperFlag other = true := by
    intro other member
    rw [List.mem_singleton.mp member]
    exact isProperFlag_iff.mpr ⟨flag, apart⟩
  have sameMarks : [0x2d :: letters].flatMap marks = (singly letters).flatMap marks := by
    rw [List.flatMap_singleton, marks_singly plain]
  have sameOpens : [0x2d :: letters].any opensPty = (singly letters).any opensPty := by
    rw [opensPty_singly plain]
    exact Bool.or_false _
  have replaced := parse_replace program undecided proper (isProperFlag_singly plain)
    sameMarks sameOpens after
  simpa using replaced

/-- `-T -VL sh -V`, and its cluster letter by letter: the takeover is blamed for the pty. -/
theorem conflicting_cluster_reads_alike :
    AreLetters [0x56, 0x4c] ∧ role [[0x2d, 0x54]] [0x2d, 0x56, 0x4c] = .flag ∧
      parse [[0x72], [0x2d, 0x54], [0x2d, 0x56, 0x4c], [0x73, 0x68], [0x2d, 0x56]] =
        parse [[0x72], [0x2d, 0x54], [0x2d, 0x56], [0x2d, 0x4c], [0x73, 0x68], [0x2d, 0x56]] ∧
      parse [[0x72], [0x2d, 0x54], [0x2d, 0x56, 0x4c], [0x73, 0x68], [0x2d, 0x56]] =
        .error (.conflict .steal [.redirect]) := by
  have plain : AreLetters [0x56, 0x4c] := by decide
  have isHoisted : role [[0x2d, 0x54]] [0x2d, 0x56, 0x4c] = .flag := by decide
  exact ⟨plain, isHoisted, clusters_read_as_single_letters plain isHoisted, rfl⟩

end TerminalRelay.CommandLine
