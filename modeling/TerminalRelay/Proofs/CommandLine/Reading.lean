import TerminalRelay.Proofs.CommandLine.Arrangement

/-! Command lines that are accepted. Every flag of one is a cluster of letters, no letter is
given twice, and an option is on just if its letter stands in a cluster. So whether the
operands are a command, which is looked up in the clusters before they are read, agrees with
the options that come of the reading. -/

namespace TerminalRelay.CommandLine

theorem Flag.letter_injective {flag other : Flag} (same : flag.letter = other.letter) :
    flag = other := by
  have found := ofLetter?_letter flag
  rw [same, ofLetter?_letter] at found
  exact (Option.some.inj found).symm

theorem Flag.letter_ne_dash (flag : Flag) : flag.letter ≠ '-' := by
  cases flag <;> decide

def Flag.mark (flag : Flag) : Mark :=
  .letter flag.letter

theorem readMark_eq_ok_iff {given final : List Flag} {mark : Mark} :
    readMark given mark = .ok final ↔
      ∃ flag : Flag, mark = flag.mark ∧ flag ∉ given ∧ final = given ++ [flag] := by
  constructor
  · intro read
    unfold readMark at read
    split at read
    · cases read
    · cases read
    · next c _ _ =>
      split at read
      · cases read
      · next flag found =>
        split at read
        · cases read
        · next new =>
          cases read
          exact ⟨flag, by rw [Flag.mark, Flag.letter_of_ofLetter? found], new, rfl⟩
    · cases read
  · rintro ⟨flag, rfl, new, rfl⟩
    cases flag <;> exact if_neg new

theorem readMarks_eq_ok_iff {given final : List Flag} {marks : List Mark} :
    readMarks given marks = .ok final ↔
      ∃ flags : List Flag, marks = flags.map Flag.mark ∧ flags.Nodup ∧
        (∀ flag ∈ flags, flag ∉ given) ∧ final = given ++ flags := by
  induction marks generalizing given with
  | nil =>
    constructor
    · intro read
      cases read
      exact ⟨[], rfl, List.nodup_nil, nofun, (List.append_nil _).symm⟩
    · rintro ⟨flags, none, -, -, rfl⟩
      rw [List.map_eq_nil_iff.mp none.symm, List.append_nil]
      rfl
  | cons mark marks ih =>
    constructor
    · intro read
      rw [readMarks] at read
      split at read
      · cases read
      · next first =>
        obtain ⟨flag, rfl, new, rfl⟩ := readMark_eq_ok_iff.mp first
        obtain ⟨flags, rfl, once, others, rfl⟩ := ih.mp read
        have fresh : flag ∉ flags := fun twice =>
          others flag twice (List.mem_append_right _ (List.mem_singleton_self flag))
        refine ⟨flag :: flags, rfl, List.nodup_cons.mpr ⟨fresh, once⟩, ?_, by simp⟩
        rw [List.forall_mem_cons]
        exact ⟨new, fun other member => fun old =>
          others other member (List.mem_append_left _ old)⟩
    · rintro ⟨flags, split, once, new, rfl⟩
      cases flags with
      | nil => cases split
      | cons flag flags =>
        obtain ⟨rfl, rfl⟩ := List.cons.inj split
        obtain ⟨fresh, rest⟩ := List.nodup_cons.mp once
        obtain ⟨first, others⟩ := List.forall_mem_cons.mp new
        rw [readMarks, readMark_eq_ok_iff.mpr ⟨flag, rfl, first, rfl⟩]
        refine ih.mpr ⟨flags, rfl, rest, ?_, by simp⟩
        intro other member old
        rcases List.mem_append.mp old with earlier | just
        · exact others other member earlier
        · exact fresh (List.mem_singleton.mp just ▸ member)

/-- Flags are accepted just if their marks are letters of options, each at most once and with
none that it does not go with. -/
theorem readOptions_eq_ok_iff {flags operands : List Bytes} {options : Options} :
    readOptions flags operands = .ok options ↔
      ∃ given : List Flag, flags.flatMap marks = given.map Flag.mark ∧ given.Nodup ∧
        conflict? given = none ∧ options = Options.ofFlags given operands := by
  constructor
  · intro read
    rw [readOptions] at read
    split at read
    · cases read
    · next given letters =>
      split at read
      · cases read
      · next peaceful =>
        cases read
        obtain ⟨_, same, once, -, rfl⟩ := readMarks_eq_ok_iff.mp letters
        exact ⟨_, same, once, peaceful, rfl⟩
  · rintro ⟨given, same, once, peaceful, rfl⟩
    have letters : readMarks [] (flags.flatMap marks) = .ok given :=
      readMarks_eq_ok_iff.mpr ⟨given, same, once, fun _ _ => List.not_mem_nil, rfl⟩
    simp only [readOptions, letters, peaceful]

def Options.has (options : Options) : Flag → Bool
  | .openPty => options.openPty
  | .redirect => options.redirect
  | .forceStdio => options.forceStdio
  | .steal => options.steal
  | .verbose => options.verbose

theorem Options.has_ofFlags (given : List Flag) (operands : List Bytes) (flag : Flag) :
    (Options.ofFlags given operands).has flag = given.contains flag := by
  cases flag <;> rfl

def occurs (letter : Char) (flags : List Bytes) : Bool :=
  flags.any fun flag => (Text.decode? flag).any (·.contains letter)

theorem occurs_iff {letter : Char} {flags : List Bytes} :
    occurs letter flags = true ↔
      ∃ flag ∈ flags, ∃ text, Text.decode? flag = some text ∧ letter ∈ text := by
  simp [occurs, Option.any_eq_true]

/-- An argument that is the letters of these flags behind one dash. -/
def IsCluster (argument : Bytes) (cluster : List Flag) : Prop :=
  cluster ≠ [] ∧ Text.decode? argument = some ('-' :: cluster.map Flag.letter)

theorem marks_of_word {argument : Bytes} {word : List Char}
    (decoded : Text.decode? argument = some ('-' :: '-' :: word)) :
    marks argument = [.word word] := by
  rw [marks, decoded]
  rfl

theorem marks_of_letters {argument : Bytes} {c : Char} {letters : List Char}
    (decoded : Text.decode? argument = some ('-' :: c :: letters)) (single : c ≠ '-') :
    marks argument = (c :: letters).map .letter := by
  rw [marks, decoded]
  split
  · next same => cases same; exact absurd rfl single
  · next same => cases same; rfl
  · next other => exact absurd rfl (other (c :: letters))

private theorem letters_are_flags {letters : List Char} {given : List Flag}
    (all : ∀ c ∈ letters, ∃ flag ∈ given, flag.letter = c) :
    ∃ cluster : List Flag, cluster.map Flag.letter = letters ∧ ∀ flag ∈ cluster, flag ∈ given := by
  induction letters with
  | nil => exact ⟨[], rfl, nofun⟩
  | cons c letters ih =>
    obtain ⟨⟨flag, member, rfl⟩, others⟩ := List.forall_mem_cons.mp all
    obtain ⟨cluster, rfl, members⟩ := ih others
    exact ⟨flag :: cluster, rfl, List.forall_mem_cons.mpr ⟨member, members⟩⟩

section
variable {flags : List Bytes} {given : List Flag}
  (read : flags.flatMap marks = given.map Flag.mark)
include read

theorem cluster_of_read {argument : Bytes} (member : argument ∈ flags) (flag : isFlag argument) :
    ∃ cluster, IsCluster argument cluster ∧ ∀ flag ∈ cluster, flag ∈ given := by
  obtain ⟨c, text, decoded⟩ := isFlag_eq_true_iff.mp flag
  have isLetter : ∀ mark ∈ marks argument, ∃ flag ∈ given, flag.mark = mark := by
    intro mark marked
    have found : mark ∈ flags.flatMap marks := List.mem_flatMap.mpr ⟨argument, member, marked⟩
    rw [read] at found
    exact List.mem_map.mp found
  by_cases double : c = '-'
  · subst double
    rw [marks_of_word decoded] at isLetter
    obtain ⟨flag, -, same⟩ := isLetter _ (List.mem_singleton_self _)
    cases same
  · rw [marks_of_letters decoded double] at isLetter
    have all : ∀ x ∈ c :: text, ∃ flag ∈ given, flag.letter = x := by
      intro x stands
      obtain ⟨flag, present, same⟩ := isLetter _ (List.mem_map_of_mem stands)
      exact ⟨flag, present, Mark.letter.inj same⟩
    obtain ⟨cluster, same, members⟩ := letters_are_flags all
    refine ⟨cluster, ⟨?_, by rw [decoded, same]⟩, members⟩
    rintro rfl
    cases same

theorem mem_given_iff (areFlags : ∀ argument ∈ flags, isFlag argument) (flag : Flag) :
    flag ∈ given ↔ occurs flag.letter flags = true := by
  rw [occurs_iff]
  constructor
  · intro member
    have found : flag.mark ∈ flags.flatMap marks := by
      rw [read]
      exact List.mem_map_of_mem member
    obtain ⟨argument, member, marked⟩ := List.mem_flatMap.mp found
    obtain ⟨c, text, decoded⟩ := isFlag_eq_true_iff.mp (areFlags argument member)
    refine ⟨argument, member, _, decoded, List.mem_cons_of_mem _ ?_⟩
    by_cases double : c = '-'
    · subst double
      rw [marks_of_word decoded] at marked
      cases List.mem_singleton.mp marked
    · rw [marks_of_letters decoded double] at marked
      obtain ⟨x, stands, same⟩ := List.mem_map.mp marked
      exact Mark.letter.inj same ▸ stands
  · rintro ⟨argument, member, text, decoded, stands⟩
    obtain ⟨cluster, ⟨-, same⟩, members⟩ := cluster_of_read read member (areFlags argument member)
    rw [decoded] at same
    cases same
    rcases List.mem_cons.mp stands with dash | letter
    · exact absurd dash flag.letter_ne_dash
    · obtain ⟨other, present, same⟩ := List.mem_map.mp letter
      exact Flag.letter_injective same ▸ members other present

end

section
variable {arguments : List Bytes} {options : Options} (parsed : parse arguments = .ok options)
include parsed

theorem operands_of_parse : options.operands = operands arguments := by
  rw [parse_eq] at parsed
  obtain ⟨given, -, -, -, rfl⟩ := readOptions_eq_ok_iff.mp parsed
  rfl

theorem has_of_parse (flag : Flag) : options.has flag = occurs flag.letter (hoisted arguments) := by
  rw [parse_eq] at parsed
  obtain ⟨given, read, -, -, rfl⟩ := readOptions_eq_ok_iff.mp parsed
  have areFlags : ∀ argument ∈ hoisted arguments, isFlag argument :=
    fun argument member => (of_mem_divide member).1
  rw [Options.has_ofFlags, Bool.eq_iff_iff, ← mem_given_iff read areFlags, List.contains_iff_mem]

theorem cluster_of_parse {argument : Bytes} (member : argument ∈ hoisted arguments) :
    ∃ cluster, IsCluster argument cluster ∧ ∀ flag ∈ cluster, options.has flag = true := by
  rw [parse_eq] at parsed
  obtain ⟨given, read, -, -, rfl⟩ := readOptions_eq_ok_iff.mp parsed
  obtain ⟨cluster, isCluster, members⟩ := cluster_of_read read member (of_mem_divide member).1
  refine ⟨cluster, isCluster, fun flag member => ?_⟩
  rw [Options.has_ofFlags, List.contains_iff_mem]
  exact members flag member

theorem opens_of_parse {argument : Bytes} (member : argument ∈ hoisted arguments)
    (letters : opensPty argument = true) : options.openPty = true ∨ options.redirect = true := by
  obtain ⟨text, decoded, -, opening⟩ := opensPty_eq_true_iff.mp letters
  have present : ∀ flag : Flag, flag.letter ∈ text → options.has flag = true := by
    intro flag stands
    rw [has_of_parse parsed, occurs_iff]
    exact ⟨argument, member, _, decoded, List.mem_cons_of_mem _ stands⟩
  exact opening.imp (present .openPty) (present .redirect)

end
end TerminalRelay.CommandLine
