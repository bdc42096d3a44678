import TerminalRelay.Proofs.CommandLine.Reading
import TerminalRelay.Proofs.CommandLine.Roles

/-! What stops the reading of a command line. The first mark that is out of order decides,
whatever follows: arguments that are added behind a command line leave its flags where they are
and can only put more behind them. -/

namespace TerminalRelay.CommandLine

inductive Offence (given : List Flag) : Mark → Rejection → Prop
  | help : Offence given (.letter 'h') .help
  | version : Offence given (.letter 'v') .version
  | unknown {c : Char} (question : c ≠ 'h' ∧ c ≠ 'v') (foreign : ∀ flag : Flag, flag.letter ≠ c) :
      Offence given (.letter c) (.unknownLetter c)
  | repeated {flag : Flag} (twice : flag ∈ given) : Offence given flag.mark (.repeated flag)
  | word (word : List Char) : Offence given (.word word) (refuseWord word)

/-- The first of the marks that is out of order. Before it each is the letter of another flag. -/
def FirstOffence (marks : List Mark) (rejection : Rejection) : Prop :=
  ∃ given mark later, marks = given.map Flag.mark ++ mark :: later ∧ given.Nodup ∧
    Offence given mark rejection

def Rejection.IsConflict (rejection : Rejection) : Prop :=
  ∃ first others, rejection = .conflict first others

variable {given : List Flag} {mark : Mark} {rejection : Rejection}

theorem Flag.ofLetter?_eq_none_iff {c : Char} :
    ofLetter? c = none ↔ ∀ flag : Flag, flag.letter ≠ c := by
  constructor
  · rintro unknown flag rfl
    rw [ofLetter?_letter] at unknown
    cases unknown
  · intro foreign
    cases found : ofLetter? c with
    | none => rfl
    | some flag => exact absurd (letter_of_ofLetter? found) (foreign flag)

theorem readMark_eq_error_iff :
    readMark given mark = .error rejection ↔ Offence given mark rejection := by
  constructor
  · intro refused
    unfold readMark at refused
    split at refused
    · cases refused
      exact .help
    · cases refused
      exact .version
    · next c noHelp noVersion =>
      split at refused
      · next unknown =>
        cases refused
        have question : c ≠ 'h' ∧ c ≠ 'v' := ⟨noHelp, noVersion⟩
        exact .unknown question (Flag.ofLetter?_eq_none_iff.mp unknown)
      · next flag found =>
        split at refused
        · next twice =>
          cases refused
          rw [← Flag.letter_of_ofLetter? found]
          exact .repeated twice
        · cases refused
    · next word =>
      cases refused
      exact .word word
  · intro offence
    cases offence with
    | help | version | word => rfl
    | @unknown c question foreign =>
      have noFlag := Flag.ofLetter?_eq_none_iff.mpr foreign
      unfold readMark
      split
      · next same => exact absurd (Mark.letter.inj same) question.1
      · next same => exact absurd (Mark.letter.inj same) question.2
      · next same =>
        cases same
        rw [noFlag]
      · next same => cases same
    | @repeated flag twice => cases flag <;> exact if_pos twice

theorem readMarks_eq_error_iff {marks : List Mark} :
    readMarks given marks = .error rejection ↔
      ∃ earlier mark later known, marks = earlier ++ mark :: later ∧
        readMarks given earlier = .ok known ∧ readMark known mark = .error rejection := by
  induction marks generalizing given with
  | nil =>
    refine ⟨nofun, ?_⟩
    rintro ⟨earlier, mark, later, known, split, -⟩
    simp at split
  | cons mark marks ih =>
    constructor
    · intro refused
      rw [readMarks] at refused
      split at refused
      · next first =>
        cases refused
        exact ⟨[], mark, marks, given, rfl, rfl, first⟩
      · next first =>
        obtain ⟨earlier, offender, later, known, rfl, read, last⟩ := ih.mp refused
        refine ⟨mark :: earlier, offender, later, known, rfl, ?_, last⟩
        rw [readMarks, first]
        exact read
    · rintro ⟨earlier, offender, later, known, split, read, last⟩
      rw [readMarks]
      cases earlier with
      | nil =>
        obtain ⟨rfl, rfl⟩ := List.cons.inj split
        cases read
        rw [last]
      | cons first earlier =>
        obtain ⟨rfl, rfl⟩ := List.cons.inj split
        rw [readMarks] at read
        split at read
        · cases read
        · next given first => exact ih.mpr ⟨earlier, offender, later, known, rfl, read, last⟩

theorem readMarks_refuses_iff {marks : List Mark} :
    readMarks [] marks = .error rejection ↔ FirstOffence marks rejection := by
  rw [readMarks_eq_error_iff]
  constructor
  · rintro ⟨earlier, mark, later, known, rfl, read, last⟩
    obtain ⟨_, rfl, once, -, rfl⟩ := readMarks_eq_ok_iff.mp read
    exact ⟨_, mark, later, rfl, once, readMark_eq_error_iff.mp last⟩
  · rintro ⟨flags, mark, later, rfl, once, offence⟩
    have read : readMarks [] (flags.map Flag.mark) = .ok flags :=
      readMarks_eq_ok_iff.mpr ⟨flags, rfl, once, fun _ _ => List.not_mem_nil, rfl⟩
    exact ⟨_, mark, later, flags, rfl, read, readMark_eq_error_iff.mpr offence⟩

theorem FirstOffence.append {marks : List Mark} (offence : FirstOffence marks rejection)
    (more : List Mark) : FirstOffence (marks ++ more) rejection := by
  obtain ⟨flags, mark, later, rfl, once, offence⟩ := offence
  exact ⟨flags, mark, later ++ more, by simp, once, offence⟩

theorem isConflict_of_conflict? (blamed : conflict? given = some rejection) :
    rejection.IsConflict := by
  simp only [conflict?] at blamed
  split at blamed
  · split at blamed <;> cases blamed <;> exact ⟨_, _, rfl⟩
  · cases blamed

/-- A command line that is refused, and not for a conflict, has a first mark out of order. -/
theorem parse_refuses_iff {arguments : List Bytes} (single : ¬ rejection.IsConflict) :
    parse arguments = .error rejection ↔
      FirstOffence ((hoisted arguments).flatMap marks) rejection := by
  rw [parse_eq, readOptions, ← readMarks_refuses_iff]
  cases read : readMarks [] ((hoisted arguments).flatMap marks) with
  | error other => simp only [Except.error.injEq]
  | ok given =>
    constructor
    · intro refused
      cases blamed : conflict? given with
      | none =>
        simp only [blamed] at refused
        cases refused
      | some conflict =>
        simp only [blamed] at refused
        cases refused
        exact absurd (isConflict_of_conflict? blamed) single
    · intro refused
      cases refused

theorem hoisted_append (arguments more : List Bytes) :
    hoisted arguments <+: hoisted (arguments ++ more) := by
  cases arguments with
  | nil => exact List.nil_prefix
  | cons program arguments =>
    rw [hoisted_eq_withRole, hoisted_eq_withRole, List.cons_append, List.tail_cons,
      List.tail_cons, roles, roles, rolesAfter_append, withRole_append]
    exact List.prefix_append _ _

/-- A command line that is refused, and not for flags that exclude each other, is refused for the
first mark out of order among its flags, and for the same reason whatever arguments follow. -/
theorem first_offence_decides {arguments : List Bytes} (single : ¬ rejection.IsConflict)
    (refused : parse arguments = .error rejection) (more : List Bytes) :
    FirstOffence ((hoisted arguments).flatMap marks) rejection ∧
      parse (arguments ++ more) = .error rejection := by
  have offence := (parse_refuses_iff single).mp refused
  refine ⟨offence, (parse_refuses_iff single).mpr ?_⟩
  obtain ⟨later, same⟩ := hoisted_append arguments more
  rw [← same, List.flatMap_append]
  exact offence.append _

/-- `7 -sxh`, and behind it `--help -L sh`, the separator and an argument that is no text: still the
letter `x` is what is not understood. -/
theorem unknown_letter_decides :
    ¬ (Rejection.unknownLetter 'x').IsConflict ∧
      parse [[0x72], [0x37], [0x2d, 0x73, 0x78, 0x68]] = .error (.unknownLetter 'x') ∧
      parse ([[0x72], [0x37], [0x2d, 0x73, 0x78, 0x68]] ++
        [Text.encode "--help", [0x2d, 0x4c], [0x73, 0x68], separator, [0xff]]) =
        .error (.unknownLetter 'x') := by
  have single : ¬ (Rejection.unknownLetter 'x').IsConflict := by
    rintro ⟨first, others, same⟩
    cases same
  have refused : parse [[0x72], [0x37], [0x2d, 0x73, 0x78, 0x68]] =
      .error (.unknownLetter 'x') := rfl
  exact ⟨single, refused, (first_offence_decides single refused _).2⟩

example : parse [[0x72], [0x2d, 0x54], [0x2d, 0x6c]] = .error (.conflict .steal [.openPty]) ∧
    parse [[0x72], [0x2d, 0x54], [0x2d, 0x6c], [0x2d, 0x76]] = .error .version := ⟨rfl, rfl⟩

end TerminalRelay.CommandLine
