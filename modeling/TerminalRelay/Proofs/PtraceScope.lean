import Mathlib.Data.List.DropRight
import TerminalRelay.Proofs.Runs
import TerminalRelay.Proofs.Text.Decimal
import TerminalRelay.Proofs.Text.Encoding
import TerminalRelay.Takeover.Backend

/-! What the kernel's policy file is read as. Its level is a number of one byte, and a file without
one is refused for what is wrong with it first: that it is no text, that it is blank, that the
number is too large, or that it is no number. -/

namespace TerminalRelay

namespace Text

/-- A text between blanks: what is left of it at both ends begins and ends with something else. -/
structure Trims (text core : List Char) : Prop where
  around : ∃ before after, text = before ++ core ++ after ∧
    (∀ c ∈ before, isBlank c) ∧ ∀ c ∈ after, isBlank c
  first : ∀ c ∈ core.head?, isBlank c = false
  last : ∀ c ∈ core.getLast?, isBlank c = false

theorem trims_trim (text : List Char) : Trims text (trim text) := by
  have same : trim text = (text.dropWhile isBlank).rdropWhile isBlank := rfl
  rw [same]
  refine ⟨⟨text.takeWhile isBlank, (text.dropWhile isBlank).rtakeWhile isBlank, ?_, ?_, ?_⟩, ?_, ?_⟩
  · rw [List.append_assoc, List.rdropWhile_append_rtakeWhile, List.takeWhile_append_dropWhile]
  · exact fun c => List.mem_takeWhile_imp
  · exact fun c => List.mem_rtakeWhile_imp
  · intro c first
    have stopped := List.head?_dropWhile_not isBlank text
    obtain ⟨after, whole⟩ := List.rdropWhile_prefix isBlank (text.dropWhile isBlank)
    rw [← whole, List.head?_append, first] at stopped
    exact stopped
  · intro c last
    have nonempty : (text.dropWhile isBlank).rdropWhile isBlank ≠ [] := by
      intro nothing
      rw [nothing] at last
      cases last
    have stopped := List.rdropWhile_last_not isBlank (text.dropWhile isBlank) nonempty
    rw [List.getLast?_eq_some_getLast nonempty, Option.mem_some_iff] at last
    rw [← last]
    exact Bool.eq_false_iff.mpr stopped

theorem Trims.trim_eq {text core : List Char} (trims : Trims text core) : trim text = core := by
  obtain ⟨⟨before, after, rfl, blankBefore, blankAfter⟩, first, last⟩ := trims
  have afterwards : ∀ c ∈ after.reverse, isBlank c := by simpa using blankAfter
  have ends : core.reverse.dropWhile isBlank = core.reverse := by
    rw [← List.head?_reverse] at last
    cases reversed : core.reverse with
    | nil => rfl
    | cons c others =>
      rw [reversed] at last
      exact List.dropWhile_cons_of_neg (Bool.eq_false_iff.mp (last c rfl))
  rw [trim, List.append_assoc, List.dropWhile_append_of_pos blankBefore]
  cases core with
  | nil =>
    rw [List.nil_append, List.dropWhile_eq_nil_iff.mpr blankAfter]
    rfl
  | cons c others =>
    rw [List.cons_append, List.dropWhile_cons_of_neg (Bool.eq_false_iff.mp (first c rfl)),
      ← List.cons_append, List.reverse_append, List.dropWhile_append_of_pos afterwards, ends,
      List.reverse_reverse]

end Text

namespace PtraceScope

/-- The file is text, and this is what stands in it between blanks. -/
def Holds (contents : Bytes) (core : List Char) : Prop :=
  ∃ text, contents = Text.encode (String.ofList text) ∧ Text.Trims text core

/-- Why the contents of the file are no level. -/
inductive Faulty (contents : Bytes) : ScopeFault → Prop
  | notText (other : ∀ text, contents ≠ Text.encode text) : Faulty contents .notText
  | notNumber {core : List Char} {fault : Text.NumberFault} (holds : Holds contents core)
      (refused : Text.Refused 255 core fault) : Faulty contents (.notNumber fault)

theorem holds_iff {contents : Bytes} {core : List Char} :
    Holds contents core ↔ ∃ text, Text.decode? contents = some text ∧ Text.trim text = core := by
  constructor
  · intro ⟨text, encoded, trims⟩
    exact ⟨text, Text.decode?_eq_some_iff.mpr encoded, trims.trim_eq⟩
  · intro ⟨text, decoded, trimmed⟩
    rw [← trimmed]
    exact ⟨text, Text.decode?_eq_some_iff.mp decoded, Text.trims_trim text⟩

theorem parse_of_holds {contents : Bytes} {core : List Char} (holds : Holds contents core) :
    parse contents = (Text.readNumber 255 core).mapError .notNumber := by
  obtain ⟨text, decoded, rfl⟩ := holds_iff.mp holds
  simp only [parse, decoded]
  cases Text.readNumber 255 (Text.trim text) <;> rfl

theorem holds_or_notText (contents : Bytes) :
    (∃ core, Holds contents core) ∨
      (∀ text, contents ≠ Text.encode text) ∧ parse contents = .error .notText := by
  cases decoded : Text.decode? contents with
  | some text => exact .inl ⟨_, holds_iff.mpr ⟨text, decoded, rfl⟩⟩
  | none =>
    refine .inr ⟨?_, by rw [parse, decoded]⟩
    intro text same
    rw [same, Text.decode?_encode] at decoded
    cases decoded

theorem mapError_eq_ok_iff {α ε ε' : Type} {f : ε → ε'} {outcome : Except ε α} {value : α} :
    outcome.mapError f = .ok value ↔ outcome = .ok value := by
  cases outcome <;> simp [Except.mapError]

theorem mapError_eq_error_iff {α ε ε' : Type} {f : ε → ε'} {outcome : Except ε α} {error : ε'} :
    outcome.mapError f = .error error ↔ ∃ found, outcome = .error found ∧ error = f found := by
  cases outcome <;> simp [Except.mapError, eq_comm]

theorem parse_eq_ok_iff {contents : Bytes} {level : Nat} :
    parse contents = .ok level ↔
      ∃ core, Holds contents core ∧ Text.readNumber 255 core = .ok level := by
  constructor
  · intro read
    rcases holds_or_notText contents with ⟨core, holds⟩ | ⟨-, refused⟩
    · rw [parse_of_holds holds, mapError_eq_ok_iff] at read
      exact ⟨core, holds, read⟩
    · rw [refused] at read
      cases read
  · intro ⟨core, holds, number⟩
    rw [parse_of_holds holds, number]
    rfl

theorem parse_eq_error_iff {contents : Bytes} {fault : ScopeFault} :
    parse contents = .error fault ↔ Faulty contents fault := by
  constructor
  · intro read
    rcases holds_or_notText contents with ⟨core, holds⟩ | ⟨other, refused⟩
    · rw [parse_of_holds holds, mapError_eq_error_iff] at read
      obtain ⟨found, number, same⟩ := read
      rw [same]
      exact .notNumber holds (Text.readNumber_eq_error_iff.mp number)
    · rw [refused] at read
      cases read
      exact .notText other
  · intro faulty
    cases faulty with
    | notText other =>
      rcases holds_or_notText contents with ⟨core, text, same, -⟩ | ⟨-, refused⟩
      · exact absurd same (other _)
      · exact refused
    | notNumber holds refused =>
      rw [parse_of_holds holds, Text.readNumber_of_refused refused]
      rfl

theorem ScopeFault.message_injective : Function.Injective ScopeFault.message := by
  intro fault other same
  rcases fault with _ | (_ | _ | _) <;> rcases other with _ | (_ | _ | _)
  all_goals first | rfl | exact absurd same (by decide)

/-- The program that reads the file comes to this when the file has these contents. -/
def Reads (path : String) (contents : Bytes) (outcome : Except IoFailure Nat) : Prop :=
  World.unruly.Run () (Backend.readScope path) [⟨.readFile path, .ok contents⟩] () (.done outcome)

theorem reads_iff {path : String} {contents : Bytes} {outcome : Except IoFailure Nat} :
    Reads path contents outcome ↔ (parse contents).mapError ScopeFault.failure = outcome := by
  constructor
  · intro run
    obtain ⟨_, answer, _, later, -, -, events, rest⟩ := World.Run.of_ask run
    cases events
    obtain ⟨-, -, finished⟩ := World.Run.of_done rest
    cases finished
    rfl
  · intro same
    rw [← same]
    exact .freely (show (Request.readFile path).Answer from .ok contents) .here

/-- The level is read exactly. Contents that are text have one core between blanks, and they give a
level just if the core is digits behind at most one plus sign whose number is at most 255. All
others are refused as invalid data, in words that tell which of the four reasons it is: that they
are no text, that the core is empty, that its leading digits are too large, or else that it is no
numeral. -/
theorem level_read_iff (path : String) (contents : Bytes) :
    (∃! outcome, Reads path contents outcome) ∧
    (∀ level, Reads path contents (.ok level) ↔
      ∃ core, Holds contents core ∧ Text.IsNumeral (Text.unsigned core) ∧
        Text.written (Text.unsigned core) = level ∧ level ≤ 255) ∧
    (∀ failure, Reads path contents (.error failure) ↔
      ∃ fault, Faulty contents fault ∧ failure = .worded .invalidData fault.message) ∧
    Function.Injective ScopeFault.message := by
  refine ⟨?_, ?_, ?_, ScopeFault.message_injective⟩
  · refine ⟨_, reads_iff.mpr rfl, ?_⟩
    intro outcome read
    exact (reads_iff.mp read).symm
  · intro level
    rw [reads_iff, mapError_eq_ok_iff, parse_eq_ok_iff]
    simp only [Text.readNumber_eq_ok_iff]
  · intro failure
    rw [reads_iff, mapError_eq_error_iff]
    simp only [parse_eq_error_iff, ScopeFault.failure]

example : parse [0x39, 0x39, 0x39, 0x61] = .error (.notNumber .tooLarge) ∧
    parse [0x39, 0x39, 0x61] = .error (.notNumber .invalidDigit) ∧
    parse [0x2b, 0x0a] = .error (.notNumber .invalidDigit) ∧
    parse [0x20, 0x2b, 0x30, 0x30, 0x37, 0x0a] = .ok 7 := by decide

end PtraceScope
end TerminalRelay
