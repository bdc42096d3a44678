import Mathlib.Data.List.TakeWhile
import Mathlib.Data.Nat.Digits.Defs
import TerminalRelay.Proofs.Text.Ascii
import TerminalRelay.Text.Decimal

/-! Decimal numbers as text and as bytes. Reading within a bound finds the value of the
digits just if it lies within the bound, and is refused for the first that is wrong. A number is
written as the digits that it was read from but for leading zeros, and bytes that show as digits
are digits. -/

namespace TerminalRelay.Text

def decimal (bytes : Bytes) : Nat :=
  Nat.ofDigits 10 (bytes.reverse.map fun byte => byte.toNat - 0x30)

def AreDigits (bytes : Bytes) : Prop :=
  ∀ byte ∈ bytes, 0x30 ≤ byte ∧ byte ≤ 0x39

theorem valueFrom_cons (start : Nat) (c : Char) (digits : List Char) :
    valueFrom start (c :: digits) = valueFrom (start * 10 + digitValue c) digits := by
  rw [valueFrom, List.foldl_cons, valueFrom]

theorem le_valueFrom (start : Nat) (digits : List Char) : start ≤ valueFrom start digits := by
  induction digits generalizing start with
  | nil => exact Nat.le_refl start
  | cons c digits ih =>
    have more := ih (start * 10 + digitValue c)
    rw [valueFrom_cons]
    omega

theorem readWithin_append {bound start : Nat} {digits : List Char}
    (allDigits : ∀ c ∈ digits, isDigit c) (within : start ≤ bound) (rest : List Char) :
    readWithin bound start (digits ++ rest) =
      if valueFrom start digits ≤ bound then readWithin bound (valueFrom start digits) rest
      else .error .tooLarge := by
  induction digits generalizing start with
  | nil => exact (if_pos within).symm
  | cons c digits ih =>
    obtain ⟨digit, others⟩ := List.forall_mem_cons.mp allDigits
    rw [List.cons_append, readWithin, if_pos digit, valueFrom_cons]
    by_cases fits : start * 10 + digitValue c ≤ bound
    · simp only [if_pos fits]
      exact ih others fits
    · have grown := le_valueFrom (start * 10 + digitValue c) digits
      simp only [if_neg fits]
      rw [if_neg (by omega)]

theorem readWithin_of_digits {bound start : Nat} {digits : List Char}
    (allDigits : ∀ c ∈ digits, isDigit c) (within : start ≤ bound) :
    readWithin bound start digits =
      if valueFrom start digits ≤ bound then .ok (valueFrom start digits)
      else .error .tooLarge := by
  have whole := readWithin_append allDigits within []
  rwa [List.append_nil] at whole

theorem valueFrom_eq_ofDigits (start : Nat) (digits : List Char) :
    valueFrom start digits =
      Nat.ofDigits 10 (digits.reverse.map digitValue) + 10 ^ digits.length * start := by
  induction digits generalizing start with
  | nil => simp [valueFrom]
  | cons c digits ih =>
    rw [valueFrom_cons, ih, List.reverse_cons, List.map_append, Nat.ofDigits_append,
      List.length_map, List.length_reverse, List.length_cons, Nat.pow_succ, List.map_singleton,
      Nat.ofDigits_singleton]
    ring

def IsNumeral (text : List Char) : Prop :=
  text ≠ [] ∧ ∀ c ∈ text, isDigit c

theorem isNumeral_or (text : List Char) :
    text = [] ∨ (∃ c ∈ text, isDigit c = false) ∨ IsNumeral text := by
  by_cases digits : ∀ c ∈ text, isDigit c
  · exact (Classical.em (text = [])).imp_right fun nonempty => .inr ⟨nonempty, digits⟩
  · exact .inr (.inl (by simpa using digits))

theorem not_isNumeral {text : List Char} {c : Char} (member : c ∈ text)
    (other : isDigit c = false) : ¬ IsNumeral text := by
  rintro ⟨-, digits⟩
  rw [digits c member] at other
  cases other

/-- The number that decimal digits write, however many: the last digit counts least. -/
def written (text : List Char) : Nat :=
  Nat.ofDigits 10 (text.reverse.map digitValue)

theorem value_eq_written (text : List Char) : value text = written text := by
  rw [value, valueFrom_eq_ofDigits, Nat.mul_zero, Nat.add_zero, written]

theorem written_leadingZeros (zeros : Nat) (text : List Char) :
    written (List.replicate zeros '0' ++ text) = written text := by
  have nothing : digitValue '0' = 0 := by decide
  rw [written, List.reverse_append, List.reverse_replicate, List.map_append, List.map_replicate,
    nothing, Nat.ofDigits_append_replicate_zero, written]

theorem isNumeral_leadingZeros (zeros : Nat) {text : List Char} (numeral : IsNumeral text) :
    IsNumeral (List.replicate zeros '0' ++ text) := by
  have zero : isDigit '0' = true := by decide
  refine ⟨List.append_ne_nil_of_right_ne_nil _ numeral.1, ?_⟩
  refine List.forall_mem_append.mpr ⟨?_, numeral.2⟩
  intro c member
  rw [List.eq_of_mem_replicate member]
  exact zero

/-- The text after its plus sign, if it has one. -/
def unsigned : List Char → List Char
  | '+' :: rest => rest
  | text => text

def leadingDigits (text : List Char) : List Char :=
  text.takeWhile isDigit

/-- Why text is refused as a number within a bound. A number that is too large is found so at its
digits, whatever comes after them. -/
inductive Refused (bound : Nat) (text : List Char) : NumberFault → Prop
  | empty (nothing : text = []) : Refused bound text .empty
  | tooLarge (beyond : bound < written (leadingDigits (unsigned text))) :
      Refused bound text .tooLarge
  | invalidDigit (something : text ≠ [])
      (within : written (leadingDigits (unsigned text)) ≤ bound)
      (other : ¬ IsNumeral (unsigned text)) : Refused bound text .invalidDigit

theorem leadingDigits_of_numeral {text : List Char} (numeral : IsNumeral text) :
    leadingDigits text = text :=
  List.takeWhile_eq_self_iff.mpr numeral.2

theorem eq_plus_of_unsigned {text : List Char} (something : text ≠ [])
    (nothing : unsigned text = []) : text = ['+'] := by
  unfold unsigned at nothing
  split at nothing
  · rw [nothing]
  · exact absurd nothing something

theorem readNumber_of_unsigned (bound : Nat) {text : List Char} (more : unsigned text ≠ []) :
    readNumber bound text = readWithin bound 0 (unsigned text) := by
  unfold readNumber
  split
  · exact absurd rfl more
  · exact absurd rfl more
  · rfl
  · next text _ _ plain =>
    rw [unsigned]
    intro rest same
    exact plain rest same

theorem readNumber_of_leadingDigits (bound : Nat) {text : List Char} (more : unsigned text ≠ []) :
    readNumber bound text =
      if written (leadingDigits (unsigned text)) ≤ bound then
        readWithin bound (written (leadingDigits (unsigned text)))
          ((unsigned text).dropWhile isDigit)
      else .error .tooLarge := by
  have digits : ∀ c ∈ leadingDigits (unsigned text), isDigit c := fun c => List.mem_takeWhile_imp
  rw [readNumber_of_unsigned bound more, ← value_eq_written, value,
    ← readWithin_append digits (Nat.zero_le bound), leadingDigits, List.takeWhile_append_dropWhile]

theorem readNumber_of_numeral {bound : Nat} {text : List Char}
    (numeral : IsNumeral (unsigned text)) (within : written (unsigned text) ≤ bound) :
    readNumber bound text = .ok (written (unsigned text)) := by
  rw [readNumber_of_unsigned bound numeral.1, readWithin_of_digits numeral.2 (Nat.zero_le _),
    ← value, value_eq_written, if_pos within]

theorem readNumber_of_refused {bound : Nat} {text : List Char} {fault : NumberFault}
    (refused : Refused bound text fault) : readNumber bound text = .error fault := by
  cases refused with
  | empty nothing =>
    subst nothing
    rfl
  | tooLarge beyond =>
    have more : unsigned text ≠ [] := by
      intro nothing
      rw [nothing] at beyond
      exact absurd beyond (Nat.not_lt_zero bound)
    rw [readNumber_of_leadingDigits bound more, if_neg (by omega)]
  | invalidDigit something within other =>
    by_cases nothing : unsigned text = []
    · rw [eq_plus_of_unsigned something nothing]
      rfl
    · have stopped := List.head?_dropWhile_not isDigit (unsigned text)
      rw [readNumber_of_leadingDigits bound nothing, if_pos within]
      cases left : (unsigned text).dropWhile isDigit with
      | nil => exact absurd ⟨nothing, List.dropWhile_eq_nil_iff.mp left⟩ other
      | cons c rest =>
        rw [left] at stopped
        have nonDigit : ¬ isDigit c = true := Bool.eq_false_iff.mp stopped
        rw [readWithin, if_neg nonDigit]

theorem isNumeral_or_refused (bound : Nat) (text : List Char) :
    (IsNumeral (unsigned text) ∧ written (unsigned text) ≤ bound) ∨
      ∃ fault, Refused bound text fault := by
  by_cases nothing : text = []
  · exact .inr ⟨_, .empty nothing⟩
  by_cases beyond : bound < written (leadingDigits (unsigned text))
  · exact .inr ⟨_, .tooLarge beyond⟩
  have within := Nat.le_of_not_lt beyond
  by_cases numeral : IsNumeral (unsigned text)
  · rw [leadingDigits_of_numeral numeral] at within
    exact .inl ⟨numeral, within⟩
  · exact .inr ⟨_, .invalidDigit nothing within numeral⟩

theorem readNumber_eq_ok_iff {bound number : Nat} {text : List Char} :
    readNumber bound text = .ok number ↔
      IsNumeral (unsigned text) ∧ written (unsigned text) = number ∧ number ≤ bound := by
  constructor
  · intro read
    obtain ⟨numeral, within⟩ | ⟨fault, refused⟩ := isNumeral_or_refused bound text
    · rw [readNumber_of_numeral numeral within] at read
      cases read
      exact ⟨numeral, rfl, within⟩
    · rw [readNumber_of_refused refused] at read
      cases read
  · rintro ⟨numeral, rfl, within⟩
    exact readNumber_of_numeral numeral within

theorem readNumber_eq_error_iff {bound : Nat} {text : List Char} {fault : NumberFault} :
    readNumber bound text = .error fault ↔ Refused bound text fault := by
  refine ⟨fun read => ?_, readNumber_of_refused⟩
  obtain ⟨numeral, within⟩ | ⟨other, refused⟩ := isNumeral_or_refused bound text
  · rw [readNumber_of_numeral numeral within] at read
    cases read
  · rw [readNumber_of_refused refused] at read
    cases read
    exact refused

theorem isDigit_iff (c : Char) : isDigit c ↔ 0x30 ≤ c.toNat ∧ c.toNat ≤ 0x39 := by
  simp only [isDigit, Bool.and_eq_true, decide_eq_true_eq]
  rfl

theorem digitValue_lt {c : Char} (digit : isDigit c) : digitValue c < 10 := by
  have range := (isDigit_iff c).mp digit
  have zero : '0'.toNat = 0x30 := rfl
  rw [digitValue, zero]
  omega

theorem digitChar_digitValue {c : Char} (digit : isDigit c) : (digitValue c).digitChar = c := by
  have small := digitValue_lt digit
  have range := (isDigit_iff c).mp digit
  have zero : '0'.toNat = 0x30 := rfl
  have same : (digitValue c).digitChar.toNat = c.toNat := by
    rw [Nat.toNat_digitChar_of_lt_ten small, digitValue, zero]
    omega
  exact Char.toNat_inj.mp same

theorem value_digits (n : Nat) : value (digits n) = n := by
  have shape := Nat.ofDigitChars_ten_toDigits (n := n)
  rw [Nat.ofDigitChars_eq_foldl] at shape
  simp only [Nat.mul_comm 10] at shape
  exact shape

theorem isNumeral_digits (n : Nat) : IsNumeral (digits n) := by
  refine ⟨Nat.toDigits_ne_nil, ?_⟩
  intro c member
  have digit := Nat.isDigit_of_mem_toDigits (by omega) (by omega) member
  exact digit

theorem digits_snoc {n : Nat} {c : Char} (positive : 0 < n) (digit : isDigit c) :
    digits (n * 10 + digitValue c) = digits n ++ [c] := by
  have small := digitValue_lt digit
  rw [digits, Nat.mul_comm, ← Nat.toDigits_append_toDigits (by omega) positive small,
    Nat.toDigits_of_lt_base small, digitChar_digitValue digit, digits]

theorem digits_valueFrom {start : Nat} {text : List Char} (positive : 0 < start)
    (allDigits : ∀ c ∈ text, isDigit c) : digits (valueFrom start text) = digits start ++ text := by
  induction text generalizing start with
  | nil => exact (List.append_nil _).symm
  | cons c rest ih =>
    obtain ⟨digit, others⟩ := List.forall_mem_cons.mp allDigits
    rw [valueFrom_cons, ih (by omega) others, digits_snoc positive digit, List.append_assoc,
      List.singleton_append]

theorem digits_value {text : List Char} (allDigits : ∀ c ∈ text, isDigit c)
    (positive : 0 < value text) : digits (value text) = text.dropWhile (· == '0') := by
  induction text with
  | nil => exact absurd positive (Nat.lt_irrefl 0)
  | cons c rest ih =>
    obtain ⟨digit, others⟩ := List.forall_mem_cons.mp allDigits
    have first : value (c :: rest) = valueFrom (digitValue c) rest := by
      rw [value, valueFrom_cons, Nat.zero_mul, Nat.zero_add]
    by_cases zero : c = '0'
    · have skipped : value (c :: rest) = value rest := by
        rw [first, zero]
        rfl
      rw [skipped] at positive ⊢
      rw [ih others positive, zero]
      rfl
    · have nonzero : 0 < digitValue c := by
        apply Nat.pos_of_ne_zero
        intro nothing
        have same := digitChar_digitValue digit
        rw [nothing] at same
        exact zero same.symm
      have small := digitValue_lt digit
      rw [first, digits_valueFrom nonzero others, digits, Nat.toDigits_of_lt_base small,
        digitChar_digitValue digit, List.singleton_append,
        List.dropWhile_cons_of_neg (by simpa using zero)]

/-- Texts that are the same but for the zeros that they begin with. -/
def ZerosApart (text other : List Char) : Prop :=
  ∃ core zeros others, text = List.replicate zeros '0' ++ core ∧
    other = List.replicate others '0' ++ core

theorem exists_zeros (text : List Char) :
    ∃ zeros, text = List.replicate zeros '0' ++ text.dropWhile (· == '0') := by
  have zeros : text.takeWhile (· == '0') =
      List.replicate (text.takeWhile (· == '0')).length '0' := by
    apply List.eq_replicate_of_mem
    intro c member
    simpa using List.mem_takeWhile_imp member
  refine ⟨(text.takeWhile (· == '0')).length, ?_⟩
  rw [← zeros, List.takeWhile_append_dropWhile]

theorem ZerosApart.value_eq {text other : List Char} (apart : ZerosApart text other) :
    value text = value other := by
  obtain ⟨core, zeros, others, same, alike⟩ := apart
  rw [same, alike, value_eq_written, written_leadingZeros, value_eq_written, written_leadingZeros]

theorem isDigit_asciiChar {byte : UInt8} (ascii : byte < 0x80) :
    isDigit (asciiChar byte) ↔ 0x30 ≤ byte ∧ byte ≤ 0x39 := by
  rw [isDigit_iff, asciiChar_toNat ascii]
  rfl

theorem AreDigits.ascii {bytes : Bytes} (digits : AreDigits bytes) :
    ∀ byte ∈ bytes, byte < 0x80 :=
  fun byte member => UInt8.lt_of_le_of_lt (digits byte member).2 (by decide)

/-- Bytes that show as decimal digits are those digits, whether or not they are text. -/
theorem lossy_digits_iff (bytes : Bytes) : (∀ c ∈ lossy bytes, isDigit c) ↔ AreDigits bytes := by
  constructor
  · intro shown
    have ascii : ∀ c ∈ lossy bytes, c.toNat < 0x80 := by
      intro c member
      have digit := (isDigit_iff c).mp (shown c member)
      omega
    obtain ⟨small, same⟩ := of_lossy_ascii ascii
    intro byte member
    rw [same] at shown
    exact (isDigit_asciiChar (small byte member)).mp (shown _ (List.mem_map_of_mem member))
  · intro digits c member
    rw [lossy_of_decode? (decode?_of_ascii digits.ascii)] at member
    obtain ⟨byte, written, rfl⟩ := List.mem_map.mp member
    exact (isDigit_asciiChar (digits.ascii byte written)).mpr (digits byte written)

theorem value_lossy {bytes : Bytes} (digits : AreDigits bytes) :
    value (lossy bytes) = decimal bytes := by
  have same : bytes.reverse.map (digitValue ∘ asciiChar) =
      bytes.reverse.map fun byte => byte.toNat - 0x30 := by
    apply List.map_congr_left
    intro byte member
    have small := digits.ascii byte (List.mem_reverse.mp member)
    rw [Function.comp_apply, digitValue, asciiChar_toNat small]
    rfl
  rw [lossy_of_decode? (decode?_of_ascii digits.ascii), value, valueFrom_eq_ofDigits,
    Nat.mul_zero, Nat.add_zero, ← List.map_reverse, List.map_map, same]
  rfl

end TerminalRelay.Text
