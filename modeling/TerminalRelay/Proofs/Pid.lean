import TerminalRelay.Pid
import TerminalRelay.Proofs.Text.Decimal

/-! Which arguments name a process: digits alone, in any number, whose value is that of a
process. The three reasons for a refusal exclude each other in the order empty, not numeric,
out of range. An identifier is read from its digits again, and these are any that it is read from
but for leading zeros. -/

namespace TerminalRelay.Pid

theorem ofNumber?_eq_some_iff {number : Nat} {pid : Pid} :
    ofNumber? number = some pid ↔ pid.number = number := by
  unfold ofNumber?
  constructor
  · intro found
    split at found
    · cases found
      rfl
    · cases found
  · rintro rfl
    exact dif_pos ⟨pid.positive, pid.bounded⟩

theorem ofNumber?_eq_none_iff {number : Nat} :
    ofNumber? number = none ↔ ¬ (1 ≤ number ∧ number ≤ maxPid) := by
  rw [ofNumber?]
  split
  · next fits => exact ⟨nofun, fun outside => absurd fits outside⟩
  · next outside => exact ⟨fun _ => outside, fun _ => rfl⟩

theorem parse_of_numeral {text : List Char} (numeral : Text.IsNumeral text) :
    parse text = match ofNumber? (Text.value text) with
      | some pid => .ok pid
      | none => .error .outOfRange := by
  obtain ⟨nonempty, digits⟩ := numeral
  have numeric : ¬ (!text.all Text.isDigit) = true := by simpa using digits
  rw [parse, if_neg (by simpa using nonempty), if_neg numeric,
    Text.readWithin_of_digits digits (Nat.zero_le _)]
  by_cases within : Text.valueFrom 0 text ≤ maxPid
  · rw [if_pos within]
    rfl
  · have tooLarge : ofNumber? (Text.value text) = none := dif_neg fun fits => within fits.2
    rw [if_neg within, tooLarge]

theorem parse_of_nonDigit {text : List Char} {c : Char} (member : c ∈ text)
    (other : Text.isDigit c = false) : parse text = .error .notNumeric := by
  have nonempty : ¬ text.isEmpty = true := by
    rw [List.isEmpty_iff]
    exact List.ne_nil_of_mem member
  have refused : (!text.all Text.isDigit) = true := by simpa using ⟨c, member, other⟩
  rw [parse, if_neg nonempty, if_pos refused]

section
variable {text : List Char}

theorem parse_eq_ok_iff {pid : Pid} :
    parse text = .ok pid ↔
      text ≠ [] ∧ (∀ c ∈ text, Text.isDigit c) ∧ Text.value text = pid.number := by
  rw [← and_assoc, ← Text.IsNumeral]
  obtain rfl | ⟨c, member, other⟩ | numeral := Text.isNumeral_or text
  · exact ⟨nofun, fun named => absurd rfl named.1.1⟩
  · rw [parse_of_nonDigit member other]
    exact ⟨nofun, fun named => absurd named.1 (Text.not_isNumeral member other)⟩
  · rw [parse_of_numeral numeral, and_iff_right numeral, eq_comm (b := pid.number),
      ← ofNumber?_eq_some_iff]
    cases ofNumber? (Text.value text) <;> simp

theorem parse_eq_empty_iff : parse text = .error .empty ↔ text = [] := by
  obtain rfl | ⟨c, member, other⟩ | numeral := Text.isNumeral_or text
  · exact ⟨fun _ => rfl, fun _ => rfl⟩
  · rw [parse_of_nonDigit member other]
    exact ⟨nofun, fun nothing => absurd nothing (List.ne_nil_of_mem member)⟩
  · rw [parse_of_numeral numeral]
    cases ofNumber? (Text.value text) <;> exact ⟨nofun, fun nothing => absurd nothing numeral.1⟩

theorem parse_eq_notNumeric_iff :
    parse text = .error .notNumeric ↔ ∃ c ∈ text, Text.isDigit c = false := by
  obtain rfl | other | numeral := Text.isNumeral_or text
  · exact ⟨nofun, nofun⟩
  · obtain ⟨c, member, nonDigit⟩ := other
    exact ⟨fun _ => ⟨c, member, nonDigit⟩, fun _ => parse_of_nonDigit member nonDigit⟩
  · have digits : ¬ ∃ c ∈ text, Text.isDigit c = false :=
      fun ⟨c, member, other⟩ => Text.not_isNumeral member other numeral
    rw [parse_of_numeral numeral]
    cases ofNumber? (Text.value text) <;> exact ⟨nofun, fun other => absurd other digits⟩

theorem parse_eq_outOfRange_iff :
    parse text = .error .outOfRange ↔
      Text.IsNumeral text ∧ ¬ (1 ≤ Text.value text ∧ Text.value text ≤ maxPid) := by
  obtain rfl | ⟨c, member, other⟩ | numeral := Text.isNumeral_or text
  · exact ⟨nofun, fun named => absurd rfl named.1.1⟩
  · rw [parse_of_nonDigit member other]
    exact ⟨nofun, fun named => absurd named.1 (Text.not_isNumeral member other)⟩
  · rw [parse_of_numeral numeral, and_iff_right numeral, ← ofNumber?_eq_none_iff]
    cases ofNumber? (Text.value text) <;> simp

end

theorem parse_leadingZeros (zeros : Nat) (first : Char) (rest : List Char) :
    parse (List.replicate zeros '0' ++ first :: rest) = parse (first :: rest) := by
  obtain nothing | ⟨c, member, other⟩ | numeral := Text.isNumeral_or (first :: rest)
  · cases nothing
  · rw [parse_of_nonDigit member other, parse_of_nonDigit (List.mem_append_right _ member) other]
  · rw [parse_of_numeral (Text.isNumeral_leadingZeros zeros numeral), parse_of_numeral numeral,
      Text.value_eq_written, Text.written_leadingZeros, Text.value_eq_written]

theorem number_injective : Function.Injective Pid.number := by
  intro ⟨number, positive, bounded⟩ ⟨other, _, _⟩ same
  cases same
  rfl

theorem parse_toDigits (pid : Pid) : parse pid.toDigits = .ok pid := by
  obtain ⟨nonempty, digits⟩ := Text.isNumeral_digits pid.number
  exact parse_eq_ok_iff.mpr ⟨nonempty, digits, Text.value_digits pid.number⟩

theorem toDigits_of_parse {text : List Char} {pid : Pid} (parsed : parse text = .ok pid) :
    pid.toDigits = text.dropWhile (· == '0') := by
  obtain ⟨-, digits, same⟩ := parse_eq_ok_iff.mp parsed
  have positive : 0 < Text.value text := by
    rw [same]
    exact pid.positive
  rw [toDigits, ← same, Text.digits_value digits positive]

theorem toList_toString (pid : Pid) : (toString pid).toList = pid.toDigits :=
  String.toList_ofList

theorem toString_injective : Function.Injective (toString : Pid → String) := by
  intro pid other same
  have digits : pid.toDigits = other.toDigits := by
    rw [← toList_toString, same, toList_toString]
  have parsed := parse_toDigits pid
  rw [digits, parse_toDigits other] at parsed
  cases parsed
  rfl

theorem zerosApart_iff {text other : List Char} {pid otherPid : Pid}
    (parsed : parse text = .ok pid) (too : parse other = .ok otherPid) :
    Text.ZerosApart text other ↔ pid = otherPid := by
  constructor
  · intro apart
    have value := (parse_eq_ok_iff.mp parsed).2.2
    have otherValue := (parse_eq_ok_iff.mp too).2.2
    rw [apart.value_eq] at value
    exact number_injective (value.symm.trans otherValue)
  · intro same
    obtain ⟨zeros, split⟩ := Text.exists_zeros text
    obtain ⟨others, otherSplit⟩ := Text.exists_zeros other
    rw [← toDigits_of_parse parsed] at split
    rw [← toDigits_of_parse too, ← same] at otherSplit
    exact ⟨pid.toDigits, zeros, others, split, otherSplit⟩

/-- An argument names a process just if it is digits and nothing else, however many, and the number
that they write is that of a process, which is never zero. What it is refused for depends on the
same: that there is nothing, that something is no digit, or else the number. -/
theorem argument_names_process_iff (text : List Char) :
    (∀ number, (∃ pid, parse text = .ok pid ∧ pid.number = number) ↔
      Text.IsNumeral text ∧ number = Text.written text ∧ 1 ≤ number ∧ number ≤ 2147483647) ∧
    (parse text = .error .empty ↔ text = []) ∧
    (parse text = .error .notNumeric ↔ text ≠ [] ∧ ∃ c ∈ text, Text.isDigit c = false) ∧
    (parse text = .error .outOfRange ↔
      Text.IsNumeral text ∧ (Text.written text = 0 ∨ 2147483647 < Text.written text)) ∧
    ∀ zeros first rest,
      parse (List.replicate zeros '0' ++ first :: rest) = parse (first :: rest) := by
  refine ⟨fun number => ?_, parse_eq_empty_iff, ?_, ?_, parse_leadingZeros⟩
  · constructor
    · rintro ⟨pid, parsed, rfl⟩
      obtain ⟨nonempty, digits, value⟩ := parse_eq_ok_iff.mp parsed
      rw [Text.value_eq_written] at value
      exact ⟨⟨nonempty, digits⟩, value.symm, pid.positive, pid.bounded⟩
    · rintro ⟨numeral, rfl, positive, bounded⟩
      refine ⟨⟨_, positive, bounded⟩, parse_eq_ok_iff.mpr ⟨numeral.1, numeral.2, ?_⟩, rfl⟩
      exact Text.value_eq_written text
  · rw [parse_eq_notNumeric_iff]
    refine (and_iff_right_of_imp ?_).symm
    rintro ⟨c, member, -⟩
    exact List.ne_nil_of_mem member
  · have outside : ¬ (1 ≤ Text.written text ∧ Text.written text ≤ maxPid) ↔
        Text.written text = 0 ∨ 2147483647 < Text.written text := by
      rw [maxPid]
      omega
    rw [parse_eq_outOfRange_iff, Text.value_eq_written, outside]

example : (∃ pid, parse "002147483647".toList = .ok pid ∧ pid.number = 2147483647) ∧
    parse "002147483648".toList = .error .outOfRange ∧
    parse "+99999999999".toList = .error .notNumeric := ⟨⟨_, rfl, rfl⟩, rfl, rfl⟩

end TerminalRelay.Pid
