import Mathlib.Data.Nat.Basic
import TerminalRelay.Text.Quoted

/-! Quoted text read back. No character between the quotation marks is hidden, so that the text
stays on its line, and a reader that knows the escapes finds the text and where it ends. -/

namespace TerminalRelay.Text

/-- Neither a control nor the end of a line. -/
def IsInline (c : Char) : Prop :=
  0x20 ≤ c.toNat ∧ ¬ (0x7f ≤ c.toNat ∧ c.toNat ≤ 0x9f) ∧ c.toNat ≠ 0x2028 ∧ c.toNat ≠ 0x2029

theorem isHidden_of_range {c : Char} {low high : Nat} (range : (low, high) ∈ hiddenRanges)
    (beyond : c.toNat < 0x20 ∨ 0x7f ≤ c.toNat) (least : low ≤ c.toNat) (most : c.toNat ≤ high) :
    isHidden c = true := by
  have notAscii : ¬ ((0x20 ≤ c.toNat && c.toNat < 0x7f) = true) := by
    simp only [Bool.and_eq_true, decide_eq_true_eq]
    omega
  rw [isHidden, if_neg notAscii, List.any_eq_true]
  exact ⟨(low, high), range, by simpa using ⟨least, most⟩⟩

theorem shown_of_ascii {text : List Char}
    (ascii : text.all (fun c => 0x20 ≤ c.toNat && c.toNat < 0x7f) = true) :
    ∀ c ∈ text, isHidden c = false := by
  intro c member
  rw [isHidden, if_pos (List.all_eq_true.mp ascii c member)]

theorem inline_of_shown {c : Char} (shown : isHidden c = false) : IsInline c := by
  have controls : (0x0, 0x1f) ∈ hiddenRanges := by decide
  have moreControls : (0x7f, 0xa0) ∈ hiddenRanges := by decide
  have separators : (0x2028, 0x202f) ∈ hiddenRanges := by decide
  have outside : ∀ low high, (low, high) ∈ hiddenRanges → low ≤ c.toNat → c.toNat ≤ high →
      ¬ (c.toNat < 0x20 ∨ 0x7f ≤ c.toNat) := by
    intro low high range least most beyond
    rw [isHidden_of_range range beyond least most] at shown
    cases shown
  refine ⟨?_, ?_, ?_, ?_⟩
  · by_contra small
    exact outside _ _ controls (by omega) (by omega) (by omega)
  · intro ⟨least, most⟩
    exact outside _ _ moreControls least (by omega) (by omega)
  · intro same
    exact outside _ _ separators (by omega) (by omega) (by omega)
  · intro same
    exact outside _ _ separators (by omega) (by omega) (by omega)

theorem hexDigits_eq (n : Nat) :
    hexDigits n =
      if n < 16 then [n.digitChar] else hexDigits (n / 16) ++ [(n % 16).digitChar] :=
  Nat.toDigits_eq_if (by omega)

theorem hexDigits_shown {n : Nat} {c : Char} (member : c ∈ hexDigits n) : isHidden c = false := by
  have digits : ∀ digit < 16, isHidden digit.digitChar = false := by decide
  induction n using Nat.strongRecOn with
  | ind n ih =>
    rw [hexDigits_eq] at member
    split at member
    · next small =>
      rw [List.mem_singleton.mp member]
      exact digits n small
    · rcases List.mem_append.mp member with before | last
      · exact ih (n / 16) (by omega) before
      · rw [List.mem_singleton.mp last]
        exact digits (n % 16) (Nat.mod_lt n (by omega))

def hexValue? (c : Char) : Option Nat :=
  (List.range 16).find? fun digit => digit.digitChar = c

def escaped? : Char → Option Char
  | '0' => some '\x00'
  | 't' => some '\t'
  | 'n' => some '\n'
  | 'r' => some '\r'
  | '\x22' => some '\x22'
  | '\x5c' => some '\x5c'
  | _ => none

/-- The three forms in which a character stands between quotation marks. -/
inductive EscapedAs (c : Char) : List Char → Prop
  | named {letter : Char} (other : letter ≠ 'u') (stands : escaped? letter = some c)
      (shown : isHidden letter = false) : EscapedAs c ['\x5c', letter]
  | spelled : EscapedAs c (escapeCode c)
  | itself (noMark : c ≠ '\x22') (noBackslash : c ≠ '\x5c') (shown : isHidden c = false) :
      EscapedAs c [c]

theorem escapedAs_escape (c : Char) : EscapedAs c (escape c) := by
  unfold escape
  split_ifs with null tab newline carriage mark backslash hidden
  · exact .named (by decide) (by rw [null, escaped?]) (by decide)
  · exact .named (by decide) (by rw [tab, escaped?]) (by decide)
  · exact .named (by decide) (by rw [newline, escaped?]) (by decide)
  · exact .named (by decide) (by rw [carriage, escaped?]) (by decide)
  · exact .named (by decide) (by rw [mark, escaped?]) (by decide)
  · exact .named (by decide) (by rw [backslash, escaped?]) (by decide)
  · exact .spelled
  · exact .itself mark backslash (Bool.eq_false_iff.mpr hidden)

theorem EscapedAs.shown {c d : Char} {form : List Char} (escaped : EscapedAs c form)
    (member : d ∈ form) : isHidden d = false := by
  have marks : ∀ mark ∈ ['\x5c', 'u', '\x7b', '\x7d'], isHidden mark = false :=
    shown_of_ascii (by decide)
  cases escaped with
  | named other stands shown =>
    simp only [List.mem_cons, List.not_mem_nil, or_false] at member
    rcases member with same | same
    · exact marks d (by simp [same])
    · rw [same]
      exact shown
  | spelled =>
    simp only [escapeCode, List.mem_append, List.mem_cons, List.not_mem_nil, or_false] at member
    rcases member with (opening | digit) | closing
    · apply marks
      rcases opening with same | same | same <;> simp [same]
    · exact hexDigits_shown digit
    · exact marks d (by simp [closing])
  | itself noMark noBackslash shown =>
    rw [List.mem_singleton.mp member]
    exact shown

theorem quote_shown {text : List Char} {c : Char} (member : c ∈ quote text) :
    isHidden c = false := by
  have mark : isHidden '\x22' = false := by decide
  simp only [quote, List.mem_append, List.mem_cons, List.mem_flatMap, List.not_mem_nil,
    or_false] at member
  rcases member with (same | ⟨d, _, inside⟩) | same
  · rw [same]
    exact mark
  · exact (escapedAs_escape d).shown inside
  · rw [same]
    exact mark

inductive Quoting where
  | plain
  | escape
  | spelled
  | code (read : Nat)

def before (c : Char) : Option (List Char × List Char) → Option (List Char × List Char) :=
  Option.map fun (text, rest) => (c :: text, rest)

/-- Reads up to the closing quotation mark, and finds what follows it. -/
def unquoteFrom : Quoting → List Char → Option (List Char × List Char)
  | _, [] => none
  | .plain, c :: rest =>
    if c = '\x22' then some ([], rest)
    else if c = '\x5c' then unquoteFrom .escape rest
    else before c (unquoteFrom .plain rest)
  | .escape, c :: rest =>
    if c = 'u' then unquoteFrom .spelled rest
    else (escaped? c).bind fun d => before d (unquoteFrom .plain rest)
  | .spelled, c :: rest => if c = '\x7b' then unquoteFrom (.code 0) rest else none
  | .code read, c :: rest =>
    if c = '\x7d' then before (Char.ofNat read) (unquoteFrom .plain rest)
    else (hexValue? c).bind fun digit => unquoteFrom (.code (read * 16 + digit)) rest

def unquote : List Char → Option (List Char × List Char)
  | '\x22' :: rest => unquoteFrom .plain rest
  | _ => none

theorem unquoteFrom_digit (read : Nat) {digit : Nat} (small : digit < 16) (rest : List Char) :
    unquoteFrom (.code read) (digit.digitChar :: rest) =
      unquoteFrom (.code (read * 16 + digit)) rest := by
  have found : ∀ digit < 16, digit.digitChar ≠ '\x7d' ∧ hexValue? digit.digitChar = some digit := by
    decide
  obtain ⟨unclosed, value⟩ := found digit small
  rw [unquoteFrom, if_neg unclosed, value, Option.bind_some]

theorem unquoteFrom_hexDigits (n : Nat) (rest : List Char) :
    unquoteFrom (.code 0) (hexDigits n ++ rest) = unquoteFrom (.code n) rest := by
  -- the digits are written by division, so the induction takes the last one away
  induction n using Nat.strongRecOn generalizing rest with
  | ind n ih =>
    rw [hexDigits_eq]
    split
    · next small =>
      rw [List.singleton_append, unquoteFrom_digit 0 small, Nat.zero_mul, Nat.zero_add]
    · rw [List.append_assoc, ih (n / 16) (by omega), List.singleton_append,
        unquoteFrom_digit _ (Nat.mod_lt n (by omega)), Nat.div_add_mod']

theorem unquoteFrom_escapeCode (c : Char) (rest : List Char) :
    unquoteFrom .plain (escapeCode c ++ rest) = before c (unquoteFrom .plain rest) := by
  have begun : unquoteFrom .plain (escapeCode c ++ rest) =
      unquoteFrom (.code 0) (hexDigits c.toNat ++ '\x7d' :: rest) := by
    rw [escapeCode]
    simp [unquoteFrom]
  rw [begun, unquoteFrom_hexDigits, unquoteFrom, if_pos rfl, Char.ofNat_toNat]

theorem unquoteFrom_escape (c : Char) (rest : List Char) :
    unquoteFrom .plain (escape c ++ rest) = before c (unquoteFrom .plain rest) := by
  have escaped := escapedAs_escape c
  generalize escape c = form at escaped
  cases escaped with
  | named other stands shown => simp [unquoteFrom, other, stands]
  | spelled => exact unquoteFrom_escapeCode c rest
  | itself noMark noBackslash shown => simp [unquoteFrom, noMark, noBackslash]

theorem unquoteFrom_quoted (text rest : List Char) :
    unquoteFrom .plain (text.flatMap escape ++ '\x22' :: rest) = some (text, rest) := by
  induction text with
  | nil => rfl
  | cons c text ih =>
    rw [List.flatMap_cons, List.append_assoc, unquoteFrom_escape, ih]
    rfl

theorem unquote_quote (text rest : List Char) : unquote (quote text ++ rest) = some (text, rest) := by
  rw [quote, List.cons_append, List.cons_append, List.append_assoc, List.singleton_append, unquote,
    unquoteFrom_quoted]

end TerminalRelay.Text
