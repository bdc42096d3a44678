import Mathlib.Algebra.Ring.Nat
import TerminalRelay.Text.Encoding

/-! ASCII within bytes that need not be text. A byte below 0x80 is a character wherever it
stands, and any other byte shows as something beyond ASCII, be it part of a character or of
none. So what shows as ASCII throughout was written in those very bytes. -/

namespace TerminalRelay.Text

def asciiChar (byte : UInt8) : Char :=
  Char.ofNat byte.toNat

theorem toNat_ofNat_of_valid {n : Nat} (valid : n.isValidChar) :
    (Char.ofNat n).toNat = n := by
  rw [Char.ofNat, dif_pos valid]
  rfl

theorem asciiChar_toNat {byte : UInt8} (ascii : byte < 0x80) :
    (asciiChar byte).toNat = byte.toNat := by
  have small : byte.toNat < 128 := ascii
  exact toNat_ofNat_of_valid (Or.inl (by omega))

theorem asciiChar_injective {byte other : UInt8} (ascii : byte < 0x80) (too : other < 0x80)
    (same : asciiChar byte = asciiChar other) : byte = other := by
  apply UInt8.toNat_inj.mp
  rw [← asciiChar_toNat ascii, ← asciiChar_toNat too, same]

def Piece.IsWide (piece : Piece) : Prop :=
  0x80 ≤ (piece.char?.getD '\uFFFD').toNat

theorem Piece.invalid_isWide (bytes : Bytes) : (Piece.invalid bytes).IsWide := by
  change 0x80 ≤ '\uFFFD'.toNat
  decide

namespace Begun

def least (begun : Begun) : Nat :=
  (begun.value * 64 + (begun.low.toNat - 0x80)) * 64 ^ (begun.missing - 1)

def past (begun : Begun) : Nat :=
  (begun.value * 64 + (begun.high.toNat - 0x80) + 1) * 64 ^ (begun.missing - 1)

/-- All that a character begun can come to is a character and lies beyond ASCII. -/
structure Wide (begun : Begun) : Prop where
  some : begun.missing ≠ 0
  least : 0x80 ≤ begun.least
  valid : begun.past ≤ 0xD800 ∨ 0xE000 ≤ begun.least ∧ begun.past ≤ 0x110000

def continued (begun : Begun) (byte : UInt8) : Begun :=
  ⟨begun.taken ++ [byte], begun.value * 64 + (byte.toNat - 0x80), begun.missing - 1, 0x80, 0xBF⟩

section
variable {begun : Begun} {byte : UInt8}

private theorem power_of_missing {missing : Nat} (more : 2 ≤ missing) :
    64 ^ (missing - 1) = 64 * 64 ^ (missing - 1 - 1) := by
  obtain ⟨further, rfl⟩ := Nat.exists_eq_add_of_le' more
  exact (Nat.pow_succ ..).trans (Nat.mul_comm ..)

theorem least_le_continued (low : begun.low ≤ byte) (more : 2 ≤ begun.missing) :
    begun.least ≤ (begun.continued byte).least := by
  have below : begun.low.toNat ≤ byte.toNat := low
  have first : (0x80 : UInt8).toNat = 0x80 := rfl
  simp only [least, continued, first]
  rw [power_of_missing more, ← Nat.mul_assoc]
  apply Nat.mul_le_mul_right
  omega

theorem continued_past_le (high : byte ≤ begun.high) (more : 2 ≤ begun.missing) :
    (begun.continued byte).past ≤ begun.past := by
  have above : byte.toNat ≤ begun.high.toNat := high
  have last : (0xBF : UInt8).toNat = 0xBF := rfl
  simp only [past, continued, last]
  rw [power_of_missing more, ← Nat.mul_assoc]
  apply Nat.mul_le_mul_right
  omega

theorem Wide.continued (wide : begun.Wide) (low : begun.low ≤ byte) (high : byte ≤ begun.high)
    (more : begun.missing ≠ 1) : (begun.continued byte).Wide := by
  obtain ⟨some, least, valid⟩ := wide
  have two : 2 ≤ begun.missing := by omega
  have rises := least_le_continued low two
  have falls := continued_past_le high two
  exact ⟨Nat.sub_ne_zero_of_lt two, by omega, by omega⟩

end

theorem Wide.completed {begun : Begun} (wide : begun.Wide) {byte : UInt8}
    (low : begun.low ≤ byte) (high : byte ≤ begun.high) (last : begun.missing = 1) :
    (Piece.char (Char.ofNat (begun.value * 64 + (byte.toNat - 0x80)))).IsWide := by
  obtain ⟨-, least, valid⟩ := wide
  have below : begun.low.toNat ≤ byte.toNat := low
  have above : byte.toNat ≤ begun.high.toNat := high
  simp only [Begun.least, Begun.past, last, Nat.sub_self, Nat.pow_zero, Nat.mul_one] at least valid
  have isChar : (begun.value * 64 + (byte.toNat - 0x80)).isValidChar := by
    unfold Nat.isValidChar
    omega
  rw [Piece.IsWide, Piece.char?, Option.getD_some, toNat_ofNat_of_valid isChar]
  omega

end Begun

/-- What follows a character begun shows first as something beyond ASCII. -/
theorem piecesAfter_begun {begun : Begun} (wide : begun.Wide) (bytes : Bytes) :
    ∃ piece others, piecesAfter (some begun) bytes = piece :: others ∧ piece.IsWide := by
  induction bytes generalizing begun with
  | nil => exact ⟨_, [], rfl, Piece.invalid_isWide _⟩
  | cons byte rest ih =>
    rw [piecesAfter, advance]
    by_cases fits : begun.low ≤ byte ∧ byte ≤ begun.high
    · have both : (decide (begun.low ≤ byte) && decide (byte ≤ begun.high)) = true := by
        simpa using fits
      rw [if_pos both]
      by_cases last : begun.missing = 1
      · rw [if_pos last]
        exact ⟨_, _, rfl, wide.completed fits.1 fits.2 last⟩
      · rw [if_neg last]
        exact ih (wide.continued fits.1 fits.2 last)
    · have both : ¬ (decide (begun.low ≤ byte) && decide (byte ≤ begun.high)) = true := by
        simpa using fits
      rw [if_neg both]
      exact ⟨_, _, rfl, Piece.invalid_isWide _⟩

theorem start_wide {byte : UInt8} (beyond : ¬ byte < 0x80) :
    (∃ bytes, start byte = ([.invalid bytes], none)) ∨
      ∃ begun : Begun, start byte = ([], some begun) ∧ begun.Wide := by
  unfold start
  rw [if_neg beyond]
  simp only [UInt8.lt_iff_toNat_lt, ← UInt8.toNat_inj, UInt8.reduceToNat] at beyond ⊢
  split
  · exact .inl ⟨_, rfl⟩
  iterate 7
    split
    · refine .inr ⟨_, rfl, Nat.succ_ne_zero _, ?_, ?_⟩
      all_goals
        simp only [Begun.least, Begun.past, UInt8.reduceToNat]
        omega
  exact .inl ⟨_, rfl⟩

theorem lossy_wide {byte : UInt8} (beyond : ¬ byte < 0x80) (rest : Bytes) :
    ∃ c text, lossy (byte :: rest) = c :: text ∧ 0x80 ≤ c.toNat := by
  have first : ∃ piece others, pieces (byte :: rest) = piece :: others ∧ piece.IsWide := by
    rw [pieces, piecesAfter, advance]
    rcases start_wide beyond with ⟨bytes, started⟩ | ⟨begun, started, wide⟩
    · rw [started]
      exact ⟨_, _, rfl, Piece.invalid_isWide _⟩
    · rw [started]
      exact piecesAfter_begun wide rest
  obtain ⟨piece, others, split, wide⟩ := first
  exact ⟨_, _, by rw [lossy, split, List.map_cons], wide⟩

theorem pieces_ascii {byte : UInt8} (ascii : byte < 0x80) (rest : Bytes) :
    pieces (byte :: rest) = .char (asciiChar byte) :: pieces rest := by
  rw [pieces, piecesAfter, advance, start, if_pos ascii]
  rfl

@[simp] theorem lossy_nil : lossy [] = [] := rfl

@[simp] theorem decode?_nil : decode? [] = some [] := rfl

theorem lossy_cons_ascii {byte : UInt8} (ascii : byte < 0x80) (rest : Bytes) :
    lossy (byte :: rest) = asciiChar byte :: lossy rest := by
  rw [lossy, pieces_ascii ascii]
  rfl

theorem decode?_cons_ascii {byte : UInt8} (ascii : byte < 0x80) (rest : Bytes) :
    decode? (byte :: rest) = (decode? rest).map (asciiChar byte :: ·) := by
  rw [decode?, pieces_ascii ascii, List.mapM_cons]
  cases decoded : (pieces rest).mapM Piece.char? with
  | none => simp [decode?, Piece.char?, decoded]
  | some text => simp [decode?, Piece.char?, decoded]

theorem lossy_eq_nil_iff {bytes : Bytes} : lossy bytes = [] ↔ bytes = [] := by
  cases bytes with
  | nil => simp
  | cons byte rest =>
    by_cases small : byte < 0x80
    · simp [lossy_cons_ascii small]
    · obtain ⟨c, text, shown, -⟩ := lossy_wide small rest
      simp [shown]

theorem of_lossy_cons {bytes : Bytes} {c : Char} {text : List Char}
    (shown : lossy bytes = c :: text) (ascii : c.toNat < 0x80) :
    ∃ byte rest, bytes = byte :: rest ∧ byte < 0x80 ∧ asciiChar byte = c ∧ lossy rest = text := by
  cases bytes with
  | nil => cases shown
  | cons byte rest =>
    by_cases small : byte < 0x80
    · rw [lossy_cons_ascii small] at shown
      obtain ⟨first, others⟩ := List.cons.inj shown
      exact ⟨byte, rest, rfl, small, first, others⟩
    · obtain ⟨first, others, begins, wide⟩ := lossy_wide small rest
      rw [shown] at begins
      obtain ⟨rfl, -⟩ := List.cons.inj begins
      omega

theorem lossy_of_decode? {bytes : Bytes} {text : List Char} (decoded : decode? bytes = some text) :
    lossy bytes = text := by
  rw [decode?] at decoded
  rw [lossy]
  generalize pieces bytes = found at decoded
  induction found generalizing text with
  | nil => simpa using decoded
  | cons piece others ih =>
    rw [List.mapM_cons] at decoded
    cases piece with
    | char c =>
      obtain ⟨rest, followed, rfl⟩ : ∃ rest, others.mapM Piece.char? = some rest ∧ c :: rest = text := by
        simpa [Piece.char?, Option.bind_eq_some_iff] using decoded
      rw [List.map_cons, ih followed]
      rfl
    | invalid bytes => simp [Piece.char?] at decoded

/-- Bytes that show as ASCII throughout are text and are the bytes of what they show. -/
theorem of_lossy_ascii {bytes : Bytes} (ascii : ∀ c ∈ lossy bytes, c.toNat < 0x80) :
    (∀ byte ∈ bytes, byte < 0x80) ∧ lossy bytes = bytes.map asciiChar := by
  induction bytes with
  | nil => exact ⟨nofun, rfl⟩
  | cons byte rest ih =>
    by_cases small : byte < 0x80
    · rw [lossy_cons_ascii small] at ascii ⊢
      obtain ⟨allSmall, same⟩ := ih (List.forall_mem_cons.mp ascii).2
      exact ⟨List.forall_mem_cons.mpr ⟨small, allSmall⟩, by rw [same, List.map_cons]⟩
    · obtain ⟨first, others, begins, wide⟩ := lossy_wide small rest
      rw [begins] at ascii
      have narrow := (List.forall_mem_cons.mp ascii).1
      omega

theorem decode?_of_ascii {bytes : Bytes} (ascii : ∀ byte ∈ bytes, byte < 0x80) :
    decode? bytes = some (bytes.map asciiChar) := by
  induction bytes with
  | nil => rfl
  | cons byte rest ih =>
    obtain ⟨first, others⟩ := List.forall_mem_cons.mp ascii
    rw [decode?_cons_ascii first, ih others]
    rfl

end TerminalRelay.Text
