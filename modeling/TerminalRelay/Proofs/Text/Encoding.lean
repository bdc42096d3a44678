import TerminalRelay.Proofs.Text.Ascii

/-! Text and its bytes. The pieces that any bytes fall into make up these bytes again, and the
bytes of a text fall into its characters. So bytes are a text just if they are its encoding. -/

namespace TerminalRelay.Text

def trailing : Nat → Nat → Bytes
  | 0, _ => []
  | more + 1, n => UInt8.ofNat (n / 64 ^ more % 64 + 0x80) :: trailing more n

inductive Encoded (n : Nat) : UInt8 → Nat → Prop
  | two (wide : 0x80 ≤ n) (below : n < 0x800) : Encoded n (UInt8.ofNat (n / 64 + 0xC0)) 1
  | three (above : 0x800 ≤ n) (below : n < 0x10000) :
      Encoded n (UInt8.ofNat (n / 64 ^ 2 + 0xE0)) 2
  | four (above : 0x10000 ≤ n) (below : n < 0x110000) :
      Encoded n (UInt8.ofNat (n / 64 ^ 3 + 0xF0)) 3

theorem exists_encoded {n : Nat} (valid : n.isValidChar) (wide : 0x80 ≤ n) :
    ∃ first more, Encoded n first more := by
  unfold Nat.isValidChar at valid
  by_cases small : n < 0x800
  · exact ⟨_, _, .two wide small⟩
  · by_cases middle : n < 0x10000
    · exact ⟨_, _, .three (by omega) middle⟩
    · exact ⟨_, _, .four (by omega) (by omega)⟩

theorem encoded_iff {n more : Nat} {first : UInt8} :
    Encoded n first more ↔
      more = 1 ∧ 0x80 ≤ n ∧ n < 0x800 ∧ first.toNat = n / 64 + 0xC0 ∨
        more = 2 ∧ 0x800 ≤ n ∧ n < 0x10000 ∧ first.toNat = n / 4096 + 0xE0 ∨
        more = 3 ∧ 0x10000 ≤ n ∧ n < 0x110000 ∧ first.toNat = n / 262144 + 0xF0 := by
  constructor
  · intro encoded
    cases encoded
    all_goals
      rw [UInt8.toNat_ofNat']
      omega
  · have same : first = UInt8.ofNat first.toNat := UInt8.ofNat_toNat.symm
    rintro (⟨rfl, above, below, known⟩ | ⟨rfl, above, below, known⟩ | ⟨rfl, above, below, known⟩)
    all_goals rw [same, known]
    · exact .two above below
    · exact .three above below
    · exact .four above below

theorem Encoded.encodeChar {n more : Nat} {first : UInt8} (encoded : Encoded n first more)
    (valid : n.isValidChar) :
    String.utf8EncodeChar (Char.ofNat n) = first :: trailing more n := by
  have same : (Char.ofNat n).val.toNat = n := toNat_ofNat_of_valid valid
  rw [String.utf8EncodeChar, same]
  cases encoded with
  | two wide below =>
    rw [if_neg (by omega), if_pos (by omega), Nat.mod_eq_of_lt (by omega : n / 64 < 0x20)]
    simp only [trailing, Nat.pow_zero, Nat.div_one]
  | three above below =>
    rw [if_neg (by omega), if_neg (by omega), if_pos (by omega),
      Nat.mod_eq_of_lt (by omega : n / 4096 < 0x10)]
    simp only [trailing, Nat.pow_zero, Nat.div_one, Nat.pow_one, Nat.reducePow]
  | four above below =>
    rw [if_neg (by omega), if_neg (by omega), if_neg (by omega),
      Nat.mod_eq_of_lt (by omega : n / 262144 < 0x08)]
    simp only [trailing, Nat.pow_zero, Nat.div_one, Nat.pow_one, Nat.reducePow]

theorem encodeChar_ascii {byte : UInt8} (ascii : byte < 0x80) :
    String.utf8EncodeChar (asciiChar byte) = [byte] := by
  have small : byte.toNat < 128 := ascii
  have same : (asciiChar byte).val.toNat = byte.toNat := asciiChar_toNat ascii
  rw [String.utf8EncodeChar, same, if_pos (by omega), UInt8.ofNat_toNat]

theorem exists_asciiChar {c : Char} (ascii : c.toNat < 0x80) :
    ∃ byte, byte < 0x80 ∧ asciiChar byte = c := by
  have same : (UInt8.ofNat c.toNat).toNat = c.toNat := by
    rw [UInt8.toNat_ofNat', Nat.mod_eq_of_lt (by omega)]
  refine ⟨UInt8.ofNat c.toNat, ?_, ?_⟩
  · rw [UInt8.lt_iff_toNat_lt, same]
    exact ascii
  · rw [asciiChar, same, Char.ofNat_toNat]

namespace Begun

def Covers (begun : Begun) (n : Nat) : Prop :=
  begun.least ≤ n ∧ n < begun.past

def following (begun : Begun) (n : Nat) : UInt8 :=
  UInt8.ofNat (n / 64 ^ (begun.missing - 1) % 64 + 0x80)

/-- The bytes taken begin the encoding of every character that the one begun can come to, and each
of the bytes that may come next has six more bits. -/
structure Opens (begun : Begun) : Prop where
  wide : begun.Wide
  span : 0x80 ≤ begun.low.toNat ∧ begun.low.toNat ≤ begun.high.toNat ∧ begun.high.toNat ≤ 0xBF
  encoding : ∀ n, begun.Covers n →
    String.utf8EncodeChar (Char.ofNat n) = begun.taken ++ trailing begun.missing n

theorem Wide.isValidChar {begun : Begun} (wide : begun.Wide) {n : Nat} (covers : begun.Covers n) :
    n.isValidChar := by
  obtain ⟨-, least, valid⟩ := wide
  obtain ⟨above, below⟩ := covers
  unfold Nat.isValidChar
  omega

theorem covers_iff (begun : Begun) (n : Nat) :
    begun.Covers n ↔
      begun.value * 64 + (begun.low.toNat - 0x80) ≤ n / 64 ^ (begun.missing - 1) ∧
        n / 64 ^ (begun.missing - 1) ≤ begun.value * 64 + (begun.high.toNat - 0x80) := by
  have positive : 0 < 64 ^ (begun.missing - 1) := Nat.pow_pos (by decide)
  rw [Covers, least, past, ← Nat.le_div_iff_mul_le positive, ← Nat.div_lt_iff_lt_mul positive,
    Nat.lt_succ_iff]

section
variable {begun : Begun} {byte : UInt8} {n : Nat}

theorem Opens.two_le_missing (opens : begun.Opens) (more : begun.missing ≠ 1) :
    2 ≤ begun.missing := by
  have some := opens.wide.some
  omega

theorem Opens.takes_iff (opens : begun.Opens) (low : begun.low ≤ byte) (high : byte ≤ begun.high) :
    n / 64 ^ (begun.missing - 1) = begun.value * 64 + (byte.toNat - 0x80) ↔
      begun.Covers n ∧ begun.following n = byte := by
  obtain ⟨least, -, most⟩ := opens.span
  have above : begun.low.toNat ≤ byte.toNat := low
  have below : byte.toNat ≤ begun.high.toNat := high
  rw [covers_iff, following, ← UInt8.toNat_inj, UInt8.toNat_ofNat']
  omega

theorem Opens.following_fits (opens : begun.Opens) (covers : begun.Covers n) :
    begun.low ≤ begun.following n ∧ begun.following n ≤ begun.high := by
  obtain ⟨least, inhabited, most⟩ := opens.span
  rw [covers_iff] at covers
  rw [UInt8.le_iff_toNat_le, UInt8.le_iff_toNat_le, following, UInt8.toNat_ofNat']
  omega

theorem covers_continued_iff (more : 2 ≤ begun.missing) :
    (begun.continued byte).Covers n ↔
      n / 64 ^ (begun.missing - 1) = begun.value * 64 + (byte.toNat - 0x80) := by
  obtain ⟨further, same⟩ := Nat.exists_eq_add_of_le' more
  have before : n / 64 ^ (further + 1) = n / 64 ^ further / 64 := by
    rw [Nat.div_div_eq_div_mul, Nat.pow_succ]
  have first : (0x80 : UInt8).toNat = 0x80 := rfl
  have last : (0xBF : UInt8).toNat = 0xBF := rfl
  rw [covers_iff, same]
  simp only [continued, same, first, last, Nat.add_succ_sub_one, before, Nat.add_zero]
  omega

theorem Wide.trailing (wide : begun.Wide) :
    trailing begun.missing n = begun.following n :: Text.trailing (begun.missing - 1) n := by
  obtain ⟨further, same⟩ := Nat.exists_eq_succ_of_ne_zero wide.some
  rw [following, same]
  rfl

theorem Opens.continued (opens : begun.Opens) (low : begun.low ≤ byte) (high : byte ≤ begun.high)
    (more : begun.missing ≠ 1) : (begun.continued byte).Opens := by
  refine ⟨opens.wide.continued low high more, ⟨Nat.le_refl _, ?_, Nat.le_refl _⟩, ?_⟩
  · exact (by decide : (0x80 : UInt8).toNat ≤ (0xBF : UInt8).toNat)
  · intro n covers
    have taken := (covers_continued_iff (opens.two_le_missing more)).mp covers
    obtain ⟨before, rfl⟩ := (opens.takes_iff low high).mp taken
    rw [opens.encoding n before, opens.wide.trailing, Begun.continued, List.append_assoc]
    rfl

theorem Opens.completed (opens : begun.Opens) (low : begun.low ≤ byte) (high : byte ≤ begun.high)
    (last : begun.missing = 1) :
    String.utf8EncodeChar (Char.ofNat (begun.value * 64 + (byte.toNat - 0x80))) =
      begun.taken ++ [byte] := by
  have whole : ∀ n : Nat, n / 64 ^ (begun.missing - 1) = n := by
    intro n
    rw [last, Nat.sub_self, Nat.pow_zero, Nat.div_one]
  obtain ⟨covers, same⟩ := (opens.takes_iff low high).mp (whole _)
  rw [opens.encoding _ covers, opens.wide.trailing, same, last]
  rfl

end

/-- After a character begun, the rest of its bytes is read as that character. -/
theorem Opens.pieces_trailing {begun : Begun} (opens : begun.Opens) {n : Nat}
    (covers : begun.Covers n) (rest : Bytes) :
    piecesAfter (some begun) (trailing begun.missing n ++ rest) =
      .char (Char.ofNat n) :: pieces rest := by
  obtain ⟨low, high⟩ := opens.following_fits covers
  have taken := (opens.takes_iff low high).mpr ⟨covers, rfl⟩
  have fits : (decide (begun.low ≤ begun.following n) &&
      decide (begun.following n ≤ begun.high)) = true := by simpa using ⟨low, high⟩
  rw [opens.wide.trailing, List.cons_append, piecesAfter, advance, if_pos fits]
  by_cases last : begun.missing = 1
  · rw [if_pos last, ← taken, last, Nat.sub_self, Nat.pow_zero, Nat.div_one]
    rfl
  · rw [if_neg last]
    have covered := (covers_continued_iff (opens.two_le_missing last)).mpr taken
    exact (opens.continued low high last).pieces_trailing covered rest
termination_by begun.missing
decreasing_by
  have more := opens.two_le_missing last
  change begun.missing - 1 < begun.missing
  omega

theorem Opens.of_encoded {begun : Begun} {byte : UInt8} (wide : begun.Wide)
    (taken : begun.taken = [byte])
    (span : 0x80 ≤ begun.low.toNat ∧ begun.low.toNat ≤ begun.high.toNat ∧
      begun.high.toNat ≤ 0xBF)
    (encoded : ∀ n, begun.Covers n → Encoded n byte begun.missing) : begun.Opens := by
  refine ⟨wide, span, fun n covers => ?_⟩
  rw [(encoded n covers).encodeChar (wide.isValidChar covers), taken]
  rfl

end Begun

theorem opens_of_start {byte : UInt8} {begun : Begun} (started : (start byte).2 = some begun) :
    begun.Opens := by
  have beyond : ¬ byte < 0x80 := by
    intro ascii
    rw [start, if_pos ascii] at started
    cases started
  have wide : begun.Wide := by
    obtain ⟨bytes, other⟩ | ⟨_, same, wide⟩ := start_wide beyond
    · rw [other] at started
      cases started
    · rw [same] at started
      cases started
      exact wide
  unfold start at started
  rw [if_neg beyond] at started
  simp only [UInt8.lt_iff_toNat_lt, ← UInt8.toNat_inj, UInt8.reduceToNat] at beyond started
  split at started
  · cases started
  iterate 7
    split at started
    · cases started
      refine .of_encoded wide rfl ?_ fun n covers => encoded_iff.mpr ?_
      · simp
      · simp only [Begun.Covers, Begun.least, Begun.past, UInt8.reduceToNat, true_and] at covers ⊢
        omega
  cases started

theorem Encoded.starts {n more : Nat} {first : UInt8} (encoded : Encoded n first more)
    (valid : n.isValidChar) :
    ∃ begun, start first = ([], some begun) ∧ begun.missing = more ∧ begun.Covers n := by
  have known := encoded_iff.mp encoded
  clear encoded
  unfold Nat.isValidChar at valid
  unfold start
  simp only [UInt8.lt_iff_toNat_lt, ← UInt8.toNat_inj, UInt8.reduceToNat]
  rw [if_neg (by omega), if_neg (by omega)]
  iterate 7
    split
    · refine ⟨_, rfl, ?_⟩
      simp only [Begun.Covers, Begun.least, Begun.past, UInt8.reduceToNat]
      omega
  omega

def Piece.bytes : Piece → Bytes
  | .char c => String.utf8EncodeChar c
  | .invalid bytes => bytes

def takenBytes : Option Begun → Bytes
  | none => []
  | some begun => begun.taken

/-- The pieces found and what has begun after them were read from just these bytes. -/
structure Accounts (bytes : Bytes) (outcome : List Piece × Option Begun) : Prop where
  bytes : outcome.1.flatMap Piece.bytes ++ takenBytes outcome.2 = bytes
  opens : ∀ begun, outcome.2 = some begun → begun.Opens

theorem start_accounts (byte : UInt8) : Accounts [byte] (start byte) := by
  refine ⟨?_, fun _ => opens_of_start⟩
  unfold start
  split
  · next ascii =>
    have same := encodeChar_ascii ascii
    rw [asciiChar] at same
    simp [Piece.bytes, takenBytes, same]
  · repeat' split
    all_goals rfl

theorem advance_accounts {state : Option Begun} (opens : ∀ begun, state = some begun → begun.Opens)
    (byte : UInt8) : Accounts (takenBytes state ++ [byte]) (advance state byte) := by
  cases state with
  | none => exact start_accounts byte
  | some begun =>
    have opens := opens begun rfl
    rw [advance]
    split
    · next fits =>
      obtain ⟨low, high⟩ : begun.low ≤ byte ∧ byte ≤ begun.high := by simpa using fits
      by_cases last : begun.missing = 1
      · rw [if_pos last]
        refine ⟨?_, by rintro _ ⟨⟩⟩
        simp [Piece.bytes, takenBytes, opens.completed low high last]
      · rw [if_neg last]
        refine ⟨rfl, ?_⟩
        rintro _ ⟨⟩
        exact opens.continued low high last
    · obtain ⟨bytes, opens⟩ := start_accounts byte
      refine ⟨?_, opens⟩
      rw [List.flatMap_cons, List.append_assoc, bytes]
      rfl

theorem piecesAfter_bytes {state : Option Begun} (opens : ∀ begun, state = some begun → begun.Opens)
    (bytes : Bytes) : (piecesAfter state bytes).flatMap Piece.bytes = takenBytes state ++ bytes := by
  induction bytes generalizing state with
  | nil =>
    cases state with
    | none => rfl
    | some begun => simp [piecesAfter, Piece.bytes, takenBytes]
  | cons byte rest ih =>
    obtain ⟨read, opens⟩ := advance_accounts opens byte
    rw [piecesAfter, List.flatMap_append, ih opens, ← List.append_assoc, read, List.append_assoc]
    rfl

/-- Nothing is lost of the bytes that fall into pieces. -/
theorem pieces_bytes (bytes : Bytes) : (pieces bytes).flatMap Piece.bytes = bytes := by
  apply piecesAfter_bytes
  rintro _ ⟨⟩

theorem pieces_encodeChar (c : Char) (rest : Bytes) :
    pieces (String.utf8EncodeChar c ++ rest) = .char c :: pieces rest := by
  by_cases ascii : c.toNat < 0x80
  · obtain ⟨byte, small, rfl⟩ := exists_asciiChar ascii
    rw [encodeChar_ascii small, List.singleton_append, pieces_ascii small]
  · obtain ⟨first, more, encoded⟩ := exists_encoded c.valid (Nat.le_of_not_lt ascii)
    obtain ⟨begun, started, rfl, covers⟩ := encoded.starts c.valid
    have opens := opens_of_start (congrArg Prod.snd started)
    have read := opens.pieces_trailing covers rest
    have same := encoded.encodeChar c.valid
    rw [show c.val.toNat = c.toNat from rfl, Char.ofNat_toNat] at same read
    rw [same, pieces, List.cons_append, piecesAfter, advance, started]
    exact read

theorem pieces_of_decode? {bytes : Bytes} {text : List Char} (decoded : decode? bytes = some text) :
    pieces bytes = text.map Piece.char := by
  rw [decode?] at decoded
  generalize pieces bytes = found at decoded
  induction found generalizing text with
  | nil =>
    cases decoded
    rfl
  | cons piece others ih =>
    rw [List.mapM_cons] at decoded
    cases piece with
    | char c =>
      obtain ⟨rest, followed, rfl⟩ :
          ∃ rest, others.mapM Piece.char? = some rest ∧ c :: rest = text := by
        simpa [Piece.char?, Option.bind_eq_some_iff] using decoded
      rw [List.map_cons, ← ih followed]
    | invalid bytes => simp [Piece.char?] at decoded

theorem toList_loop (bytes : ByteArray) (place : Nat) (before : Bytes) :
    ByteArray.toList.loop bytes place before = before.reverse ++ bytes.data.toList.drop place := by
  fun_induction ByteArray.toList.loop bytes place before with
  | case1 place before inside ih =>
    have inside : place < bytes.data.toList.length := inside
    have same : bytes.get! place = bytes.data.toList[place] := by
      rw [ByteArray.get!, Array.getElem_toList]
      exact getElem!_pos bytes.data place inside
    rw [ih, List.reverse_cons, List.append_assoc, List.drop_eq_getElem_cons inside, same]
    rfl
  | case2 place before outside =>
    rw [List.drop_eq_nil_of_le (Nat.le_of_not_lt outside), List.append_nil]

theorem encode_eq (text : String) : encode text = text.toList.flatMap String.utf8EncodeChar := by
  rw [encode, ByteArray.toList, toList_loop, String.toUTF8_eq_toByteArray,
    ← String.utf8Encode_toList, List.utf8Encode, List.toList_data_toByteArray]
  rfl

theorem decode?_encode (text : String) : decode? (encode text) = some text.toList := by
  rw [encode_eq]
  induction text.toList with
  | nil => rfl
  | cons c text ih =>
    rw [decode?] at ih ⊢
    rw [List.flatMap_cons, pieces_encodeChar, List.mapM_cons, ih]
    rfl

theorem decode?_eq_some_iff {bytes : Bytes} {text : List Char} :
    decode? bytes = some text ↔ bytes = encode (String.ofList text) := by
  constructor
  · intro decoded
    rw [encode_eq, String.toList_ofList, ← pieces_bytes bytes, pieces_of_decode? decoded,
      List.flatMap_map]
    rfl
  · rintro rfl
    rw [decode?_encode, String.toList_ofList]

end TerminalRelay.Text
