import TerminalRelay.CommandLine.Options
import TerminalRelay.Proofs.Text.Ascii

/-! What becomes of the order of the arguments, without recursion. If a flag before the first
operand opens a pty, the flags before it stand apart and all from the first operand on is left
as it is. Otherwise every flag before the separator stands apart. -/

namespace TerminalRelay.CommandLine

theorem isFlag_separator : isFlag separator = true := by decide

theorem isFlag_eq_true_iff {argument : Bytes} :
    isFlag argument = true ↔ ∃ c text, Text.decode? argument = some ('-' :: c :: text) := by
  unfold isFlag
  split
  · next c text decoded => exact ⟨fun _ => ⟨c, text, decoded⟩, fun _ => rfl⟩
  · next other => exact ⟨nofun, fun ⟨c, text, decoded⟩ => absurd decoded (other c text)⟩

theorem isFlag_iff {argument : Bytes} :
    isFlag argument = true ↔
      (Text.decode? argument).isSome ∧ 1 < argument.length ∧ argument.head? = some 0x2d := by
  rw [isFlag_eq_true_iff]
  constructor
  · rintro ⟨c, text, decoded⟩
    obtain ⟨byte, rest, rfl, small, dash, more⟩ :=
      Text.of_lossy_cons (Text.lossy_of_decode? decoded) (by decide)
    have isDash : byte = 0x2d := Text.asciiChar_injective small (by decide) dash
    have nonempty : rest ≠ [] := by
      rintro rfl
      cases more
    have long := List.length_pos_iff.mpr nonempty
    refine ⟨by rw [decoded]; rfl, by simpa using long, by rw [isDash]; rfl⟩
  · rintro ⟨isText, long, dash⟩
    match argument with
    | [] => cases dash
    | [_] => exact absurd long (Nat.lt_irrefl 1)
    | byte :: second :: rest =>
      cases dash
      rw [Text.decode?_cons_ascii (by decide)] at isText ⊢
      obtain ⟨text, decoded⟩ := Option.isSome_iff_exists.mp (by simpa using isText)
      cases text with
      | nil =>
        have nothing := Text.lossy_eq_nil_iff.mp (Text.lossy_of_decode? decoded)
        cases nothing
      | cons c others => exact ⟨c, others, by rw [decoded]; rfl⟩

theorem opensPty_eq_true_iff {argument : Bytes} :
    opensPty argument = true ↔ ∃ letters, Text.decode? argument = some ('-' :: letters) ∧
      letters.head? ≠ some '-' ∧ ('l' ∈ letters ∨ 'L' ∈ letters) := by
  unfold opensPty
  split
  · next word decoded =>
    refine ⟨nofun, ?_⟩
    rintro ⟨letters, same, single, -⟩
    rw [decoded] at same
    cases same
    exact absurd rfl single
  · next letters single decoded =>
    constructor
    · intro opens
      refine ⟨letters, decoded, ?_, by simpa using opens⟩
      intro double
      obtain ⟨word, rfl⟩ := List.head?_eq_some_iff.mp double
      exact single word rfl
    · rintro ⟨others, same, -, opens⟩
      rw [decoded] at same
      cases same
      simpa using opens
  · next other =>
    exact ⟨nofun, fun ⟨letters, decoded, _⟩ => absurd decoded (other letters)⟩

section
variable (begun command : Bool) (rest : List Bytes)

theorem divide_separator : divide begun command (separator :: rest) = ([], rest) := by
  rw [divide, if_pos rfl]

theorem divide_flag {argument : Bytes} (flag : isFlag argument) (proper : argument ≠ separator) :
    divide begun command (argument :: rest) =
      (argument :: (divide begun (command || !begun && opensPty argument) rest).1,
        (divide begun (command || !begun && opensPty argument) rest).2) := by
  rw [divide, if_neg proper, if_pos flag]

theorem divide_command {argument : Bytes} (operand : ¬ isFlag argument) :
    divide begun true (argument :: rest) = ([], argument :: rest) := by
  have proper : argument ≠ separator := by
    rintro rfl
    exact operand isFlag_separator
  rw [divide, if_neg proper, if_neg operand, if_pos rfl]

theorem divide_operand {argument : Bytes} (operand : ¬ isFlag argument) :
    divide begun false (argument :: rest) =
      ((divide true false rest).1, argument :: (divide true false rest).2) := by
  have proper : argument ≠ separator := by
    rintro rfl
    exact operand isFlag_separator
  rw [divide, if_neg proper, if_neg operand, if_neg Bool.false_ne_true]

end

def isProperFlag (argument : Bytes) : Bool :=
  isFlag argument && argument ≠ separator

theorem isProperFlag_iff {argument : Bytes} :
    isProperFlag argument = true ↔ isFlag argument = true ∧ argument ≠ separator := by
  simp [isProperFlag]

def leading (arguments : List Bytes) : List Bytes :=
  arguments.takeWhile isProperFlag

/-- Whether a flag that opens a pty stands before the first operand. -/
def opensCommand (arguments : List Bytes) : Bool :=
  (leading arguments).any opensPty

/-- The arguments without the separator that they may begin with. -/
def unseparated : List Bytes → List Bytes
  | [] => []
  | argument :: rest => if argument = separator then rest else argument :: rest

theorem leading_cons {argument : Bytes} (proper : isProperFlag argument) (rest : List Bytes) :
    leading (argument :: rest) = argument :: leading rest :=
  List.takeWhile_cons_of_pos proper

theorem opensCommand_cons {argument : Bytes} (proper : isProperFlag argument)
    (rest : List Bytes) :
    opensCommand (argument :: rest) = (opensPty argument || opensCommand rest) := by
  rw [opensCommand, leading_cons proper, List.any_cons, opensCommand]

/-- When the operands are a command, they are all that follows the first flags. -/
theorem divide_of_opens {command : Bool} {arguments : List Bytes}
    (opens : command = true ∨ opensCommand arguments = true) :
    divide false command arguments =
      (leading arguments, unseparated (arguments.dropWhile isProperFlag)) := by
  induction arguments generalizing command with
  | nil => rfl
  | cons argument rest ih =>
    by_cases proper : isProperFlag argument
    · obtain ⟨flag, apart⟩ := isProperFlag_iff.mp proper
      have later : (command || !false && opensPty argument) = true ∨ opensCommand rest = true := by
        rw [opensCommand_cons proper] at opens
        simpa [or_assoc] using opens
      rw [divide_flag _ _ _ flag apart, ih later, leading_cons proper,
        List.dropWhile_cons_of_pos proper]
    · have none : leading (argument :: rest) = [] := List.takeWhile_cons_of_neg proper
      rw [opensCommand, none] at opens
      obtain rfl : command = true := by simpa using opens
      rw [none, List.dropWhile_cons_of_neg proper]
      by_cases ends : argument = separator
      · subst ends
        rw [divide_separator, unseparated, if_pos rfl]
      · have operand : ¬ isFlag argument := fun flag => proper (by simp [isProperFlag, flag, ends])
        rw [divide_command _ _ operand, unseparated, if_neg ends]

theorem divide_of_plain {begun : Bool} {arguments : List Bytes}
    (plain : begun = true ∨ opensCommand arguments = false) :
    divide begun false arguments =
      ((arguments.takeWhile (· ≠ separator)).filter isFlag,
        (arguments.takeWhile (· ≠ separator)).filter (!isFlag ·) ++
          (arguments.dropWhile (· ≠ separator)).drop 1) := by
  -- after an operand no flag opens anything any more, so the two cases are proved together
  induction arguments generalizing begun with
  | nil => rfl
  | cons argument rest ih =>
    by_cases ends : argument = separator
    · subst ends
      simp [divide_separator]
    by_cases flag : isFlag argument
    · have proper : isProperFlag argument := isProperFlag_iff.mpr ⟨flag, ends⟩
      rw [opensCommand_cons proper, Bool.or_eq_false_iff] at plain
      have still : (false || !begun && opensPty argument) = false := by
        rcases plain with rfl | ⟨closed, -⟩
        · rfl
        · simp [closed]
      rw [divide_flag _ _ _ flag ends, still, ih (plain.imp_right And.right)]
      simp [ends, flag]
    · rw [divide_operand _ _ flag, ih (.inl rfl)]
      simp [ends, flag]

theorem of_mem_divide {begun command : Bool} {arguments : List Bytes} {argument : Bytes}
    (moved : argument ∈ (divide begun command arguments).1) :
    isFlag argument ∧ argument ≠ separator := by
  induction arguments generalizing begun command with
  | nil => cases moved
  | cons first rest ih =>
    by_cases ends : first = separator
    · subst ends
      rw [divide_separator] at moved
      cases moved
    by_cases flag : isFlag first
    · rw [divide_flag _ _ _ flag ends] at moved
      rcases List.mem_cons.mp moved with rfl | later
      · exact ⟨flag, ends⟩
      · exact ih later
    · cases command with
      | true =>
        rw [divide_command _ _ flag] at moved
        cases moved
      | false =>
        rw [divide_operand _ _ flag] at moved
        exact ih moved

/-- The flags of a command line, program name first. -/
def hoisted (arguments : List Bytes) : List Bytes :=
  (divide false false arguments.tail).1

def operands (arguments : List Bytes) : List Bytes :=
  (divide false false arguments.tail).2

/-- Reading a command line again after it was put in order finds the same flags and operands. -/
theorem parse_eq (arguments : List Bytes) :
    parse arguments = readOptions (hoisted arguments) (operands arguments) := by
  cases arguments with
  | nil => rfl
  | cons program arguments =>
    have apart : ∀ argument ∈ (divide false false arguments).1,
        decide (argument ≠ separator) = true := fun argument member =>
      decide_eq_true (of_mem_divide member).2
    have arranged : (arrange (program :: arguments)).drop 1 =
        (divide false false arguments).1 ++ separator :: (divide false false arguments).2 := rfl
    rw [parse, arranged, List.takeWhile_append_of_pos apart, List.dropWhile_append_of_pos apart]
    simp [hoisted, operands]

end TerminalRelay.CommandLine
