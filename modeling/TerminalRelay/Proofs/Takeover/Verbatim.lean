import TerminalRelay.CommandLine.Mode
import TerminalRelay.Proofs.CommandLine.Reading
import TerminalRelay.Proofs.Takeover.Launching

/-! A command on the command line. Behind flags one of which opens a pty, and behind a separator
if there is one, the arguments are a command that nothing looks at until it is started. -/

namespace TerminalRelay
open CommandLine

namespace CommandLine
variable {program : Bytes} {flags : List Bytes}

theorem properFlags_of_hoisted (hoists : hoisted (program :: flags) = flags) :
    ∀ flag ∈ flags, isProperFlag flag := by
  intro flag member
  rw [← hoists] at member
  exact isProperFlag_iff.mpr (of_mem_divide member)

theorem leading_append (proper : ∀ flag ∈ flags, isProperFlag flag) (rest : List Bytes) :
    leading (flags ++ rest) = flags ++ leading rest :=
  List.takeWhile_append_of_pos proper

/-- The command `first :: others` at the end of a command line. Unless a separator stands before
it, it must not begin with what would be a flag. -/
def IsCommand (first : Bytes) (others ending : List Bytes) : Prop :=
  (ending = first :: others ∧ ¬ isFlag first ∧ first ≠ separator) ∨
    ending = separator :: first :: others

theorem IsCommand.apart {first : Bytes} {others ending : List Bytes}
    (commands : IsCommand first others ending) :
    leading ending = [] ∧ unseparated (ending.dropWhile isProperFlag) = first :: others := by
  rcases commands with ⟨rfl, operand, apart⟩ | rfl
  · have plain : ¬ isProperFlag first := by simp [isProperFlag, operand]
    rw [leading, List.takeWhile_cons_of_neg plain, List.dropWhile_cons_of_neg plain]
    exact ⟨rfl, by rw [unseparated, if_neg apart]⟩
  · have plain : ¬ isProperFlag separator := by simp [isProperFlag]
    rw [leading, List.takeWhile_cons_of_neg plain, List.dropWhile_cons_of_neg plain]
    exact ⟨rfl, by rw [unseparated, if_pos rfl]⟩

section
variable {first : Bytes} {others ending : List Bytes}
  (hoists : hoisted (program :: flags) = flags) (opens : ∃ flag ∈ flags, opensPty flag)
  (commands : IsCommand first others ending)
include hoists opens commands

theorem divide_command_line :
    hoisted (program :: flags ++ ending) = flags ∧
      operands (program :: flags ++ ending) = first :: others := by
  have proper := properFlags_of_hoisted hoists
  obtain ⟨none, whole⟩ := commands.apart
  have leads : leading (flags ++ ending) = flags := by
    rw [leading_append proper, none, List.append_nil]
  have opensIt : opensCommand (flags ++ ending) = true := by
    rw [opensCommand, leads]
    exact List.any_eq_true.mpr opens
  have divided : divide false false (flags ++ ending) = (flags, first :: others) := by
    rw [divide_of_opens (.inr opensIt), leads, List.dropWhile_append_of_pos proper, whole]
  constructor
  · exact congrArg Prod.fst divided
  · exact congrArg Prod.snd divided

theorem parse_command_line {alone : Options} (accepted : parse (program :: flags) = .ok alone) :
    ∃ options, parse (program :: flags ++ ending) = .ok options ∧
      options.mode = .ok (.create (occurs 'L' flags) (first :: others)) := by
  obtain ⟨sameFlags, command⟩ := divide_command_line hoists opens commands
  rw [parse_eq, hoists] at accepted
  obtain ⟨given, read, once, peaceful, -⟩ := readOptions_eq_ok_iff.mp accepted
  have parsed : parse (program :: flags ++ ending) =
      .ok (Options.ofFlags given (first :: others)) := by
    rw [parse_eq, sameFlags, command]
    exact readOptions_eq_ok_iff.mpr ⟨given, read, once, peaceful, rfl⟩
  obtain ⟨flag, member, letters⟩ := opens
  have asked := opens_of_parse parsed (by rwa [sameFlags]) letters
  have pty : ((Options.ofFlags given (first :: others)).openPty ||
      (Options.ofFlags given (first :: others)).redirect) = true := by
    simpa using asked
  have redirect := has_of_parse parsed .redirect
  rw [sameFlags] at redirect
  refine ⟨_, parsed, ?_⟩
  rw [Options.mode, if_pos pty]
  change Except.ok (Mode.create (Options.has _ .redirect) (first :: others)) = _
  rw [redirect]
  rfl

end
end CommandLine

/-- Behind flags that are accepted alone and open a pty, a command is started as it stands. The
mode is its bytes, and once the pty is there, just one child is asked for, which is told the pty
that was printed. -/
theorem command_passes_verbatim {program : Bytes} {flags : List Bytes} {alone : Options}
    {first : Bytes} {others ending : List Bytes}
    (hoists : hoisted (program :: flags) = flags) (opens : ∃ flag ∈ flags, opensPty flag)
    (accepted : parse (program :: flags) = .ok alone) (commands : IsCommand first others ending) :
    ∃ options mode, parse (program :: flags ++ ending) = .ok options ∧
      options.mode = .ok mode ∧ mode = .create (occurs 'L' flags) (first :: others) ∧
      ∀ allowance backend slave left, backend.Makes slave left →
        (announcement slave).length + left ≤ allowance.patience →
        (obliging slave).Brings left (execute allowance backend mode) fun events _ _ =>
          printedBy events = announcement slave ∧
            ∃ streams, streams.isSome = occurs 'L' flags ∧
              launches events = [⟨first, others, slave, streams⟩] := by
  obtain ⟨options, parsed, selects⟩ := parse_command_line hoists opens commands accepted
  refine ⟨options, _, parsed, selects, rfl, ?_⟩
  intro allowance backend slave left makes enough
  exact execute_create_brings makes enough (occurs 'L' flags) first others

/-- `-VL sh -- -T`, and then an argument that is no text and an empty one. -/
def shellLine : List Bytes :=
  [[0x72], [0x2d, 0x56, 0x4c], [0x73, 0x68], separator, [0x2d, 0x54], [0xff], []]

theorem shellLine_passes :
    ∃ options mode, parse shellLine = .ok options ∧ options.mode = .ok mode ∧
      mode = .create true [[0x73, 0x68], separator, [0x2d, 0x54], [0xff], []] ∧
      ∃ events after outcome, (obliging "/dev/pts/1").Run 2
        (execute ⟨1, 64⟩ Backend.system mode) events after (.done outcome) ∧
        printedBy events = announcement "/dev/pts/1" ∧ ∃ streams, streams.isSome = true ∧
          launches events =
            [⟨[0x73, 0x68], [separator, [0x2d, 0x54], [0xff], []], "/dev/pts/1", streams⟩] := by
  have opens : ∃ flag ∈ [[0x2d, 0x56, 0x4c]], opensPty flag :=
    ⟨[0x2d, 0x56, 0x4c], List.mem_singleton_self _, rfl⟩
  have accepted : parse [[0x72], [0x2d, 0x56, 0x4c]] =
      .ok ⟨false, true, false, false, true, []⟩ := rfl
  have command : IsCommand [0x73, 0x68] [separator, [0x2d, 0x54], [0xff], []]
      [[0x73, 0x68], separator, [0x2d, 0x54], [0xff], []] :=
    .inl ⟨rfl, by decide, by decide⟩
  obtain ⟨options, mode, parsed, selects, creates, starts⟩ :=
    command_passes_verbatim rfl opens accepted command
  have enough : (announcement "/dev/pts/1").length + 2 ≤ 64 := by decide +kernel
  have sure := starts ⟨1, 64⟩ Backend.system "/dev/pts/1" 2 (Backend.system_makes _ _) enough
  exact ⟨options, mode, parsed, selects, creates, sure.finishes⟩

end TerminalRelay
