import TerminalRelay.Proofs.CommandLine.Reading

/-! No flag is swallowed. The order of the arguments hangs on a look at their letters before
they are read as flags. The two agree: where the look finds that the operands are a command,
the options ask for a pty, and where they ask for none, all that looks like a flag before the
separator was read as flags and is no operand. -/

namespace TerminalRelay.CommandLine

/-- Text of more than one byte that begins with a dash. -/
def LooksLikeFlag (argument : Bytes) : Prop :=
  (Text.decode? argument).isSome ∧ 1 < argument.length ∧ argument.head? = some 0x2d

instance : DecidablePred LooksLikeFlag :=
  fun _ => inferInstanceAs (Decidable (_ ∧ _ ∧ _))

/-- The arguments before the first separator, without the program name. -/
def beforeSeparator (arguments : List Bytes) : List Bytes :=
  arguments.tail.takeWhile (· ≠ separator)

def afterSeparator (arguments : List Bytes) : List Bytes :=
  (arguments.tail.dropWhile (· ≠ separator)).drop 1

theorem isFlag_eq_looksLikeFlag : isFlag = fun argument => decide (LooksLikeFlag argument) := by
  funext argument
  rw [Bool.eq_iff_iff, isFlag_iff, decide_eq_true_iff, LooksLikeFlag]

variable {arguments : List Bytes} {options : Options}

theorem opens_of_opensCommand (parsed : parse arguments = .ok options)
    (opens : opensCommand arguments.tail = true) :
    options.openPty = true ∨ options.redirect = true := by
  obtain ⟨argument, first, letters⟩ := List.any_eq_true.mp opens
  have member : argument ∈ hoisted arguments := by
    rw [hoisted, divide_of_opens (.inr opens)]
    exact first
  exact opens_of_parse parsed member letters

/-- The look at the letters agrees with the reading of every command line that is accepted. -/
theorem lookahead_agrees_with_reading (parsed : parse arguments = .ok options) :
    (opensCommand arguments.tail = true →
      (options.openPty = true ∨ options.redirect = true) ∧
        options.operands = unseparated (arguments.tail.dropWhile isProperFlag)) ∧
    (options.openPty = false → options.redirect = false →
      hoisted arguments = (beforeSeparator arguments).filter (LooksLikeFlag ·) ∧
      (∀ argument ∈ beforeSeparator arguments, LooksLikeFlag argument →
        ∃ cluster, IsCluster argument cluster ∧ ∀ flag ∈ cluster, options.has flag = true) ∧
      options.operands =
        (beforeSeparator arguments).filter (¬ LooksLikeFlag ·) ++ afterSeparator arguments) := by
  constructor
  · intro opens
    refine ⟨opens_of_opensCommand parsed opens, ?_⟩
    rw [operands_of_parse parsed, operands, divide_of_opens (.inr opens)]
  · intro noPty noRedirect
    have plain : opensCommand arguments.tail = false := by
      cases opens : opensCommand arguments.tail with
      | false => rfl
      | true => simpa [noPty, noRedirect] using opens_of_opensCommand parsed opens
    have flags : hoisted arguments = (beforeSeparator arguments).filter (LooksLikeFlag ·) := by
      rw [hoisted, divide_of_plain (.inr plain), isFlag_eq_looksLikeFlag]
      rfl
    refine ⟨flags, ?_, ?_⟩
    · intro argument member looks
      apply cluster_of_parse parsed
      rw [flags]
      exact List.mem_filter.mpr ⟨member, decide_eq_true looks⟩
    · rw [operands_of_parse parsed, operands, divide_of_plain (.inr plain),
        isFlag_eq_looksLikeFlag]
      simp only [beforeSeparator, afterSeparator, decide_not]

/-- `-VL sh -s`: the letters are read, and what follows the first operand is left as it is. -/
def commandLine : List Bytes :=
  [[0x72], [0x2d, 0x56, 0x4c], [0x73, 0x68], [0x2d, 0x73]]

def commandOptions : Options :=
  ⟨false, true, false, false, true, [[0x73, 0x68], [0x2d, 0x73]]⟩

/-- `7 -s -V -- -T`: the flags after the operand are read, and the one after the separator is an
operand. -/
def processLine : List Bytes :=
  [[0x72], [0x37], [0x2d, 0x73], [0x2d, 0x56], separator, [0x2d, 0x54]]

def processOptions : Options :=
  ⟨false, false, true, false, true, [[0x37], [0x2d, 0x54]]⟩

theorem commandLine_parsed : parse commandLine = .ok commandOptions := by rfl

theorem processLine_parsed : parse processLine = .ok processOptions := by rfl

theorem sample_lines_agree :
    (opensCommand commandLine.tail = true ∧
      (commandOptions.openPty = true ∨ commandOptions.redirect = true) ∧
        commandOptions.operands = unseparated (commandLine.tail.dropWhile isProperFlag)) ∧
    (processOptions.openPty = false ∧ processOptions.redirect = false ∧
      hoisted processLine = (beforeSeparator processLine).filter (LooksLikeFlag ·) ∧
      (∀ argument ∈ beforeSeparator processLine, LooksLikeFlag argument →
        ∃ cluster, IsCluster argument cluster ∧
          ∀ flag ∈ cluster, processOptions.has flag = true) ∧
      processOptions.operands =
        (beforeSeparator processLine).filter (¬ LooksLikeFlag ·) ++ afterSeparator processLine) :=
  ⟨⟨rfl, (lookahead_agrees_with_reading commandLine_parsed).1 rfl⟩, rfl, rfl,
    (lookahead_agrees_with_reading processLine_parsed).2 rfl rfl⟩

end TerminalRelay.CommandLine
