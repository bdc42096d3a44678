import Mathlib.Data.List.TakeWhile
import TerminalRelay.CommandLine.Mode
import TerminalRelay.Proofs.CommandLine.Roles

/-! Which order of the arguments makes no difference. Flags and operands may stand in each other's
way as they like where neither a separator nor a command is among them, and a command line that
was put in order is left as it is from then on. -/

namespace TerminalRelay.CommandLine

theorem parse_of_arrange {first second : List Bytes} (same : arrange first = arrange second) :
    parse first = parse second := by
  rw [parse, parse, same]

/-! Interleavings. -/

/-- Two lists in one, each in its own order. -/
inductive Interleaving {α : Type} : List α → List α → List α → Prop
  | nil : Interleaving [] [] []
  | left {item : α} {left right whole : List α} :
      Interleaving left right whole → Interleaving (item :: left) right (item :: whole)
  | right {item : α} {left right whole : List α} :
      Interleaving left right whole → Interleaving left (item :: right) (item :: whole)

namespace Interleaving
variable {α : Type} {left right whole : List α}

theorem swap (merged : Interleaving left right whole) : Interleaving right left whole := by
  induction merged with
  | nil => exact .nil
  | left _ ih => exact ih.right
  | right _ ih => exact ih.left

theorem filter_left {p : α → Bool} (merged : Interleaving left right whole)
    (all : ∀ item ∈ left, p item = true) (none : ∀ item ∈ right, p item = false) :
    whole.filter p = left := by
  induction merged with
  | nil => rfl
  | left _ ih =>
    obtain ⟨first, others⟩ := List.forall_mem_cons.mp all
    rw [List.filter_cons_of_pos first, ih others none]
  | right _ ih =>
    obtain ⟨first, others⟩ := List.forall_mem_cons.mp none
    rw [List.filter_cons_of_neg (by simp [first]), ih all others]

theorem filter_right {p : α → Bool} (merged : Interleaving left right whole)
    (all : ∀ item ∈ left, p item = true) (none : ∀ item ∈ right, p item = false) :
    whole.filter (!p ·) = right := by
  apply merged.swap.filter_left
  · intro item member
    simp [none item member]
  · intro item member
    simp [all item member]

end Interleaving

theorem divide_of_undecided {arguments : List Bytes} (undecided : ¬ Decided arguments) :
    divide false false arguments = (arguments.filter isFlag, arguments.filter (!isFlag ·)) := by
  obtain ⟨unseparated, plain⟩ := not_or.mp undecided
  have whole : ∀ argument ∈ arguments, decide (argument ≠ separator) = true := by
    intro argument member
    exact decide_eq_true fun same => unseparated (same ▸ member)
  cases opens : opensCommand arguments with
  | false =>
    rw [divide_of_plain (.inr opens), List.takeWhile_eq_self_iff.mpr whole,
      List.dropWhile_eq_nil_iff.mpr whole]
    simp
  | true =>
    have none : hasOperand arguments = false := by
      rw [← Bool.not_eq_true]
      exact fun operand => plain ⟨opens, operand⟩
    have proper : ∀ argument ∈ arguments, isProperFlag argument = true := by
      rw [← List.all_eq_true, all_isProperFlag unseparated, none]
      rfl
    have flags : ∀ argument ∈ arguments, isFlag argument = true :=
      fun argument member => (isProperFlag_iff.mp (proper argument member)).1
    rw [divide_of_opens (.inr opens), leading_of_proper proper,
      List.dropWhile_eq_nil_iff.mpr proper, List.filter_eq_self.mpr flags,
      List.filter_eq_nil_iff.mpr (by simpa using flags)]
    rfl

section
variable (program : Bytes) {flags operands arguments : List Bytes}

theorem arrange_interleaving (areFlags : ∀ flag ∈ flags, isFlag flag = true)
    (areOperands : ∀ operand ∈ operands, isFlag operand = false)
    (merged : Interleaving flags operands arguments) (undecided : ¬ Decided arguments) :
    arrange (program :: arguments) = program :: flags ++ separator :: operands := by
  rw [arrange, divide_of_undecided undecided, merged.filter_left areFlags areOperands,
    merged.filter_right areFlags areOperands]

/-- However flags and operands are interleaved, the command line reads the same and selects the
same mode, if no separator is among them and no flag that opens a pty stands before the first
operand. -/
theorem interleaving_makes_no_difference {first second : List Bytes}
    (areFlags : ∀ flag ∈ flags, isFlag flag = true)
    (areOperands : ∀ operand ∈ operands, isFlag operand = false)
    (one : Interleaving flags operands first) (other : Interleaving flags operands second)
    (noSeparator : separator ∉ first ∧ separator ∉ second)
    (noCommand : ¬ CommandBegun first ∧ ¬ CommandBegun second) :
    arrange (program :: first) = program :: flags ++ separator :: operands ∧
      arrange (program :: second) = arrange (program :: first) ∧
      parse (program :: second) = parse (program :: first) ∧
      (parse (program :: second)).map Options.mode =
        (parse (program :: first)).map Options.mode := by
  have undecided : ¬ Decided first := not_or.mpr ⟨noSeparator.1, noCommand.1⟩
  have too : ¬ Decided second := not_or.mpr ⟨noSeparator.2, noCommand.2⟩
  have arranged := arrange_interleaving program areFlags areOperands one undecided
  have same : arrange (program :: second) = arrange (program :: first) :=
    (arrange_interleaving program areFlags areOperands other too).trans arranged.symm
  have parsed := parse_of_arrange same
  exact ⟨arranged, same, parsed, by rw [parsed]⟩

end

example : arrange [[0x72], [0x2d, 0x6c], [0x37], [0x2d, 0x73]] ≠
    arrange [[0x72], [0x37], [0x2d, 0x6c], [0x2d, 0x73]] := by decide

def operandFirst : List Bytes :=
  [[0x37], [0x2d, 0x73], [0x2d, 0x4c], []]

def flagFirst : List Bytes :=
  [[0x2d, 0x73], [0x37], [], [0x2d, 0x4c]]

theorem late_pty_reads_alike :
    (separator ∉ operandFirst ∧ separator ∉ flagFirst) ∧
    (¬ CommandBegun operandFirst ∧ ¬ CommandBegun flagFirst) ∧
    Interleaving [[0x2d, 0x73], [0x2d, 0x4c]] [[0x37], []] operandFirst ∧
    Interleaving [[0x2d, 0x73], [0x2d, 0x4c]] [[0x37], []] flagFirst ∧
    parse ([0x72] :: flagFirst) = parse ([0x72] :: operandFirst) := by
  have noSeparator : separator ∉ operandFirst ∧ separator ∉ flagFirst := by decide
  have noCommand : ¬ CommandBegun operandFirst ∧ ¬ CommandBegun flagFirst := by decide
  have one : Interleaving [[0x2d, 0x73], [0x2d, 0x4c]] [[0x37], []] operandFirst :=
    .right (.left (.left (.right .nil)))
  have other : Interleaving [[0x2d, 0x73], [0x2d, 0x4c]] [[0x37], []] flagFirst :=
    .left (.right (.right (.left .nil)))
  have areFlags : ∀ flag ∈ [[0x2d, 0x73], [0x2d, 0x4c]], isFlag flag = true := by decide
  have areOperands : ∀ operand ∈ [[0x37], []], isFlag operand = false := by decide
  have alike := interleaving_makes_no_difference [0x72] areFlags areOperands one other
    noSeparator noCommand
  exact ⟨noSeparator, noCommand, one, other, alike.2.2.1⟩

/-! Normal form. -/

/-- A command line in order: flags, the separator, operands. -/
inductive Arranged : List Bytes → Prop
  | nothing : Arranged []
  | line {program : Bytes} {flags operands : List Bytes}
      (proper : ∀ flag ∈ flags, isFlag flag = true ∧ flag ≠ separator) :
      Arranged (program :: flags ++ separator :: operands)

theorem arranged_arrange (arguments : List Bytes) : Arranged (arrange arguments) := by
  cases arguments with
  | nil => exact .nothing
  | cons program arguments => exact .line fun flag member => of_mem_divide member

theorem divide_arranged {begun command : Bool} {flags : List Bytes}
    (proper : ∀ flag ∈ flags, isFlag flag = true ∧ flag ≠ separator) (operands : List Bytes) :
    divide begun command (flags ++ separator :: operands) = (flags, operands) := by
  induction flags generalizing command with
  | nil => exact divide_separator begun command operands
  | cons flag flags ih =>
    obtain ⟨⟨isFlag, apart⟩, others⟩ := List.forall_mem_cons.mp proper
    rw [List.cons_append, divide_flag _ _ _ isFlag apart, ih others]

theorem Arranged.arrange_eq {arguments : List Bytes} (arranged : Arranged arguments) :
    arrange arguments = arguments := by
  cases arranged with
  | nothing => rfl
  | line proper =>
    rw [List.cons_append, arrange, divide_arranged proper]
    rfl

/-- To put a command line in order again changes nothing, whatever its operands look like; the
lines that are left as they are are just those in order, and none is read otherwise for it. -/
theorem arrangement_is_idempotent (arguments : List Bytes) :
    arrange (arrange arguments) = arrange arguments ∧
      (arrange arguments = arguments ↔ Arranged arguments) ∧
      parse (arrange arguments) = parse arguments := by
  have again : arrange (arrange arguments) = arrange arguments :=
    (arranged_arrange arguments).arrange_eq
  refine ⟨again, ⟨?_, Arranged.arrange_eq⟩, parse_of_arrange again⟩
  intro same
  rw [← same]
  exact arranged_arrange arguments

end TerminalRelay.CommandLine
