import TerminalRelay.CommandLine.Mode
import TerminalRelay.Proofs.CommandLine.Reading
import TerminalRelay.Proofs.Pid

/-! The mode that a command line without a pty selects. It hangs on the letters of the flags
and on the bytes of the first operand, which name a process only as decimal digits; bytes that
are no text name none, whatever they show as. -/

namespace TerminalRelay.CommandLine

def Writes (operand : Bytes) (number : Nat) : Prop :=
  operand ≠ [] ∧ Text.AreDigits operand ∧ Text.decimal operand = number

theorem readPid_eq_ok_iff {operand : Bytes} {pid : Pid} :
    readPid (Text.lossy operand) = .ok pid ↔ Writes operand pid.number := by
  have parsed : readPid (Text.lossy operand) = .ok pid ↔
      Pid.parse (Text.lossy operand) = .ok pid := by
    unfold readPid
    split <;> simp [*]
  rw [parsed, Pid.parse_eq_ok_iff, Text.lossy_digits_iff, Writes, Ne, Text.lossy_eq_nil_iff]
  constructor
  · rintro ⟨nonempty, digits, value⟩
    exact ⟨nonempty, digits, by rw [← Text.value_lossy digits, value]⟩
  · rintro ⟨nonempty, digits, value⟩
    exact ⟨nonempty, digits, by rw [Text.value_lossy digits, value]⟩

theorem readPid_refuses {operand : Bytes} (no : ∀ pid : Pid, ¬ Writes operand pid.number) :
    ∃ reason, readPid (Text.lossy operand) =
        .error (.invalidPid (Text.display operand) reason) ∧
      (reason = .empty ↔ operand = []) := by
  cases parsed : Pid.parse (Text.lossy operand) with
  | ok pid =>
    have read : readPid (Text.lossy operand) = .ok pid := by rw [readPid, parsed]
    exact absurd (readPid_eq_ok_iff.mp read) (no pid)
  | error reason =>
    refine ⟨reason, by rw [readPid, parsed, Text.display], ?_⟩
    rw [← Text.lossy_eq_nil_iff, ← Pid.parse_eq_empty_iff, parsed]
    simp

/-- How flags and a first operand select a mode where no pty is asked for. -/
structure Selection (flags : List Bytes) (first : Option Bytes) (outcome : Except Fault Mode) :
    Prop where
  mode_iff : ∀ mode, outcome = .ok mode ↔
    ∃ operand number, ∃ (least : 1 ≤ number) (most : number ≤ 2147483647),
      first = some operand ∧ Writes operand number ∧
        mode = if occurs 'T' flags then .steal ⟨number, least, most⟩
          else .attach ⟨number, least, most⟩ (occurs 's' flags)
  usage_iff : (∃ text, outcome = .error (.usage text)) ↔ first = none
  invalid : ∀ operand, first = some operand →
    (∀ number, 1 ≤ number → number ≤ 2147483647 → ¬ Writes operand number) →
      ∃ reason, outcome = .error (.invalidPid (Text.display operand) reason) ∧
        (reason = .empty ↔ operand = [])
  noText : ∀ operand, first = some operand → Text.decode? operand = none →
    ∀ mode, outcome ≠ .ok mode

def selected (flags : List Bytes) : Option Bytes → Except Fault Mode
  | none => .error (.usage "No pid specified to attach")
  | some operand => (readPid (Text.lossy operand)).map fun pid =>
      if occurs 'T' flags then .steal pid else .attach pid (occurs 's' flags)

theorem selected_eq_ok_iff {flags : List Bytes} {operand : Bytes} {mode : Mode} :
    selected flags (some operand) = .ok mode ↔
      ∃ pid : Pid, Writes operand pid.number ∧
        mode = if occurs 'T' flags then .steal pid else .attach pid (occurs 's' flags) := by
  rw [selected]
  constructor
  · intro chosen
    cases read : readPid (Text.lossy operand) with
    | error fault =>
      rw [read] at chosen
      cases chosen
    | ok pid =>
      rw [read] at chosen
      exact ⟨pid, readPid_eq_ok_iff.mp read, (Except.ok.inj chosen).symm⟩
  · rintro ⟨pid, writes, rfl⟩
    rw [readPid_eq_ok_iff.mpr writes]
    rfl

theorem selected_refuses {flags : List Bytes} {operand : Bytes}
    (no : ∀ pid : Pid, ¬ Writes operand pid.number) :
    ∃ reason, selected flags (some operand) =
        .error (.invalidPid (Text.display operand) reason) ∧
      (reason = .empty ↔ operand = []) := by
  obtain ⟨reason, refused, empty⟩ := readPid_refuses no
  exact ⟨reason, by rw [selected, refused]; rfl, empty⟩

theorem not_writes_of_noText {operand : Bytes} (noText : Text.decode? operand = none)
    (number : Nat) : ¬ Writes operand number := by
  rintro ⟨-, digits, -⟩
  rw [Text.decode?_of_ascii digits.ascii] at noText
  cases noText

theorem selection_selected (flags : List Bytes) (first : Option Bytes) :
    Selection flags first (selected flags first) := by
  cases first with
  | none =>
    refine ⟨fun mode => ⟨nofun, nofun⟩, ⟨fun _ => rfl, fun _ => ⟨_, rfl⟩⟩, nofun, nofun⟩
  | some operand =>
    constructor
    case mode_iff =>
      intro mode
      rw [selected_eq_ok_iff]
      constructor
      · rintro ⟨pid, writes, chosen⟩
        exact ⟨operand, pid.number, pid.positive, pid.bounded, rfl, writes, chosen⟩
      · rintro ⟨_, number, least, most, same, writes, chosen⟩
        cases same
        exact ⟨⟨number, least, most⟩, writes, chosen⟩
    case usage_iff =>
      refine ⟨?_, nofun⟩
      rintro ⟨text, missing⟩
      by_cases named : ∃ pid : Pid, Writes operand pid.number
      · obtain ⟨pid, writes⟩ := named
        rw [selected_eq_ok_iff.mpr ⟨pid, writes, rfl⟩] at missing
        cases missing
      · obtain ⟨reason, refused, -⟩ := selected_refuses (not_exists.mp named)
        rw [refused] at missing
        cases missing
    case invalid =>
      intro _ same no
      cases same
      exact selected_refuses fun pid => no pid.number pid.positive pid.bounded
    case noText =>
      intro _ same noText mode chosen
      cases same
      obtain ⟨pid, writes, -⟩ := selected_eq_ok_iff.mp chosen
      exact not_writes_of_noText noText _ writes

variable {arguments : List Bytes} {options : Options}

theorem mode_of_parse (parsed : parse arguments = .ok options)
    (noPty : occurs 'l' (hoisted arguments) = false)
    (noRedirect : occurs 'L' (hoisted arguments) = false) :
    options.mode = selected (hoisted arguments) (operands arguments).head? := by
  have pty : options.openPty = false := (has_of_parse parsed .openPty).trans noPty
  have redirect : options.redirect = false := (has_of_parse parsed .redirect).trans noRedirect
  have steal : options.steal = occurs 'T' (hoisted arguments) := has_of_parse parsed .steal
  have force : options.forceStdio = occurs 's' (hoisted arguments) :=
    has_of_parse parsed .forceStdio
  rw [Options.mode, pty, redirect, operands_of_parse parsed, steal, force]
  cases operands arguments with
  | nil => rfl
  | cons operand others =>
    simp only [Bool.or_self, Bool.false_eq_true, if_false, List.head?_cons, selected]
    cases readPid (Text.lossy operand) <;> rfl

/-- A command line that asks for no pty selects a mode by its first operand, and neither what
else stands among its operands nor what bytes show as changes that. -/
theorem mode_selected_by_first_operand (parsed : parse arguments = .ok options)
    (noPty : occurs 'l' (hoisted arguments) = false)
    (noRedirect : occurs 'L' (hoisted arguments) = false) :
    Selection (hoisted arguments) (operands arguments).head? options.mode ∧
    ∀ other others, parse other = .ok others → hoisted other = hoisted arguments →
      (operands other).head? = (operands arguments).head? → others.mode = options.mode := by
  have chosen := mode_of_parse parsed noPty noRedirect
  constructor
  · rw [chosen]
    exact selection_selected _ _
  · intro other others read sameFlags sameFirst
    rw [chosen, mode_of_parse read (by rw [sameFlags, noPty]) (by rw [sameFlags, noRedirect]),
      sameFlags, sameFirst]

/-- `-s 007 x`: the process is 7, and its streams are forced. -/
def forcedLine : List Bytes :=
  [[0x72], [0x2d, 0x73], [0x30, 0x30, 0x37], [0x78]]

theorem forcedLine_parsed :
    parse forcedLine = .ok ⟨false, false, true, false, false, [[0x30, 0x30, 0x37], [0x78]]⟩ := by
  rfl

theorem forcedLine_selects :
    occurs 'l' (hoisted forcedLine) = false ∧ occurs 'L' (hoisted forcedLine) = false ∧
    Selection [[0x2d, 0x73]] (some [0x30, 0x30, 0x37])
      (.ok (.attach ⟨7, by decide, by decide⟩ true)) ∧
    ∀ other others, parse other = .ok others → hoisted other = [[0x2d, 0x73]] →
      (operands other).head? = some [0x30, 0x30, 0x37] →
        others.mode = .ok (.attach ⟨7, by decide, by decide⟩ true) :=
  ⟨rfl, rfl, mode_selected_by_first_operand forcedLine_parsed rfl rfl⟩

end TerminalRelay.CommandLine
