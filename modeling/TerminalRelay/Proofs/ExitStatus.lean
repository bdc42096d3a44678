import TerminalRelay.Proofs.CommandLine.ModeSelection
import TerminalRelay.Proofs.Patience
import TerminalRelay.Proofs.Takeover.Opening

/-! The exit status of the program on a host without a takeover engine. It is zero for an answer
to a question about the program and for a pty that was opened as asked, and one for everything
else: a takeover always ends with it. -/

namespace TerminalRelay
open CommandLine

def Event.fault? : Event → Option Fault
  | ⟨.log (.failed fault), _⟩ => some fault
  | _ => none

def reported (events : List Event) : List Fault :=
  events.filterMap Event.fault?

def Hinted (events : List Event) : Prop :=
  ∃ scope, ⟨.log (.explained scope), ()⟩ ∈ events

/-- A takeover that was refused, with its reason, and left the terminal alone. -/
structure TakeoverRefused (mode : Mode) (events : List Event) : Prop where
  reason : ∃ fault, Refusal events mode fault ∧ reported events = [fault]
  hinted_iff : Hinted events ↔ ProbeDenied events
  cooked : ∀ event ∈ events, event.request.concern ≠ .attributes

/-- How a run ends on these arguments, by its events. -/
structure ExitStatus (arguments : List Bytes) (events : List Event) (code : UInt8) : Prop where
  binary : code = 0 ∨ code = 1
  zero_iff : code = 0 ↔ parse arguments = .error .help ∨ parse arguments = .error .version ∨
    ∃ options, parse arguments = .ok options ∧
      (occurs 'l' (hoisted arguments) = true ∨ occurs 'L' (hoisted arguments) = true) ∧
      PtyOpened (operands arguments) events
  takeover : ∀ options mode, parse arguments = .ok options → options.mode = .ok mode →
    mode.TakesOver → code = 1 ∧ TakeoverRefused mode events
  unread : ∀ rejection, parse arguments = .error rejection → rejection.isFailure = true →
    code = 1 ∧ events = [⟨.complain rejection.text, ()⟩]
  unselected : ∀ options fault, parse arguments = .ok options → options.mode = .error fault →
    code = 1 ∧ events =
      [⟨.startLog (.shownBy options.verbose), ()⟩, ⟨.log (.modeRefused fault), ()⟩] ++
        if operands arguments = [] then [⟨.complain (usage ++ "\n"), ()⟩] else []

/-! The mode, by the letters of the flags. -/

namespace CommandLine
variable {options : Options}

theorem Options.opens_of_create {redirect : Bool} {command : List Bytes}
    (selects : options.mode = .ok (.create redirect command)) :
    (options.openPty || options.redirect) = true ∧ command = options.operands := by
  unfold Options.mode at selects
  split at selects
  · next opens =>
    cases selects
    exact ⟨opens, rfl⟩
  · split at selects
    · cases selects
    · split at selects
      · cases selects
      · exfalso
        revert selects
        split <;> exact nofun

theorem Options.usage_iff {fault : Fault} (refused : options.mode = .error fault) :
    (∃ text, fault = .usage text) ↔ options.operands = [] := by
  unfold Options.mode at refused
  split at refused
  · cases refused
  · split at refused
    · next missing =>
      cases refused
      exact ⟨fun _ => missing, fun _ => ⟨_, rfl⟩⟩
    · next argument others given =>
      rw [given]
      unfold readPid at refused
      cases named : Pid.parse (Text.lossy argument) with
      | ok pid =>
        rw [named] at refused
        cases refused
      | error reason =>
        rw [named] at refused
        cases refused
        exact ⟨nofun, nofun⟩

theorem opens_iff_of_parse {arguments : List Bytes} (parsed : parse arguments = .ok options) :
    (options.openPty || options.redirect) = true ↔
      occurs 'l' (hoisted arguments) = true ∨ occurs 'L' (hoisted arguments) = true := by
  have pty : options.openPty = occurs 'l' (hoisted arguments) := has_of_parse parsed .openPty
  have redirect : options.redirect = occurs 'L' (hoisted arguments) := has_of_parse parsed .redirect
  rw [pty, redirect, Bool.or_eq_true]

end CommandLine

namespace ExitStatus
variable {arguments : List Bytes} {events : List Event} {code : UInt8} {options : Options}

theorem of_rejection {rejection : Rejection} (parsed : parse arguments = .error rejection)
    (code_eq : code = if rejection.isFailure then 1 else 0)
    (shown : rejection.isFailure = true → events = [⟨.complain rejection.text, ()⟩]) :
    ExitStatus arguments events code := by
  constructor
  case binary =>
    rw [code_eq]
    cases rejection.isFailure
    · exact .inl rfl
    · exact .inr rfl
  case zero_iff =>
    rw [code_eq, parsed]
    cases rejection <;> simp [Rejection.isFailure]
  case unread =>
    rintro _ other fails
    cases parsed.symm.trans other
    exact ⟨by rw [code_eq, if_pos fails], shown fails⟩
  all_goals
    intro _ _ other
    cases parsed.symm.trans other

theorem of_mode_error {fault : Fault} (parsed : parse arguments = .ok options)
    (refused : options.mode = .error fault)
    (told : events =
      [⟨.startLog (.shownBy options.verbose), ()⟩, ⟨.log (.modeRefused fault), ()⟩] ++
        if operands arguments = [] then [⟨.complain (usage ++ "\n"), ()⟩] else []) :
    ExitStatus arguments events 1 := by
  constructor
  case binary => exact .inr rfl
  case zero_iff =>
    refine ⟨fun zero => absurd zero (by decide), ?_⟩
    rintro (other | other | ⟨others, other, opens, -⟩) <;> cases parsed.symm.trans other
    rw [← opens_iff_of_parse parsed] at opens
    rw [Options.mode, if_pos opens] at refused
    cases refused
  case takeover =>
    intro _ _ other selects
    cases parsed.symm.trans other
    cases refused.symm.trans selects
  case unread =>
    intro _ other
    cases parsed.symm.trans other
  case unselected =>
    intro _ _ other again
    cases parsed.symm.trans other
    cases refused.symm.trans again
    exact ⟨rfl, told⟩

theorem of_create {redirect : Bool} {command : List Bytes} (parsed : parse arguments = .ok options)
    (selects : options.mode = .ok (.create redirect command)) (binary : code = 0 ∨ code = 1)
    (zero_iff : code = 0 ↔ PtyOpened command events) : ExitStatus arguments events code := by
  obtain ⟨opens, rfl⟩ := Options.opens_of_create selects
  constructor
  case binary => exact binary
  case zero_iff =>
    rw [zero_iff, operands_of_parse parsed]
    constructor
    · intro opened
      exact .inr (.inr ⟨options, parsed, (opens_iff_of_parse parsed).mp opens, opened⟩)
    · rintro (other | other | ⟨others, -, -, opened⟩)
      · cases parsed.symm.trans other
      · cases parsed.symm.trans other
      · exact opened
  case takeover =>
    intro _ _ other again takes
    cases parsed.symm.trans other
    cases selects.symm.trans again
    exact takes.elim
  case unread =>
    intro _ other
    cases parsed.symm.trans other
  case unselected =>
    intro _ _ other again
    cases parsed.symm.trans other
    cases selects.symm.trans again

theorem of_takeover {mode : Mode} (parsed : parse arguments = .ok options)
    (selects : options.mode = .ok mode) (takes : mode.TakesOver)
    (refused : TakeoverRefused mode events) : ExitStatus arguments events 1 := by
  constructor
  case binary => exact .inr rfl
  case zero_iff =>
    refine ⟨fun zero => absurd zero (by decide), ?_⟩
    rintro (other | other | ⟨others, other, opens, -⟩) <;> cases parsed.symm.trans other
    rw [← opens_iff_of_parse parsed] at opens
    rw [Options.mode, if_pos opens] at selects
    cases selects
    exact takes.elim
  case takeover =>
    intro _ _ other again _
    cases parsed.symm.trans other
    cases selects.symm.trans again
    exact ⟨rfl, refused⟩
  case unread =>
    intro _ other
    cases parsed.symm.trans other
  case unselected =>
    intro _ _ other again
    cases parsed.symm.trans other
    cases selects.symm.trans again

end ExitStatus

/-! What the parts of a run come to. -/

theorem showRejection_concludes (patience : Nat) (rejection : Rejection) :
    (showRejection patience rejection).Concludes fun events code =>
      code = (if rejection.isFailure then 1 else 0) ∧
        (rejection.isFailure = true → events = [⟨.complain rejection.text, ()⟩]) := by
  unfold showRejection
  cases rejection.isFailure with
  | true => exact fun _ => ⟨rfl, fun _ => rfl⟩
  | false =>
    apply (Program.Concludes.any (printPiece patience (Text.encode rejection.text))).bind
    exact fun _ _ _ _ => ⟨rfl, nofun⟩

theorem refuseMode_concludes {options : Options} {fault : Fault}
    (refused : options.mode = .error fault) :
    (refuseMode fault).Concludes fun events code => code = 1 ∧
      events = ⟨.log (.modeRefused fault), ()⟩ ::
        if options.operands = [] then [⟨.complain (usage ++ "\n"), ()⟩] else [] := by
  have usageIf := Options.usage_iff refused
  intro _
  cases fault with
  | usage text =>
    rw [if_pos (usageIf.mp ⟨text, rfl⟩)]
    exact fun _ => ⟨rfl, rfl⟩
  | _ =>
    rw [if_neg fun missing => nomatch usageIf.mpr missing]
    exact ⟨rfl, rfl⟩

/-- What the operator is told of a fault: a hint comes with it just if permission was denied. -/
inductive Telling (fault : Fault) : List Event → Prop
  | plain (other : ¬ fault.Denied) : Telling fault [⟨.log (.failed fault), ()⟩]
  | hinted (denied : fault.Denied) (contents : Except IoFailure Bytes) (scope : Option Nat) :
      Telling fault [⟨.log (.failed fault), ()⟩, ⟨.readFile PtraceScope.path, contents⟩,
        ⟨.log (.explained scope), ()⟩]

theorem reportFailure_concludes (fault : Fault) :
    (reportFailure .system fault).Concludes fun events _ => Telling fault events := by
  intro _
  by_cases denied : fault.isPermissionDenied = true
  · simp only [denied, if_true]
    rw [Fault.isPermissionDenied_iff] at denied
    intro contents
    cases contents <;> exact fun _ => .hinted denied _ _
  · simp only [denied]
    rw [Fault.isPermissionDenied_iff] at denied
    exact .plain denied

theorem runMode_concludes_create (allowance : Allowance) (redirect : Bool) (command : List Bytes) :
    (runMode allowance .system (.create redirect command)).Concludes fun events code =>
      code = 0 ∧ PtyOpened command events ∨
        code = 1 ∧ ∀ whole, WithinSaveLog whole events → ¬ PtyOpened command whole := by
  apply (executeCreate_concludes allowance redirect command).bind
  intro events outcome concludes
  cases outcome with
  | ok completion =>
    obtain ⟨opened, other⟩ := concludes
    cases completion with
    | relayed ending => exact absurd rfl (other ending)
    | _ => exact .inl ⟨rfl, (List.append_nil events).symm ▸ opened⟩
  | error fault =>
    obtain ⟨undenied, unopened⟩ := concludes
    apply (reportFailure_concludes fault).bind
    intro telling _ told
    cases told with
    | hinted denied => exact absurd denied undenied
    | plain =>
      refine .inr ⟨rfl, fun whole within => unopened whole fun event member other => ?_⟩
      have somewhere := within event member other
      simp only [List.append_nil, List.mem_append, List.mem_singleton] at somewhere
      obtain inside | rfl := somewhere
      · exact inside
      · cases other

theorem reported_eq_nil {concerns : List Concern} {events : List Event}
    (business : ∀ event ∈ events, concerns.contains event.request.concern = true)
    (apart : concerns.contains .report = false) : reported events = [] := by
  refine List.filterMap_eq_nil_iff.mpr fun event member => ?_
  unfold Event.fault?
  split
  · exact absurd member (not_mem_of_concern business apart)
  · rfl

theorem TakeoverRefused.of_refusal {mode : Mode} {fault : Fault} {events telling : List Event}
    (refusal : Refusal events mode fault)
    (business : ∀ event ∈ events, Concern.takeoverOnly.contains event.request.concern = true)
    (told : Telling fault telling) (level : Level) :
    TakeoverRefused mode (⟨.startLog level, ()⟩ :: (events ++ telling)) := by
  have reason : Refusal ([⟨.startLog level, ()⟩] ++ (events ++ telling)) mode fault :=
    refusal.surrounded rfl (by cases told <;> rfl)
  have silent : reported (⟨.startLog level, ()⟩ :: (events ++ telling)) = reported telling := by
    change reported (events ++ telling) = _
    rw [reported, List.filterMap_append]
    exact congrArg (· ++ reported telling) (reported_eq_nil business rfl)
  have unhinted (scope : Option Nat) : ⟨.log (.explained scope), ()⟩ ∉ events :=
    not_mem_of_concern business rfl
  have cooked : ∀ event ∈ events, event.request.concern ≠ .attributes := fun event member same =>
    not_mem_of_concern business (same ▸ rfl) member
  constructor
  case reason =>
    refine ⟨fault, reason, silent.trans ?_⟩
    cases told <;> rfl
  case hinted_iff =>
    rw [← List.singleton_append, ← reason.denied_iff, Hinted]
    cases told with
    | plain other => simp [unhinted, other]
    | hinted denied contents scope => simp [unhinted, denied]
  case cooked =>
    simp only [List.forall_mem_cons, List.forall_mem_append]
    refine ⟨nofun, cooked, ?_⟩
    cases told <;> simp [Request.concern]

theorem runMode_concludes_takeover (allowance : Allowance) {mode : Mode} (takes : mode.TakesOver) :
    (runMode allowance .system mode).Concludes fun events code =>
      code = 1 ∧ ∀ level, TakeoverRefused mode (⟨.startLog level, ()⟩ :: events) := by
  apply (executeTakeover_concludes allowance takes).bind
  rintro events _ ⟨⟨fault, rfl, refusal⟩, business⟩
  apply (reportFailure_concludes fault).bind
  rintro telling _ told
  refine ⟨rfl, fun level => ?_⟩
  rw [List.append_nil]
  exact .of_refusal refusal business told level

theorem invoke_concludes (allowance : Allowance) (arguments : List Bytes) :
    (invoke allowance .system arguments).Concludes (ExitStatus arguments) := by
  unfold invoke
  cases parsed : parse arguments with
  | error rejection =>
    apply (showRejection_concludes allowance.patience rejection).mono
    rintro events code ⟨code_eq, shown⟩
    exact .of_rejection parsed code_eq shown
  | ok options =>
    intro _
    cases selects : options.mode with
    | error fault =>
      apply (refuseMode_concludes selects).mono
      rintro events _ ⟨rfl, rfl⟩
      rw [operands_of_parse parsed]
      exact .of_mode_error parsed selects rfl
    | ok mode =>
      obtain takes | ⟨redirect, command, rfl⟩ := mode.takesOver_or_create
      · apply (runMode_concludes_takeover allowance takes).mono
        rintro events _ ⟨rfl, refused⟩
        exact .of_takeover parsed selects takes (refused _)
      · apply (runMode_concludes_create allowance redirect command).mono
        rintro events code (⟨rfl, opened⟩ | ⟨rfl, unopened⟩)
        · exact .of_create parsed selects (.inl rfl) ⟨fun _ => opened.cons rfl, fun _ => rfl⟩
        · refine .of_create parsed selects (.inr rfl) ⟨fun zero => absurd zero (by decide), ?_⟩
          refine fun opened => absurd opened (unopened _ fun event member other => ?_)
          cases member with
          | head => cases other
          | tail _ inside => exact inside

/-- Whatever the arguments and whatever the host answers, a run comes to its end, with status zero
for help, for the version and for a pty that was opened as asked, and with one for the rest. -/
theorem run_ends_with_exit_status {allowance : Allowance} {longest left : Nat}
    (arguments : List Bytes) (enough : max longest 1024 + left ≤ allowance.patience) :
    (World.sporadic longest).Brings left (invoke allowance .system arguments)
      fun events _ code => ExitStatus arguments events code := by
  apply (World.sporadic.invoke_ends arguments enough).withRun.mono
  rintro events after code ⟨-, run⟩
  exact (invoke_concludes allowance arguments).run run

def attachLine : List Bytes :=
  [[0x72], [0x2d, 0x73], [0x34, 0x32]]

theorem attachLine_refused :
    ∃ events after, (World.sporadic 64).Run 3 (invoke ⟨1, 2048⟩ .system attachLine) events after
      (.done 1) ∧ TakeoverRefused (.attach ⟨42, by decide, by decide⟩ true) events := by
  have enough : max 64 1024 + 3 ≤ (Allowance.mk 1 2048).patience := by decide
  obtain ⟨events, after, code, run, status⟩ :=
    (run_ends_with_exit_status attachLine enough).finishes
  obtain ⟨rfl, refused⟩ := status.takeover ⟨false, false, true, false, false, [[0x34, 0x32]]⟩
    (.attach ⟨42, by decide, by decide⟩ true) rfl rfl trivial
  exact ⟨events, after, run, refused⟩

end TerminalRelay
