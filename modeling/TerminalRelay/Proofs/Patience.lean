import TerminalRelay.Invocation
import TerminalRelay.Proofs.Allowances
import TerminalRelay.Proofs.Concerns
import TerminalRelay.Proofs.Faults
import TerminalRelay.Proofs.Outcomes
import TerminalRelay.Proofs.Takeover.Refusals

/-! How much patience a run takes on a host without a takeover engine. Only printing takes any:
each offer gets rid of a byte or is one of the interruptions to come, or else it is the last. So
a run comes to its end if the patience covers what is printed and the interruptions. -/

namespace TerminalRelay

namespace Program.Finishes
variable {State α : Type} {world : World State} {program : Program α}

theorem brings (finishes : program.Finishes)
    (answered : ∀ state request, ∃ answer after, world.answers state request answer after)
    (state : State) : world.Brings state program fun _ _ _ => True := by
  induction program generalizing state with
  | done value => exact trivial
  | unfinished => exact finishes
  | ask request next ih =>
    exact fun opened _ => ⟨answered opened request, fun answer between _ =>
      ih answer (finishes answer) between⟩

end Program.Finishes

/-- A host that may answer anything, save that the names of slaves have at most so many bytes. The
state counts the interruptions of the output that are still to come. -/
def World.sporadic (longest : Nat) : World Nat where
  outside _ _ _ := False
  answers left request answer after :=
    match request, answer with
    | .slaveName _, .ok slave => (Text.encode slave).length ≤ longest ∧ after = left
    | .print _, .error failure =>
      if failure.isInterruption then after + 1 = left else after = left
    | _, _ => after = left

namespace World.sporadic
variable {α : Type} {longest left before after : Nat} {program rest : Program α}
  {events : List Event}

theorem answered (left : Nat) (request : Request) :
    ∃ answer after, (sporadic longest).answers left request answer after := by
  cases request with
  | print => exact ⟨.ok 0, left, rfl⟩
  | takeFlag => exact ⟨false, left, rfl⟩
  | refusesPty => exact ⟨none, left, rfl⟩
  | unwatchResize | explain | complain | startLog | log => exact ⟨(), left, rfl⟩
  | flush | start | readFile | openSlave | duplicate | watchResize =>
    exact ⟨.error (.ofErrno .notImplemented), left, rfl⟩
  | _ => exact ⟨.error .notImplemented, left, rfl⟩

theorem ask {request : Request} {next : request.Answer → Program α}
    {outcome : List Event → Nat → α → Prop}
    (each : ∀ answer after, (sporadic longest).answers left request answer after →
      (sporadic longest).Brings after (next answer) fun events final value =>
        outcome (⟨request, answer⟩ :: events) final value) :
    (sporadic longest).Brings left (.ask request next) outcome :=
  World.Brings.ask id (answered left request) each

theorem step_keeps {request : Request} {answer : request.Answer}
    (answers : (sporadic longest).answers before request answer after) : after ≤ before := by
  unfold sporadic at answers
  simp only at answers
  split at answers
  · exact Nat.le_of_eq answers.2
  · split at answers
    · omega
    · exact Nat.le_of_eq answers
  · exact Nat.le_of_eq answers

theorem run_keeps (run : (sporadic longest).Run before program events after rest) :
    after ≤ before ∧
      ∀ master slave, ⟨.slaveName master, .ok slave⟩ ∈ events →
        (Text.encode slave).length ≤ longest := by
  induction run with
  | here => exact ⟨Nat.le_refl _, fun _ _ member => absurd member List.not_mem_nil⟩
  | outside happens => exact happens.elim
  | answered answer answers _ ih =>
    refine ⟨Nat.le_trans ih.1 (step_keeps answers), fun master slave member => ?_⟩
    cases member with
    | head => exact answers.1
    | tail _ later => exact ih.2 master slave later

theorem printPiece_ends {patience : Nat} {text : Bytes} (enough : text.length + left ≤ patience) :
    (sporadic longest).Brings left (printPiece patience text) fun _ after _ => after ≤ left := by
  induction patience generalizing text left with
  | zero =>
    obtain rfl : text = [] := List.length_eq_zero_iff.mp (by omega)
    exact Nat.le_refl _
  | succ patience ih =>
    cases text with
    | nil => exact Nat.le_refl _
    | cons first others =>
      apply ask
      intro answer after answers
      match answer with
      | .ok 0 =>
        obtain rfl : after = left := answers
        exact Nat.le_refl _
      | .ok (taken + 1) =>
        obtain rfl : after = left := answers
        refine ih ?_
        simp only [List.length_drop, List.length_cons] at enough ⊢
        omega
      | .error failure =>
        change (sporadic longest).Brings after (if failure.isInterruption then
          printPiece patience (first :: others) else _) _
        change if failure.isInterruption then after + 1 = left else after = left at answers
        split at answers
        · next interrupted =>
          -- nothing was printed, but there is an interruption less to come
          rw [if_pos interrupted]
          have again : (first :: others).length + after ≤ patience := by omega
          exact (ih again).mono fun _ final _ fewer => by omega
        · next other =>
          rw [if_neg other]
          exact Nat.le_of_eq answers

theorem printPieces_ends {patience : Nat} {pieces : List String}
    (enough : ∀ piece ∈ pieces, (Text.encode piece).length + left ≤ patience) :
    (sporadic longest).Brings left (printPieces patience pieces) fun _ _ _ => True := by
  induction pieces generalizing left with
  | nil => exact trivial
  | cons piece pieces ih =>
    obtain ⟨first, others⟩ := List.forall_mem_cons.mp enough
    rw [printPieces]
    apply (printPiece_ends first).bind
    intro events between result fewer
    cases result with
    | error failure => exact trivial
    | ok _ =>
      refine ih fun other member => ?_
      have covered := others other member
      omega

theorem announce_ends {patience : Nat} {slave : String}
    (enough : max (Text.encode slave).length 18 + left ≤ patience) :
    (sporadic longest).Brings left (announce patience slave) fun _ _ _ => True := by
  have opening : (Text.encode "Opened a new pty: ").length = 18 := by decide +kernel
  have ending : (Text.encode "\n").length = 1 := by decide +kernel
  rw [announce]
  apply (printPieces_ends fun piece member => ?_).bind
  · intro events between result _
    cases result with
    | error failure => exact trivial
    | ok _ => exact ask fun _ _ _ => trivial
  · simp only [List.mem_cons, List.not_mem_nil, or_false] at member
    rcases member with rfl | rfl | rfl <;> omega

end World.sporadic

/-! What takes no patience: none of this has a loop. -/

theorem allocate_finishes : Pty.allocate.Finishes := by
  intro opened
  cases opened with
  | error e => exact trivial
  | ok master =>
    intro granted
    cases granted with
    | error e => exact trivial
    | ok _ =>
      intro unlocked
      cases unlocked with
      | error e => exact trivial
      | ok _ =>
        intro named
        cases named with
        | error e => exact trivial
        | ok slave =>
          intro closed
          cases closed with
          | error e => exact trivial
          | ok _ => exact fun _ => trivial

theorem openStreams_finishes (slave : String) : (openStreams slave).Finishes := by
  intro forReading
  cases forReading with
  | error failure => exact trivial
  | ok reader =>
    intro forWriting
    cases forWriting with
    | error failure => exact trivial
    | ok writer =>
      intro duplicated
      cases duplicated with
      | error failure => exact trivial
      | ok copy => exact trivial

theorem streamsFor_finishes (slave : String) (redirect : Bool) :
    (streamsFor slave redirect).Finishes := by
  cases redirect with
  | false => exact trivial
  | true =>
    apply (openStreams_finishes slave).bind (.any _)
    intro _ opened _
    cases opened with
    | error failure => exact trivial
    | ok streams => exact trivial

theorem spawn_finishes (slave : String) (redirect : Bool) (command : List Bytes) :
    (spawn slave redirect command).Finishes := by
  cases command with
  | nil => exact trivial
  | cons program arguments =>
    apply (streamsFor_finishes slave redirect).bind (.any _)
    intro _ streams _
    cases streams with
    | error failure => exact trivial
    | ok _ =>
      intro started
      cases started with
      | error failure => exact trivial
      | ok child => exact fun _ => trivial

theorem attach_finishes (pid : Pid) (slave : String) (forceStdio : Bool) :
    (Backend.system.attach pid slave forceStdio).Finishes := by
  intro probed
  cases probed with
  | error e => exact trivial
  | ok _ => exact fun _ => trivial

theorem steal_finishes (pid : Pid) : (Backend.system.steal pid).Finishes := by
  intro probed
  cases probed with
  | error e => exact trivial
  | ok _ => exact trivial

theorem explain_finishes : Backend.system.explain.Finishes := by
  intro contents
  cases contents with
  | error failure => exact fun _ => trivial
  | ok level => exact fun _ => trivial

theorem reportFailure_finishes (fault : Fault) : (reportFailure .system fault).Finishes := by
  intro _
  change (if fault.isPermissionDenied then Backend.system.explain else .done ()).Finishes
  cases fault.isPermissionDenied with
  | false => exact trivial
  | true => exact explain_finishes

theorem refuseMode_finishes (fault : Fault) : (refuseMode fault).Finishes := by
  intro _
  cases fault with
  | usage => exact fun _ => trivial
  | _ => exact trivial

theorem runMode_finishes (allowance : Allowance) {mode : Mode} (takes : mode.TakesOver) :
    (runMode allowance .system mode).Finishes := by
  have reports (fault : Fault) : (reportFailure .system fault >>= fun _ =>
      (.done fault.exitCode : Program UInt8)).Finishes :=
    (reportFailure_finishes fault).bind (.any _) fun _ _ _ => trivial
  have executes : (execute allowance .system mode).Finishes := by
    cases mode with
    | create redirect command => exact takes.elim
    | attach pid forceStdio =>
      apply allocate_finishes.bind (.any _)
      rintro _ (fault | pty) -
      · exact trivial
      · have told := attach_concludes pid pty.slave forceStdio
        intro _
        apply (attach_finishes pid pty.slave forceStdio).bind told
        rintro _ _ ⟨answer, -, rfl⟩
        exact trivial
    | steal pid =>
      intro _
      apply (steal_finishes pid).bind (steal_concludes pid)
      rintro _ _ ⟨answer, -, rfl⟩
      exact trivial
  apply executes.bind (executeTakeover_concludes allowance takes)
  rintro _ _ ⟨⟨fault, rfl, -⟩, -⟩
  exact reports fault

namespace World.sporadic
variable {longest left : Nat}

theorem executeCreate_ends {allowance : Allowance} (redirect : Bool) (command : List Bytes)
    (enough : max longest 18 + left ≤ allowance.patience) :
    (sporadic longest).Brings left (execute allowance .system (.create redirect command))
      fun _ _ outcome => ∀ ending, outcome ≠ .ok (.relayed ending) := by
  apply (allocate_finishes.brings answered left).withRun.bind
  rintro opening between result ⟨-, run⟩
  cases result with
  | error fault => exact nofun
  | ok pty =>
    obtain ⟨fewer, bounded⟩ := run_keeps run
    have short : (Text.encode pty.slave).length ≤ longest := by
      cases allocate_concludes.run run with
      | made master slave => exact bounded master slave (by simp)
    have covered : max (Text.encode pty.slave).length 18 + between ≤ allowance.patience := by omega
    apply (announce_ends covered).bind
    rintro _ between (failure | _) -
    · exact nofun
    · cases command with
      | nil => exact nofun
      | cons program arguments =>
        apply ((spawn_finishes pty.slave redirect (program :: arguments)).brings answered _).bind
        rintro _ after (fault | child) - <;> exact nofun

theorem showRejection_ends {patience : Nat} (rejection : CommandLine.Rejection)
    (enough : 1024 + left ≤ patience) :
    (sporadic longest).Brings left (showRejection patience rejection) fun _ _ _ => True := by
  unfold showRejection
  split
  · exact ask fun _ _ _ => trivial
  · next answers =>
    have short : (Text.encode rejection.text).length ≤ 1024 := by
      cases rejection with
      | help | version => decide +kernel
      | _ => exact absurd rfl answers
    have covered : (Text.encode rejection.text).length + left ≤ patience := by omega
    apply (printPiece_ends covered).bind
    exact fun _ _ _ _ => ask fun _ _ _ => trivial

/-- A run comes to its end if the patience covers the name of the slave, the texts about the
program, and the interruptions. -/
theorem invoke_ends {allowance : Allowance} (arguments : List Bytes)
    (enough : max longest 1024 + left ≤ allowance.patience) :
    (sporadic longest).Brings left (invoke allowance .system arguments) fun _ _ _ => True := by
  unfold invoke
  cases parsed : CommandLine.parse arguments with
  | error rejection =>
    have covered : 1024 + left ≤ allowance.patience := by omega
    exact showRejection_ends rejection covered
  | ok options =>
    apply ask
    intro _ after started
    obtain rfl : after = left := started
    cases selects : options.mode with
    | error fault => exact (refuseMode_finishes fault).brings answered after
    | ok mode =>
      obtain takes | ⟨redirect, command, rfl⟩ := mode.takesOver_or_create
      · exact (runMode_finishes allowance takes).brings answered after
      · have covered : max longest 18 + after ≤ allowance.patience := by omega
        apply (executeCreate_ends redirect command covered).bind
        rintro _ between (fault | completion) other
        · apply ((reportFailure_finishes fault).brings answered between).bind
          exact fun _ _ _ _ => trivial
        · cases completion with
          | relayed ending => exact absurd rfl (other ending)
          | _ => exact trivial

end World.sporadic
end TerminalRelay
