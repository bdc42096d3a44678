import TerminalRelay.Proofs.Runs
import TerminalRelay.Takeover.Execution

/-! Which faults the parts of a run can end with. Each part has faults of its own, so a fault
says which part failed. -/

namespace TerminalRelay

namespace Fault

/-- The faults with which a new pty is refused. -/
def OfSetup : Fault → Prop
  | openMaster _ | unlockPty _ | grantPty _ | slaveName _ | closeOnExec _ | io _ => True
  | _ => False

def OfSession : Fault → Prop
  | rawMode _ | restoreTerminal _ => True
  | _ => False

def Denied (fault : Fault) : Prop :=
  ∃ pid, fault = attach pid .notPermitted ∨ fault = steal pid .notPermitted

theorem isPermissionDenied_iff {fault : Fault} :
    fault.isPermissionDenied = true ↔ fault.Denied := by
  cases fault <;> simp [isPermissionDenied, Denied]

theorem not_denied {fault : Fault} (other : fault.isPermissionDenied = false) : ¬ fault.Denied := by
  rw [← isPermissionDenied_iff, other]
  exact Bool.false_ne_true

end Fault

/-- A result that is no fault, or a fault of this kind. -/
def Blames {α : Type} (kind : Fault → Prop) (result : Except Fault α) : Prop :=
  ∀ fault, result = .error fault → kind fault

theorem Blames.ok {α : Type} {kind : Fault → Prop} (value : α) : Blames kind (.ok value) :=
  nofun

theorem Blames.error {α : Type} {kind : Fault → Prop} {fault : Fault} (holds : kind fault) :
    Blames (α := α) kind (.error fault) := by
  rintro _ same
  cases same
  exact holds

/-- What making a pty comes to, by the answers that it gets. -/
inductive Allocation : List Event → Except Fault Pty → Prop
  | unopened (e : Errno) : Allocation [⟨.openMaster, .error e⟩] (.error (.openMaster e))
  | ungranted (master : Descriptor) (e : Errno) :
      Allocation [⟨.openMaster, .ok master⟩, ⟨.grantSlave master, .error e⟩]
        (.error (.grantPty e))
  | locked (master : Descriptor) (e : Errno) :
      Allocation [⟨.openMaster, .ok master⟩, ⟨.grantSlave master, .ok ()⟩,
        ⟨.unlockSlave master, .error e⟩] (.error (.unlockPty e))
  | unnamed (master : Descriptor) (e : Errno) :
      Allocation [⟨.openMaster, .ok master⟩, ⟨.grantSlave master, .ok ()⟩,
        ⟨.unlockSlave master, .ok ()⟩, ⟨.slaveName master, .error e⟩] (.error (.slaveName e))
  | inherited (master : Descriptor) (slave : String) (e : Errno) :
      Allocation [⟨.openMaster, .ok master⟩, ⟨.grantSlave master, .ok ()⟩,
        ⟨.unlockSlave master, .ok ()⟩, ⟨.slaveName master, .ok slave⟩,
        ⟨.closeOnExec master, .error e⟩] (.error (.closeOnExec e))
  | made (master : Descriptor) (slave : String) :
      Allocation [⟨.openMaster, .ok master⟩, ⟨.grantSlave master, .ok ()⟩,
        ⟨.unlockSlave master, .ok ()⟩, ⟨.slaveName master, .ok slave⟩,
        ⟨.closeOnExec master, .ok ()⟩, ⟨.log (.allocated slave), ()⟩] (.ok ⟨master, slave⟩)

theorem allocate_concludes : Pty.allocate.Concludes Allocation := by
  intro opened
  cases opened with
  | error e => exact .unopened e
  | ok master =>
    intro granted
    cases granted with
    | error e => exact .ungranted master e
    | ok _ =>
      intro unlocked
      cases unlocked with
      | error e => exact .locked master e
      | ok _ =>
        intro named
        cases named with
        | error e => exact .unnamed master e
        | ok slave =>
          intro closed
          cases closed with
          | error e => exact .inherited master slave e
          | ok _ => exact fun _ => .made master slave

theorem allocate_blames : Pty.allocate.Concludes fun _ => Blames Fault.OfSetup := by
  apply allocate_concludes.mono
  rintro events _ allocation fault rfl
  cases allocation <;> exact trivial

theorem spawn_blames (slave : String) (redirect : Bool) (program : Bytes)
    (arguments : List Bytes) :
    (spawn slave redirect (program :: arguments)).Concludes
      fun _ => Blames fun fault => ∃ failure, fault = .spawn (Text.display program) failure := by
  apply (Program.Concludes.any (streamsFor slave redirect)).bind
  intro _ streams _
  cases streams with
  | error failure => exact .error ⟨failure, rfl⟩
  | ok _ =>
    intro started
    cases started with
    | error failure => exact .error ⟨failure, rfl⟩
    | ok child => exact fun _ => .ok child

theorem acquire_blames (device : Descriptor) :
    (RawMode.acquire device).Concludes fun _ => Blames fun fault => ∃ e, fault = .rawMode e := by
  intro found
  cases found with
  | error e => exact fun _ => .ok _
  | ok _ =>
    intro entered
    cases entered with
    | error e => exact .error ⟨e, rfl⟩
    | ok _ => exact .ok _

theorem restore_blames (device : Descriptor) (saved : Attributes) (patience : Nat) :
    (restore device saved patience).Concludes
      fun _ => Blames fun fault => ∃ e, fault = .restoreTerminal e := by
  induction patience with
  | zero => exact trivial
  | succ patience ih =>
    intro answer
    cases answer with
    | ok _ => exact .ok ()
    | error e =>
      change Program.Concludes (if e = .interrupted then _ else _) _
      split
      · exact ih
      · exact .error ⟨e, rfl⟩

theorem release_blames (patience : Nat) (held : RawMode) :
    (held.release patience).Concludes
      fun _ => Blames fun fault => ∃ e, fault = .restoreTerminal e := by
  obtain ⟨device, _ | saved⟩ := held
  · rw [RawMode.release_cooked]
    exact .ok ()
  · rw [RawMode.release_raw]
    exact restore_blames device saved patience

theorem runHeld_blames (allowance : Allowance) (target : Descriptor) (held : RawMode) :
    (runHeld allowance target held).Concludes
      fun _ => Blames fun fault => ∃ e, fault = .restoreTerminal e := by
  intro _
  apply (Program.Concludes.any (relaySession allowance target)).bind
  intro _ ending _
  apply (release_blames allowance.patience held).bind
  intro _ released blames
  cases released with
  | error fault => exact .error (blames fault rfl)
  | ok _ => exact fun _ => .ok ending

theorem runSession_blames (allowance : Allowance) (target : Descriptor) :
    (runSession allowance target).Concludes fun _ => Blames Fault.OfSession := by
  apply (acquire_blames .terminal).bind
  intro _ acquired blames
  cases acquired with
  | error fault =>
    obtain ⟨e, rfl⟩ := blames fault rfl
    exact .error trivial
  | ok held =>
    apply (runHeld_blames allowance target held).mono
    rintro _ _ blames fault rfl
    obtain ⟨e, rfl⟩ := blames fault rfl
    exact trivial

end TerminalRelay
