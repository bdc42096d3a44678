import TerminalRelay.Proofs.Relay.Stages
import TerminalRelay.Takeover.Execution

/-! What the parts of the program are concerned with. A part asks the host only for what is its
business, however it is answered, so whatever else there is on the host stays as it was. -/

namespace TerminalRelay

/-- What a request is about. -/
inductive Concern where
  | attributes
  | size
  | signals
  | flag
  | waiting
  | data
  | pty
  | child
  | takeover
  | output
  | log
  | report
  deriving DecidableEq

def Request.concern : Request → Concern
  | .readAttributes _ | .writeAttributes _ _ => .attributes
  | .readSize _ | .writeSize _ _ => .size
  | .block _ | .setMask _ | .watchResize | .unwatchResize _ => .signals
  | .takeFlag _ => .flag
  | .wait _ _ _ => .waiting
  | .read _ _ | .write _ _ => .data
  | .openMaster | .grantSlave _ | .unlockSlave _ | .slaveName _ | .closeOnExec _ => .pty
  | .openSlave _ _ | .duplicate _ | .start _ => .child
  | .probe _ | .readFile _ | .refusesPty | .attach _ _ _ | .steal _ | .explain => .takeover
  | .print _ | .flush | .complain _ => .output
  | .log (.failed _) | .log (.explained _) => .report
  | .startLog _ | .log _ => .log

/-- A program that asks for nothing that is about anything else. -/
def Program.Asks {α : Type} (concerns : List Concern) (program : Program α) : Prop :=
  program.Avoids fun request => concerns.contains request.concern = false

namespace Program.Asks
variable {α β : Type} {concerns : List Concern} {program : Program α}

theorem bind {next : α → Program β} (first : program.Asks concerns)
    (rest : ∀ value, (next value).Asks concerns) : (program >>= next).Asks concerns :=
  Avoids.bind first rest

theorem avoids {avoided : Request → Prop} (asks : program.Asks concerns)
    (apart : ∀ request, avoided request → concerns.contains request.concern = false) :
    program.Avoids avoided :=
  Avoids.mono asks apart

theorem mono {more : List Concern} (asks : program.Asks concerns)
    (included : ∀ concern ∈ concerns, more.contains concern = true) : program.Asks more := by
  refine asks.avoids fun request outside => ?_
  cases inside : concerns.contains request.concern with
  | false => rfl
  | true =>
    rw [included request.concern (List.contains_iff_mem.mp inside)] at outside
    cases outside

theorem run {State : Type} {world : World State} {rest : Program α} {before after : State}
    {events : List Event} (asks : program.Asks concerns)
    (run : world.Run before program events after rest) :
    ∀ event ∈ events, concerns.contains event.request.concern = true := by
  intro event member
  have inside := Avoids.run asks run event member
  simpa using inside

theorem concludes (asks : program.Asks concerns) :
    program.Concludes fun events _ =>
      ∀ event ∈ events, concerns.contains event.request.concern = true := by
  apply (Avoids.concludes asks).mono
  intro events value inside event member
  simpa using inside event member

end Program.Asks

theorem not_mem_of_concern {concerns : List Concern} {events : List Event} {event : Event}
    (business : ∀ event ∈ events, concerns.contains event.request.concern = true)
    (apart : concerns.contains event.request.concern = false) : event ∉ events := by
  intro member
  have inside := business event member
  rw [apart] at inside
  cases inside

theorem note_asks {concerns : List Concern} {notice : Notice}
    (logs : concerns.contains (Request.log notice).concern = true) :
    (note notice).Asks concerns := by
  refine ⟨fun silent => ?_, fun _ => trivial⟩
  exact Bool.false_ne_true (Eq.trans silent.symm logs)

theorem allocate_asks : Pty.allocate.Asks [.pty, .log] := by
  refine ⟨nofun, fun opened => ?_⟩
  cases opened with
  | error e => exact trivial
  | ok master =>
    refine ⟨nofun, fun granted => ?_⟩
    cases granted with
    | error e => exact trivial
    | ok _ =>
      refine ⟨nofun, fun unlocked => ?_⟩
      cases unlocked with
      | error e => exact trivial
      | ok _ =>
        refine ⟨nofun, fun named => ?_⟩
        cases named with
        | error e => exact trivial
        | ok slave =>
          refine ⟨nofun, fun closed => ?_⟩
          cases closed with
          | error e => exact trivial
          | ok _ => exact ⟨nofun, fun _ => trivial⟩

/-! Printing, and starting a child. -/

theorem printPiece_avoids (patience : Nat) (text : Bytes) :
    (printPiece patience text).Avoids fun request => ∀ piece, request ≠ .print piece := by
  induction patience generalizing text with
  | zero => cases text <;> exact trivial
  | succ patience ih =>
    cases text with
    | nil => exact trivial
    | cons first others =>
      refine ⟨fun other => other _ rfl, fun answer => ?_⟩
      match answer with
      | .ok 0 => exact trivial
      | .ok (taken + 1) => exact ih _
      | .error failure =>
        change Program.Avoids _ (if failure.isInterruption then _ else _)
        split
        · exact ih _
        · exact trivial

theorem printPieces_avoids (patience : Nat) (pieces : List String) :
    (printPieces patience pieces).Avoids fun request => ∀ piece, request ≠ .print piece := by
  induction pieces with
  | nil => exact trivial
  | cons piece pieces ih =>
    apply (printPiece_avoids patience (Text.encode piece)).bind
    intro result
    cases result with
    | error failure => exact trivial
    | ok _ => exact ih

theorem announce_asks (patience : Nat) (slave : String) :
    (announce patience slave).Asks [.output] := by
  have printing : (printPieces patience ["Opened a new pty: ", slave, "\n"]).Asks [.output] := by
    apply (printPieces_avoids patience _).mono
    rintro _ outside piece rfl
    cases outside
  apply printing.bind
  intro result
  cases result with
  | error failure => exact trivial
  | ok _ => exact ⟨nofun, fun _ => trivial⟩

theorem openStreams_asks (slave : String) : (openStreams slave).Asks [.child, .log] := by
  refine ⟨nofun, fun reader => ?_⟩
  cases reader with
  | error failure => exact trivial
  | ok _ =>
    refine ⟨nofun, fun writer => ?_⟩
    cases writer with
    | error failure => exact trivial
    | ok _ =>
      refine ⟨nofun, fun copy => ?_⟩
      cases copy <;> exact trivial

theorem streamsFor_asks (slave : String) (redirect : Bool) :
    (streamsFor slave redirect).Asks [.child, .log] := by
  cases redirect with
  | false => exact trivial
  | true =>
    apply (openStreams_asks slave).bind
    intro streams
    cases streams <;> exact trivial

theorem spawn_asks (slave : String) (redirect : Bool) (command : List Bytes) :
    (spawn slave redirect command).Asks [.child, .log] := by
  cases command with
  | nil => exact trivial
  | cons program arguments =>
    apply (streamsFor_asks slave redirect).bind
    intro streams
    cases streams with
    | error failure => exact trivial
    | ok _ =>
      refine ⟨nofun, fun started => ?_⟩
      cases started with
      | error failure => exact trivial
      | ok child => exact (note_asks rfl).bind fun _ => trivial

/-! The backend without a takeover engine. -/

theorem systemAttach_asks (pid : Pid) (slave : String) (forceStdio : Bool) :
    (Backend.system.attach pid slave forceStdio).Asks [.takeover, .log] := by
  refine ⟨nofun, fun probed => ?_⟩
  cases probed with
  | error e => exact trivial
  | ok _ => exact (note_asks rfl).bind fun _ => trivial

theorem systemSteal_asks (pid : Pid) : (Backend.system.steal pid).Asks [.takeover, .log] := by
  refine ⟨nofun, fun probed => ?_⟩
  cases probed <;> exact trivial

theorem systemExplain_asks : Backend.system.explain.Asks [.takeover, .report] := by
  refine ⟨nofun, fun contents => ?_⟩
  cases contents <;> exact note_asks rfl

/-! The parts of a session. -/

theorem acquire_asks (device : Descriptor) :
    (RawMode.acquire device).Asks [.attributes, .log] := by
  refine ⟨nofun, fun found => ?_⟩
  cases found with
  | error e => exact (note_asks rfl).bind fun _ => trivial
  | ok _ =>
    refine ⟨nofun, fun entered => ?_⟩
    cases entered <;> exact trivial

theorem restore_asks (device : Descriptor) (saved : Attributes) (patience : Nat) :
    (restore device saved patience).Asks [.attributes, .log] := by
  induction patience with
  | zero => exact trivial
  | succ patience ih =>
    refine ⟨nofun, fun answer => ?_⟩
    cases answer with
    | ok _ => exact trivial
    | error e =>
      change Program.Asks _ (if e = .interrupted then _ else _)
      split
      · exact ih
      · exact trivial

theorem release_asks (patience : Nat) (held : RawMode) :
    (held.release patience).Asks [.attributes, .log] := by
  obtain ⟨device, _ | saved⟩ := held
  · rw [RawMode.release_cooked]
    exact trivial
  · rw [RawMode.release_raw]
    exact restore_asks device saved patience

theorem copySize_asks (source target : Descriptor) :
    (copySize source target).Asks [.size, .log] := by
  refine ⟨nofun, fun reported => ?_⟩
  cases reported with
  | ok size =>
    refine ⟨nofun, fun answer => ?_⟩
    cases answer <;> exact note_asks rfl
  | error e =>
    refine ⟨nofun, fun _ => ⟨nofun, fun answer => ?_⟩⟩
    cases answer <;> exact note_asks rfl

theorem relay_asks (patience rounds : Nat) (target : Descriptor) (watcher : ResizeWatcher)
    (buffer : Bytes) :
    (relay patience target watcher rounds buffer).Asks
      [.flag, .size, .waiting, .data, .log, .report] := by
  refine (Stage.relay_follows patience rounds buffer).avoids fun stage request asks => ?_
  cases stage with
  | noting notice next | concluding notice ending =>
    cases asks
    cases notice <;> exact nofun
  | finished ending => cases asks
  | _ =>
    cases asks
    exact nofun

theorem install_asks (source target : Descriptor) :
    (ResizeWatcher.install source target).Asks [.signals, .size, .log] := by
  refine ⟨nofun, fun blocked => ?_⟩
  cases blocked with
  | error e => exact trivial
  | ok previous =>
    refine ⟨nofun, fun watched => ?_⟩
    cases watched with
    | error failure => exact ⟨nofun, fun _ => trivial⟩
    | ok flag =>
      change Program.Asks _ (copySize source target >>= _)
      exact ((copySize_asks source target).mono (by decide)).bind fun _ => trivial

theorem remove_asks (watcher : ResizeWatcher) : watcher.remove.Asks [.signals, .log] := by
  refine ⟨nofun, fun _ => ⟨nofun, fun answer => ?_⟩⟩
  cases answer with
  | ok _ => exact trivial
  | error e => exact note_asks rfl

theorem relaySession_asks (allowance : Allowance) (target : Descriptor) :
    (relaySession allowance target).Asks
      [.signals, .size, .flag, .waiting, .data, .log, .report] := by
  apply ((install_asks .terminal target).mono (by decide)).bind
  intro installed
  cases installed with
  | error fault => exact (note_asks rfl).bind fun _ => trivial
  | ok watcher =>
    apply ((relay_asks _ _ target watcher blankBuffer).mono (by decide)).bind
    intro ending
    exact ((remove_asks watcher).mono (by decide)).bind fun _ => trivial

theorem runSession_asks (allowance : Allowance) (target : Descriptor) :
    (runSession allowance target).Asks
      [.attributes, .signals, .size, .flag, .waiting, .data, .log, .report] := by
  apply ((acquire_asks .terminal).mono (by decide)).bind
  intro acquired
  cases acquired with
  | error fault => exact trivial
  | ok held =>
    apply (note_asks rfl).bind
    intro _
    apply ((relaySession_asks allowance target).mono (by decide)).bind
    intro ending
    apply ((release_asks allowance.patience held).mono (by decide)).bind
    intro released
    cases released with
    | error fault => exact trivial
    | ok _ => exact (note_asks rfl).bind fun _ => trivial

end TerminalRelay
