import TerminalRelay.Proofs.Moments
import TerminalRelay.Proofs.Takeover.Opening
import TerminalRelay.Proofs.Takeover.Refusals

/-! Starting a command on a new pty, at every moment and however the output, the slave and the
child turn out. The command is started just if all that has to come before it went well, and
nobody waits for the child, so no run that fails may leave one behind. -/

namespace TerminalRelay

def Event.child? : Event → Option (Launch × Nat)
  | ⟨.start launch, .ok child⟩ => some (launch, child)
  | _ => none

def children (events : List Event) : List (Launch × Nat) :=
  events.filterMap Event.child?

def Request.launch? : Request → Option Launch
  | .start launch => some launch
  | _ => none

def attempts (events : List Event) (asked : Option Request) : List Launch :=
  (requested events asked).filterMap Request.launch?

/-- What the user or a child may notice. -/
def Request.Outward (request : Request) : Prop :=
  request.concern = .output ∨ request.concern = .child

/-- A backend that leaves the output and the children to the program. -/
structure Backend.Discreet (backend : Backend) : Prop where
  allocate : backend.allocate.Avoids Request.Outward
  attach : ∀ pid slave forceStdio, (backend.attach pid slave forceStdio).Avoids Request.Outward
  steal : ∀ pid, (backend.steal pid).Avoids Request.Outward

theorem Program.Asks.inward {α : Type} {concerns : List Concern} {program : Program α}
    (asks : program.Asks concerns) (silent : concerns.contains .output = false)
    (childless : concerns.contains .child = false) : program.Avoids Request.Outward := by
  apply asks.avoids
  rintro request (outward | outward)
  · rwa [outward]
  · rwa [outward]

theorem Backend.system_discreet : Backend.system.Discreet where
  allocate := allocate_asks.inward rfl rfl
  attach pid slave forceStdio := (systemAttach_asks pid slave forceStdio).inward rfl rfl
  steal pid := (systemSteal_asks pid).inward rfl rfl

theorem Backend.outside_discreet : Backend.outside.Discreet where
  allocate := by
    refine ⟨nofun, fun refused => ?_⟩
    cases refused with
    | some fault => exact trivial
    | none => exact allocate_asks.inward rfl rfl
  attach _ _ _ := ⟨nofun, fun _ => trivial⟩
  steal _ := ⟨nofun, fun _ => trivial⟩

/-! What has to come first -/

def Announced (slave : String) (events : List Event) : Prop :=
  ∃ printing later, events = printing ++ ⟨.flush, .ok ()⟩ :: later ∧
    printedBy printing = announcement slave

structure StreamsOpened (slave : String) (streams : ChildStreams) (events : List Event) :
    Prop where
  input : ⟨.openSlave slave .reading, .ok streams.input⟩ ∈ events
  output : ⟨.openSlave slave .writing, .ok streams.output⟩ ∈ events
  error : ⟨.duplicate streams.output, .ok streams.error⟩ ∈ events

/-- All that has to come before a command is started. -/
structure Prepared (slave : String) (redirect : Bool) (command : List Bytes)
    (events : List Event) : Prop where
  announced : Announced slave events
  given : command ≠ []
  opened : redirect = true → ∃ streams, StreamsOpened slave streams events

structure Launch.OnTerms (launch : Launch) (slave : String) (redirect : Bool)
    (command : List Bytes) (events : List Event) : Prop where
  told : launch.slave = slave
  command : launch.program :: launch.arguments = command
  redirected : launch.streams.isSome = redirect
  opened : ∀ streams ∈ launch.streams, StreamsOpened slave streams events

/-- A command is started just if everything is prepared, once, and on these terms. -/
structure Orderly (slave : String) (redirect : Bool) (command : List Bytes)
    (events : List Event) (asked : Option Request) : Prop where
  attempted_iff : attempts events asked ≠ [] ↔ Prepared slave redirect command events
  once : (attempts events asked).length ≤ 1
  onTerms : ∀ launch ∈ attempts events asked, launch.OnTerms slave redirect command events

/-- What a run comes to that made a pty with this slave. -/
inductive Created (slave : String) (command : List Bytes) (events : List Event) :
    Except Fault Completion → Prop
  | failed (fault : Fault) (childless : children events = []) :
      Created slave command events (.error fault)
  | opened (none : command = []) (printed : printedBy events = announcement slave)
      (childless : children events = []) : Created slave command events (.ok (.opened slave))
  | spawned {launch : Launch} {child : Nat} (some : command ≠ [])
      (printed : printedBy events = announcement slave)
      (started : children events = [(launch, child)]) (told : launch.slave = slave) :
      Created slave command events (.ok (.spawned slave child))

theorem Event.launch?_eq (event : Event) : event.launch? = event.request.launch? := by
  obtain ⟨request, answer⟩ := event
  cases request <;> rfl

theorem attempts_eq (events : List Event) (asked : Option Request) :
    attempts events asked = launches events ++ asked.toList.filterMap Request.launch? := by
  rw [attempts, requested, List.filterMap_append, List.filterMap_map, launches]
  congr 2
  exact (funext Event.launch?_eq).symm

theorem attempts_of_idle {asked : Option Request} (idle : ∀ launch, asked ≠ some (.start launch))
    (events : List Event) : attempts events asked = launches events := by
  rw [attempts_eq]
  cases asked with
  | none => exact List.append_nil _
  | some request =>
    cases request with
    | start launch => exact absurd rfl (idle launch)
    | _ => exact List.append_nil _

theorem children_eq_nil {events : List Event} (unlaunched : launches events = []) :
    children events = [] := by
  rw [launches, List.filterMap_eq_nil_iff] at unlaunched
  refine List.filterMap_eq_nil_iff.mpr fun event member => ?_
  have idle := unlaunched event member
  obtain ⟨request, answer⟩ := event
  cases request with
  | start launch => cases idle
  | _ => rfl

theorem children_append (events later : List Event) :
    children (events ++ later) = children events ++ children later :=
  List.filterMap_append

theorem StreamsOpened.append {slave : String} {streams : ChildStreams} {events : List Event}
    (opened : StreamsOpened slave streams events) (later : List Event) :
    StreamsOpened slave streams (events ++ later) :=
  ⟨List.mem_append_left _ opened.input, List.mem_append_left _ opened.output,
    List.mem_append_left _ opened.error⟩

section
variable {slave : String} {redirect : Bool} {command : List Bytes} {events : List Event}
  {asked : Option Request} {launch : Launch}

theorem Announced.append (announced : Announced slave events) (later : List Event) :
    Announced slave (events ++ later) := by
  obtain ⟨printing, rest, rfl, printed⟩ := announced
  exact ⟨printing, rest ++ later, by simp, printed⟩

theorem Prepared.append (prepared : Prepared slave redirect command events)
    (later : List Event) : Prepared slave redirect command (events ++ later) where
  announced := prepared.announced.append later
  given := prepared.given
  opened redirected := by
    obtain ⟨streams, opened⟩ := prepared.opened redirected
    exact ⟨streams, opened.append later⟩

theorem Launch.OnTerms.append (onTerms : launch.OnTerms slave redirect command events)
    (later : List Event) : launch.OnTerms slave redirect command (events ++ later) :=
  { onTerms with opened := fun streams member => (onTerms.opened streams member).append later }

namespace Orderly

theorem unprepared (unlaunched : launches events = [])
    (not : ¬ Prepared slave redirect command events)
    (idle : ∀ launch, asked ≠ some (.start launch)) :
    Orderly slave redirect command events asked := by
  have none : attempts events asked = [] := by rw [attempts_of_idle idle, unlaunched]
  refine ⟨⟨fun some => absurd none some, fun prepared => absurd prepared not⟩, ?_, ?_⟩
  · simp [none]
  · simp [none]

theorem of_one (one : attempts events asked = [launch])
    (prepared : Prepared slave redirect command events)
    (onTerms : launch.OnTerms slave redirect command events) :
    Orderly slave redirect command events asked := by
  refine ⟨⟨fun _ => prepared, fun _ => ?_⟩, ?_, ?_⟩
  · rw [one]
    exact List.cons_ne_nil _ _
  · rw [one]
    exact Nat.le_refl 1
  · rw [one]
    exact List.forall_mem_singleton.mpr onTerms

theorem starting (unlaunched : launches events = [])
    (prepared : Prepared slave redirect command events)
    (onTerms : launch.OnTerms slave redirect command events) :
    Orderly slave redirect command events (some (.start launch)) := by
  refine .of_one ?_ prepared onTerms
  rw [attempts_eq, unlaunched]
  rfl

theorem started (unlaunched : launches events = [])
    (prepared : Prepared slave redirect command events)
    (onTerms : launch.OnTerms slave redirect command events)
    (answer : Except IoFailure Nat) (later : List Event) (quiet : launches later = [])
    (idle : ∀ launch, asked ≠ some (.start launch)) :
    Orderly slave redirect command (events ++ ⟨.start launch, answer⟩ :: later) asked := by
  refine .of_one ?_ (prepared.append _) (onTerms.append _)
  rw [attempts_of_idle idle, launches_append, unlaunched]
  exact congrArg (launch :: ·) quiet

end Orderly

/-! Each part of a creation keeps to the order. -/

structure Childless (events : List Event) : Prop where
  uncopied : ∀ writer copy, ⟨.duplicate writer, .ok copy⟩ ∉ events
  unlaunched : launches events = []

structure Unannounced (events : List Event) : Prop extends Childless events where
  unflushed : ⟨.flush, .ok ()⟩ ∉ events

structure Heralded (slave : String) (events : List Event) : Prop extends Childless events where
  announced : Announced slave events
  printed : printedBy events = announcement slave

theorem Childless.append {later : List Event} (childless : Childless events)
    (still : Childless later) : Childless (events ++ later) where
  uncopied writer copy :=
    List.not_mem_append (childless.uncopied writer copy) (still.uncopied writer copy)
  unlaunched := by
    rw [launches_append, childless.unlaunched, still.unlaunched]
    rfl

theorem Childless.orderly (childless : Childless events)
    (idle : ∀ launch, asked ≠ some (.start launch)) :
    Orderly slave true command events asked := by
  refine .unprepared childless.unlaunched ?_ idle
  rintro ⟨-, -, opened⟩
  obtain ⟨streams, opened⟩ := opened rfl
  exact childless.uncopied _ _ opened.error

theorem Unannounced.of_inward (inward : ∀ event ∈ events, ¬ event.request.Outward) :
    Unannounced events where
  uncopied _ _ member := inward _ member (.inr rfl)
  unlaunched := by
    refine List.filterMap_eq_nil_iff.mpr fun event member => ?_
    have unseen := inward event member
    obtain ⟨request, answer⟩ := event
    cases request with
    | start launch => exact absurd (.inr rfl) unseen
    | _ => rfl
  unflushed member := inward _ member (.inl rfl)

theorem Unannounced.orderly (unannounced : Unannounced events)
    (idle : ∀ launch, asked ≠ some (.start launch)) :
    Orderly slave redirect command events asked := by
  refine .unprepared unannounced.unlaunched ?_ idle
  rintro ⟨⟨printing, later, rfl, -⟩, -, -⟩
  exact unannounced.unflushed (by simp)

theorem announce_abides (patience : Nat) (unannounced : Unannounced events)
    (unprinted : printedBy events = []) :
    (announce patience slave).Abides (Orderly slave redirect command) events
      fun past result => match result with
        | .error _ => Unannounced past
        | .ok _ => Heralded slave past := by
  have printing : (printPieces patience ["Opened a new pty: ", slave, "\n"]).Abides
      (Orderly slave redirect command) events fun past _ => Unannounced past := by
    refine .of_avoids Unannounced (printPieces_avoids patience _) ?_ ?_ unannounced
    · intro past request answer prints still
      obtain ⟨text, rfl⟩ := Classical.not_forall_not.mp prints
      have childless : Childless [⟨.print text, answer⟩] := ⟨by simp, rfl⟩
      exact ⟨still.append childless, List.not_mem_append still.unflushed (by simp)⟩
    · intro past asked still prints
      refine still.orderly ?_
      rintro launch rfl
      exact prints _ rfl nofun
  apply (printing.concluding (printPieces_concludes patience _)).bind
  rintro past result ⟨still, talk, rfl, complete⟩
  cases result with
  | error failure => exact still
  | ok _ =>
    refine ⟨still.orderly nofun, fun flushed => ?_⟩
    have childless : Childless [⟨.flush, flushed⟩] := ⟨by simp, rfl⟩
    have after := still.append childless
    cases flushed with
    | error failure => exact ⟨after, List.not_mem_append still.unflushed (by simp)⟩
    | ok _ =>
      have printed : printedBy (events ++ talk) = announcement slave := by
        rw [printedBy_append, unprinted, complete rfl]
        simp [announcement]
      refine ⟨after, ⟨events ++ talk, [], rfl, printed⟩, ?_⟩
      rw [printedBy_append, printed]
      exact List.append_nil _

theorem openStreams_abides (announced : Announced slave events) (childless : Childless events) :
    (openStreams slave).Abides (Orderly slave true command) events
      fun past result => match result with
        | .error _ => Childless past
        | .ok streams =>
          launches past = [] ∧ Announced slave past ∧ StreamsOpened slave streams past := by
  refine ⟨childless.orderly nofun, fun reader => ?_⟩
  have first := childless.append
    (⟨by simp, rfl⟩ : Childless [⟨.openSlave slave .reading, reader⟩])
  cases reader with
  | error failure => exact first
  | ok _ =>
    refine ⟨first.orderly nofun, fun writer => ?_⟩
    have second := first.append
      (⟨by simp, rfl⟩ : Childless [⟨.openSlave slave .writing, writer⟩])
    cases writer with
    | error failure => exact second
    | ok _ =>
      refine ⟨second.orderly nofun, fun copy => ?_⟩
      cases copy with
      | error failure => exact second.append ⟨by simp, rfl⟩
      | ok _ =>
        refine ⟨?_, ((announced.append _).append _).append _, ⟨?_, ?_, ?_⟩⟩
        · rw [launches_append, second.unlaunched]
          rfl
        all_goals simp

theorem streamsFor_abides {program : Bytes} {arguments : List Bytes}
    (announced : Announced slave events) (childless : Childless events) :
    (streamsFor slave redirect).Abides (Orderly slave redirect (program :: arguments)) events
      fun past result => launches past = [] ∧ match result with
        | .error _ => Orderly slave redirect (program :: arguments) past none
        | .ok streams => Prepared slave redirect (program :: arguments) past ∧
            Launch.OnTerms ⟨program, arguments, slave, streams⟩ slave redirect
              (program :: arguments) past := by
  cases redirect with
  | false => exact ⟨childless.unlaunched, ⟨announced, nofun, nofun⟩, ⟨rfl, rfl, rfl, nofun⟩⟩
  | true =>
    apply (openStreams_abides announced childless).bind
    rintro past result opening
    cases result with
    | error failure => exact ⟨opening.unlaunched, opening.orderly nofun⟩
    | ok streams =>
      obtain ⟨unlaunched, announced, opened⟩ := opening
      refine ⟨unlaunched, ⟨announced, nofun, fun _ => ⟨streams, opened⟩⟩, ⟨rfl, rfl, rfl, ?_⟩⟩
      rintro _ ⟨⟩
      exact opened

theorem spawn_abides (redirect : Bool) (program : Bytes) (arguments : List Bytes)
    (announced : Announced slave events) (childless : Childless events) :
    (spawn slave redirect (program :: arguments)).Abides
      (Orderly slave redirect (program :: arguments)) events
      fun past result => Orderly slave redirect (program :: arguments) past none ∧
        match result with
          | .error _ => children past = []
          | .ok child => ∃ launch, children past = [(launch, child)] ∧ launch.slave = slave := by
  apply (streamsFor_abides announced childless).bind
  rintro past result ⟨unlaunched, opening⟩
  cases result with
  | error failure => exact ⟨opening, children_eq_nil unlaunched⟩
  | ok streams =>
    obtain ⟨prepared, onTerms⟩ := opening
    refine ⟨.starting unlaunched prepared onTerms, fun started => ?_⟩
    have none : children past = [] := children_eq_nil unlaunched
    cases started with
    | error failure =>
      refine ⟨.started unlaunched prepared onTerms _ [] rfl nofun, ?_⟩
      rw [children_append, none]
      rfl
    | ok child =>
      have one : children (past ++ [⟨.start ⟨program, arguments, slave, streams⟩, .ok child⟩]) =
          [(⟨program, arguments, slave, streams⟩, child)] := by
        rw [children_append, none]
        rfl
      refine ⟨.started unlaunched prepared onTerms _ [] rfl nofun, fun _ => ⟨?_, ?_⟩⟩
      · rw [List.append_assoc]
        exact .started unlaunched prepared onTerms _ [_] rfl nofun
      · refine ⟨⟨program, arguments, slave, streams⟩, ?_, rfl⟩
        rw [children_append, one]
        rfl

/-- Once there is a pty, the rest of its creation keeps to the order. -/
theorem creation_abides (patience : Nat) (redirect : Bool) (command : List Bytes)
    (unannounced : Unannounced events) (unprinted : printedBy events = []) :
    (announce patience slave >>= fun result => match result with
      | .error failure => .done (.error (.io failure))
      | .ok _ => if command.isEmpty then .done (.ok (.opened slave))
        else spawn slave redirect command >>= fun result => match result with
          | .error fault => .done (.error fault)
          | .ok child => .done (.ok (.spawned slave child))).Abides
      (Orderly slave redirect command) events
      fun past outcome => Orderly slave redirect command past none ∧
        Created slave command past outcome := by
  apply (announce_abides patience unannounced unprinted).bind
  intro past result announcing
  cases result with
  | error failure =>
    exact ⟨announcing.orderly nofun, .failed _ (children_eq_nil announcing.unlaunched)⟩
  | ok _ =>
    cases command with
    | nil =>
      refine ⟨.unprepared announcing.unlaunched (fun prepared => prepared.given rfl) nofun, ?_⟩
      exact .opened rfl announcing.printed (children_eq_nil announcing.unlaunched)
    | cons program arguments =>
      have spawning := spawn_abides redirect program arguments announcing.announced
        announcing.toChildless
      apply (spawning.concluding (spawn_asks slave redirect _).concludes).bind
      rintro _ result ⟨⟨orderly, started⟩, events, rfl, business⟩
      cases result with
      | error fault => exact ⟨orderly, .failed fault started⟩
      | ok child =>
        obtain ⟨launch, started, told⟩ := started
        refine ⟨orderly, .spawned nofun ?_ started told⟩
        rw [printedBy_append, announcing.printed, printedBy_eq_nil business rfl, List.append_nil]

end

theorem printedBy_of_inward {events : List Event}
    (inward : ∀ event ∈ events, ¬ event.request.Outward) : printedBy events = [] := by
  refine List.flatMap_eq_nil_iff.mpr fun event member => ?_
  have unseen := inward event member
  obtain ⟨request, answer⟩ := event
  cases request with
  | print text => exact absurd (.inl rfl) unseen
  | _ => rfl

theorem relayTo_inward (allowance : Allowance) (target : Descriptor) :
    (relayTo allowance target).Avoids Request.Outward := by
  apply ((runSession_asks allowance target).inward rfl rfl).bind
  intro result
  cases result <;> exact trivial

theorem executeTakeover_inward {allowance : Allowance} {backend : Backend} {mode : Mode}
    (discreet : backend.Discreet) (takes : mode.TakesOver) :
    (execute allowance backend mode).Avoids Request.Outward := by
  have unlogged (notice : Notice) (silent : (Request.log notice).Outward) : False := by
    cases notice <;> obtain seen | seen := silent <;> cases seen
  cases mode with
  | create redirect command => exact takes.elim
  | attach pid forceStdio =>
    apply discreet.allocate.bind
    intro made
    cases made with
    | error fault => exact trivial
    | ok pty =>
      refine ⟨unlogged _, fun _ => ?_⟩
      apply (discreet.attach pid pty.slave forceStdio).bind
      intro attached
      cases attached with
      | error e => exact trivial
      | ok _ => exact relayTo_inward allowance pty.master
  | steal pid =>
    refine ⟨unlogged _, fun _ => ?_⟩
    apply (discreet.steal pid).bind
    intro stolen
    cases stolen with
    | error e => exact trivial
    | ok session => exact relayTo_inward allowance session

/-- Only a mode that makes a pty is noticed outside, and not before it has the pty. From then on
its command was asked for, at every moment, just if all that has to come before it went well,
and never twice. A run that fails leaves no child, and one that says that it started one started
just that one. -/
theorem command_started_iff_prepared {State : Type} {world : World State} {before after : State}
    {allowance : Allowance} {backend : Backend} {mode : Mode} {events : List Event}
    {rest : Program (Except Fault Completion)} (discreet : backend.Discreet)
    (run : world.Run before (execute allowance backend mode) events after rest) :
    (mode.TakesOver → ∀ request ∈ requested events rest.asked, ¬ request.Outward) ∧
      ∀ redirect command, mode = .create redirect command →
        (∃ left, world.Run before backend.allocate events after left ∧
          (∀ pty, left ≠ .done (.ok pty)) ∧ (∀ completion, rest ≠ .done (.ok completion)) ∧
          ∀ request ∈ requested events rest.asked, ¬ request.Outward) ∨
        ∃ pty opening between later, events = opening ++ later ∧
          world.Run before backend.allocate opening between (.done (.ok pty)) ∧
          (∀ event ∈ opening, ¬ event.request.Outward) ∧
          Orderly pty.slave redirect command events rest.asked ∧
          ∀ outcome, rest = .done outcome → Created pty.slave command events outcome := by
  refine ⟨fun takes => (executeTakeover_inward discreet takes).requested run, ?_⟩
  rintro redirect command rfl
  obtain ⟨left, going, inside, rfl⟩ | ⟨made, opening, between, later, rfl, allocated, others⟩ :=
    run.cases_bind
  · refine .inl ⟨left, inside, fun pty => going _, ?_, ?_⟩
    · rintro completion finished
      cases left with
      | done made => exact going made rfl
      | ask | unfinished => cases finished
    · rw [Program.asked_bind _ going]
      exact discreet.allocate.requested inside
  · have inward := discreet.allocate.run allocated
    cases made with
    | error fault =>
      obtain ⟨rfl, rfl, rfl⟩ := others.of_done
      rw [List.append_nil]
      have unseen := discreet.allocate.requested allocated
      exact .inl ⟨_, allocated, nofun, nofun, unseen⟩
    | ok pty =>
      have unannounced := Unannounced.of_inward inward
      have abides := (creation_abides allowance.patience redirect command unannounced
        (printedBy_of_inward inward)).after_run others
      refine .inr ⟨pty, opening, between, later, rfl, allocated, inward, ?_⟩
      cases rest with
      | done outcome =>
        refine ⟨abides.1, ?_⟩
        rintro _ ⟨⟩
        exact abides.2
      | ask request next => exact ⟨abides.1, nofun⟩
      | unfinished => exact ⟨abides, nofun⟩

theorem shell_started_when_prepared :
    ∃ events after outcome, (obliging "/dev/pts/1").Run 2
      (execute ⟨1, 64⟩ .system (.create true [[0x73, 0x68]])) events after (.done outcome) ∧
      ∃ slave, Prepared slave true [[0x73, 0x68]] events ∧
        Created slave [[0x73, 0x68]] events outcome := by
  have enough : (announcement "/dev/pts/1").length + 2 ≤ (⟨1, 64⟩ : Allowance).patience := by
    decide +kernel
  have sure := execute_create_brings (Backend.system_makes "/dev/pts/1" 2) enough true
    [0x73, 0x68] []
  obtain ⟨events, after, outcome, run, -, streams, -, launched⟩ := sure.finishes
  have attempted : attempts events none ≠ [] := by
    rw [attempts_eq, launched]
    exact List.cons_ne_nil _ _
  refine ⟨events, after, outcome, run, ?_⟩
  obtain ⟨-, creation⟩ := command_started_iff_prepared Backend.system_discreet run
  obtain ⟨-, -, -, -, unseen⟩ | ⟨pty, -, -, -, -, -, -, orderly, created⟩ := creation true _ rfl
  · obtain ⟨launch, asked⟩ := List.exists_mem_of_ne_nil _ attempted
    obtain ⟨request, member, starts⟩ := List.mem_filterMap.mp asked
    cases request with
    | start launch => exact absurd (.inr rfl) (unseen _ member)
    | _ => cases starts
  · exact ⟨pty.slave, orderly.attempted_iff.mp attempted, created outcome rfl⟩

end TerminalRelay
