import TerminalRelay.Proofs.Concerns
import TerminalRelay.Proofs.Faults

/-! The course that a mode takes, whatever backend it relies on. Its parts come one after the
other, each only if the one before it went well, and on what that one came to. The first part
that fails gives the fault that is reported, and the backend explains itself if it was refused
for want of permission and not otherwise. -/

namespace TerminalRelay

inductive Task where
  | allocate
  | attach (pid : Pid) (slave : String) (forceStdio : Bool)
  | steal (pid : Pid)
  | announce (slave : String)
  | spawn (slave : String) (redirect : Bool) (command : List Bytes)
  | relay (target : Descriptor)
  | report (fault : Fault)
  | explain

namespace Task

@[reducible] def Result : Task → Type
  | allocate => Except Fault Pty
  | attach _ _ _ => Except Errno Unit
  | steal _ => Except Errno Descriptor
  | announce _ => Except IoFailure Unit
  | spawn _ _ _ => Except Fault Nat
  | relay _ => Except Fault Ending
  | report _ | explain => Unit

def program (allowance : Allowance) (backend : Backend) : (task : Task) → Program task.Result
  | allocate => backend.allocate
  | attach pid slave forceStdio => do
    note (.attaching pid slave)
    backend.attach pid slave forceStdio
  | steal pid => do
    note (.stealing pid)
    backend.steal pid
  | announce slave => TerminalRelay.announce allowance.patience slave
  | spawn slave redirect command => TerminalRelay.spawn slave redirect command
  | relay target => runSession allowance target
  | report fault => note (.failed fault)
  | explain => backend.explain

end Task

/-- A task that was done, with what it came to. -/
structure Deed where
  task : Task
  result : task.Result

inductive Phase (α : Type) where
  | facing (task : Task)
  | finished (outcome : α)

inductive Relaying (target : Descriptor) : List Deed → Phase (Except Fault Completion) → Prop
  | underway : Relaying target [] (.facing (.relay target))
  | ended (ending : Ending) :
      Relaying target [⟨.relay target, .ok ending⟩] (.finished (.ok (.relayed ending)))
  | failed {fault : Fault} (session : fault.OfSession) :
      Relaying target [⟨.relay target, .error fault⟩] (.finished (.error fault))

inductive Starting (slave : String) (redirect : Bool) :
    List Bytes → List Deed → Phase (Except Fault Completion) → Prop
  | opened : Starting slave redirect [] [] (.finished (.ok (.opened slave)))
  | underway (program : Bytes) (arguments : List Bytes) :
      Starting slave redirect (program :: arguments) []
        (.facing (.spawn slave redirect (program :: arguments)))
  | failed (program : Bytes) (arguments : List Bytes) (failure : IoFailure) :
      Starting slave redirect (program :: arguments)
        [⟨.spawn slave redirect (program :: arguments),
          .error (.spawn (Text.display program) failure)⟩]
        (.finished (.error (.spawn (Text.display program) failure)))
  | spawned (program : Bytes) (arguments : List Bytes) (child : Nat) :
      Starting slave redirect (program :: arguments)
        [⟨.spawn slave redirect (program :: arguments), .ok child⟩]
        (.finished (.ok (.spawned slave child)))

inductive Using (pty : Pty) : Mode → List Deed → Phase (Except Fault Completion) → Prop
  | attaching (pid : Pid) (forceStdio : Bool) :
      Using pty (.attach pid forceStdio) [] (.facing (.attach pid pty.slave forceStdio))
  | unattached (pid : Pid) (forceStdio : Bool) (e : Errno) :
      Using pty (.attach pid forceStdio) [⟨.attach pid pty.slave forceStdio, .error e⟩]
        (.finished (.error (.attach pid e)))
  | attached (pid : Pid) (forceStdio : Bool) {deeds phase}
      (relaying : Relaying pty.master deeds phase) :
      Using pty (.attach pid forceStdio) (⟨.attach pid pty.slave forceStdio, .ok ()⟩ :: deeds) phase
  | announcing (redirect : Bool) (command : List Bytes) :
      Using pty (.create redirect command) [] (.facing (.announce pty.slave))
  | unannounced (redirect : Bool) (command : List Bytes) (failure : IoFailure) :
      Using pty (.create redirect command) [⟨.announce pty.slave, .error failure⟩]
        (.finished (.error (.io failure)))
  | announced {redirect : Bool} {command : List Bytes} {deeds phase}
      (starting : Starting pty.slave redirect command deeds phase) :
      Using pty (.create redirect command) (⟨.announce pty.slave, .ok ()⟩ :: deeds) phase

def Mode.NeedsPty : Mode → Prop
  | .attach _ _ | .create _ _ => True
  | .steal _ => False

/-- The course of a mode: the deeds so far, and what comes after them. A new pty is refused with
one of the refusals. -/
inductive Course (refusals : Fault → Prop) :
    Mode → List Deed → Phase (Except Fault Completion) → Prop
  | allocating {mode : Mode} (needs : mode.NeedsPty) : Course refusals mode [] (.facing .allocate)
  | unallocated {mode : Mode} (needs : mode.NeedsPty) {fault : Fault} (refused : refusals fault) :
      Course refusals mode [⟨.allocate, .error fault⟩] (.finished (.error fault))
  | allocated {pty : Pty} {mode : Mode} {deeds phase} (used : Using pty mode deeds phase) :
      Course refusals mode (⟨.allocate, .ok pty⟩ :: deeds) phase
  | stealing (pid : Pid) : Course refusals (.steal pid) [] (.facing (.steal pid))
  | unstolen (pid : Pid) (e : Errno) :
      Course refusals (.steal pid) [⟨.steal pid, .error e⟩] (.finished (.error (.steal pid e)))
  | stolen (pid : Pid) {target : Descriptor} {deeds phase}
      (relaying : Relaying target deeds phase) :
      Course refusals (.steal pid) (⟨.steal pid, .ok target⟩ :: deeds) phase

section
variable {State α β : Type} (world : World State) (allowance : Allowance) (backend : Backend)

/-- The deeds were done one after the other, and nothing else was. -/
inductive Doings : State → List Deed → List Event → State → Prop
  | none {state} : Doings state [] [] state
  | did {before between after deeds events later} (deed : Deed)
      (run : world.Run before (deed.task.program allowance backend) events between
        (.done deed.result))
      (others : Doings between deeds later after) :
      Doings before (deed :: deeds) (events ++ later) after

def Phase.Stands (before : State) (events : List Event) (after : State) (rest : Program α) :
    Phase α → Prop
  | .facing task => ∃ left next, (∀ result, left ≠ .done result) ∧
      world.Run before (task.program allowance backend) events after left ∧ rest = left >>= next
  | .finished outcome => events = [] ∧ after = before ∧ rest = .done outcome

def Consists (described : List Deed → Phase α → Prop) (before : State) (events : List Event)
    (after : State) (rest : Program α) : Prop :=
  ∃ deeds phase earlier between later, events = earlier ++ later ∧
    Doings world allowance backend before deeds earlier between ∧
    phase.Stands world allowance backend between later after rest ∧ described deeds phase

/-- However far a program is run from a state, it takes a course that is as described. -/
def Proceeds (described : List Deed → Phase α → Prop) (before : State) (program : Program α) :
    Prop :=
  ∀ events after rest, world.Run before program events after rest →
    Consists world allowance backend described before events after rest

end

section
variable {State α β : Type} {world : World State} {allowance : Allowance} {backend : Backend}
  {before between after : State}

theorem Doings.append {deeds others : List Deed} {events later : List Event}
    (first : Doings world allowance backend before deeds events between)
    (second : Doings world allowance backend between others later after) :
    Doings world allowance backend before (deeds ++ others) (events ++ later) after := by
  induction first with
  | none => exact second
  | did deed run _ ih =>
    rw [List.append_assoc]
    exact .did deed run (ih second)

theorem Phase.Stands.of_done {phase : Phase α} {events : List Event} {outcome : α}
    (stands : phase.Stands world allowance backend before events after (.done outcome)) :
    phase = .finished outcome ∧ events = [] ∧ after = before := by
  cases phase with
  | facing task =>
    obtain ⟨left, next, going, -, same⟩ := stands
    cases left with
    | done result => exact absurd rfl (going result)
    | ask request rest => cases same
    | unfinished => cases same
  | finished result =>
    obtain ⟨rfl, rfl, same⟩ := stands
    cases same
    exact ⟨rfl, rfl, rfl⟩

namespace Proceeds
variable {described : List Deed → Phase α → Prop}

theorem done {outcome : α} (holds : described [] (.finished outcome)) :
    Proceeds world allowance backend described before (.done outcome) := by
  intro events after rest run
  obtain ⟨rfl, rfl, rfl⟩ := run.of_done
  exact ⟨[], .finished outcome, [], _, [], rfl, .none, ⟨rfl, rfl, rfl⟩, holds⟩

/-- A program that begins with a task proceeds if it does so with every result of the task. -/
theorem task (task : Task) {next : task.Result → Program α}
    (facing : described [] (.facing task))
    (each : ∀ result events between,
      world.Run before (task.program allowance backend) events between (.done result) →
      Proceeds world allowance backend
        (fun deeds phase => described (⟨task, result⟩ :: deeds) phase) between (next result)) :
    Proceeds world allowance backend described before
      (task.program allowance backend >>= next) := by
  intro events after rest run
  obtain ⟨left, going, doing, rfl⟩ | ⟨result, first, between, later, rfl, doing, others⟩ :=
    run.cases_bind
  · have stands : (Phase.facing task).Stands world allowance backend before events after
        (left >>= next) := ⟨left, next, going, doing, rfl⟩
    exact ⟨[], .facing task, [], before, events, rfl, .none, stands, facing⟩
  · obtain ⟨deeds, phase, earlier, middle, last, rfl, doings, stands, holds⟩ :=
      each result first between doing _ _ _ others
    refine ⟨_, phase, first ++ earlier, middle, last, ?_, .did _ doing doings, stands, holds⟩
    exact (List.append_assoc first earlier last).symm

theorem mono {program : Program α} {weaker : List Deed → Phase α → Prop}
    (proceeds : Proceeds world allowance backend described before program)
    (implies : ∀ deeds phase, described deeds phase → weaker deeds phase) :
    Proceeds world allowance backend weaker before program := by
  intro events after rest run
  obtain ⟨deeds, phase, earlier, between, later, split, doings, stands, holds⟩ :=
    proceeds events after rest run
  exact ⟨deeds, phase, earlier, between, later, split, doings, stands, implies deeds phase holds⟩

theorem finished {program : Program α} {outcome : α} {events : List Event}
    (proceeds : Proceeds world allowance backend described before program)
    (run : world.Run before program events after (.done outcome)) :
    ∃ deeds, Doings world allowance backend before deeds events after ∧
      described deeds (.finished outcome) := by
  obtain ⟨deeds, phase, earlier, between, later, rfl, doings, stands, holds⟩ :=
    proceeds events after _ run
  obtain ⟨rfl, rfl, rfl⟩ := stands.of_done
  rw [List.append_nil]
  exact ⟨deeds, doings, holds⟩

theorem bind {program : Program α} {next : α → Program β}
    {final : List Deed → Phase β → Prop}
    (first : Proceeds world allowance backend described before program)
    (facing : ∀ deeds task, described deeds (.facing task) → final deeds (.facing task))
    (each : ∀ deeds outcome between, described deeds (.finished outcome) →
      Proceeds world allowance backend (fun later phase => final (deeds ++ later) phase) between
        (next outcome)) :
    Proceeds world allowance backend final before (program >>= next) := by
  intro events after rest run
  obtain ⟨left, within, inside, rfl⟩ | ⟨outcome, one, between, later, rfl, through, others⟩ :=
    run.cases_bind
  · obtain ⟨deeds, phase, earlier, middle, last, rfl, doings, stands, holds⟩ := first _ _ _ inside
    cases phase with
    | facing task =>
      obtain ⟨left, following, going, doing, rfl⟩ := stands
      refine ⟨deeds, .facing task, earlier, middle, last, rfl, doings, ?_, facing deeds task holds⟩
      exact ⟨left, fun result => following result >>= next, going, doing, Program.bind_assoc _ _ _⟩
    | finished outcome => exact absurd stands.2.2 (within outcome)
  · obtain ⟨deeds, doings, holds⟩ := first.finished through
    obtain ⟨more, phase, earlier, middle, last, rfl, others, stands, holds⟩ :=
      each deeds outcome _ holds _ _ _ others
    refine ⟨_, phase, one ++ earlier, middle, last, ?_, doings.append others, stands, holds⟩
    exact (List.append_assoc one earlier last).symm

end Proceeds

/-- In this world the backend refuses a new pty only with one of the refusals. -/
def Backend.RefusesWith (refusals : Fault → Prop) (world : World State) (backend : Backend) :
    Prop :=
  ∀ before events after fault,
    world.Run before backend.allocate events after (.done (.error fault)) → refusals fault

theorem relayTo_proceeds (target : Descriptor) :
    Proceeds world allowance backend (Relaying target) before (relayTo allowance target) := by
  apply Proceeds.task (.relay target) .underway
  intro result events between run
  cases result with
  | error fault => exact .done (.failed ((runSession_blames allowance target).run run fault rfl))
  | ok ending => exact .done (.ended ending)

theorem spawn_proceeds (slave : String) (redirect : Bool) (program : Bytes)
    (arguments : List Bytes) :
    Proceeds world allowance backend (Starting slave redirect (program :: arguments)) before
      (spawn slave redirect (program :: arguments) >>= fun result => match result with
        | .error fault => .done (.error fault)
        | .ok child => .done (.ok (.spawned slave child))) := by
  apply Proceeds.task (.spawn slave redirect (program :: arguments)) (.underway program arguments)
  intro result events between run
  cases result with
  | error fault =>
    obtain ⟨failure, rfl⟩ := (spawn_blames slave redirect program arguments).run run fault rfl
    exact .done (.failed program arguments failure)
  | ok child => exact .done (.spawned program arguments child)

theorem executeSteal_proceeds (refusals : Fault → Prop) (pid : Pid) :
    Proceeds world allowance backend (Course refusals (.steal pid)) before
      (executeSteal allowance backend pid) := by
  apply Proceeds.task (.steal pid) (.stealing pid)
  intro taken events between _
  cases taken with
  | error e => exact .done (.unstolen pid e)
  | ok target =>
    apply (relayTo_proceeds target).mono
    exact fun deeds phase relaying => .stolen pid relaying

section
variable {refusals : Fault → Prop} (refuses : backend.RefusesWith refusals world)
include refuses

theorem executeAttach_proceeds (pid : Pid) (forceStdio : Bool) :
    Proceeds world allowance backend (Course refusals (.attach pid forceStdio)) before
      (executeAttach allowance backend pid forceStdio) := by
  have needs : (Mode.attach pid forceStdio).NeedsPty := trivial
  apply Proceeds.task .allocate (.allocating needs)
  intro made events between run
  cases made with
  | error fault => exact .done (.unallocated needs (refuses _ _ _ fault run))
  | ok pty =>
    apply Proceeds.task (.attach pid pty.slave forceStdio) (.allocated (.attaching pid forceStdio))
    intro moved events between _
    cases moved with
    | error e => exact .done (.allocated (.unattached pid forceStdio e))
    | ok _ =>
      apply (relayTo_proceeds pty.master).mono
      exact fun deeds phase relaying => .allocated (.attached pid forceStdio relaying)

theorem executeCreate_proceeds (redirect : Bool) (command : List Bytes) :
    Proceeds world allowance backend (Course refusals (.create redirect command)) before
      (executeCreate allowance backend redirect command) := by
  have needs : (Mode.create redirect command).NeedsPty := trivial
  apply Proceeds.task .allocate (.allocating needs)
  intro made events between run
  cases made with
  | error fault => exact .done (.unallocated needs (refuses _ _ _ fault run))
  | ok pty =>
    apply Proceeds.task (.announce pty.slave) (.allocated (.announcing redirect command))
    intro printed events between _
    cases printed with
    | error failure => exact .done (.allocated (.unannounced redirect command failure))
    | ok _ =>
      cases command with
      | nil => exact .done (.allocated (.announced .opened))
      | cons program arguments =>
        apply (spawn_proceeds pty.slave redirect program arguments).mono
        exact fun deeds phase starting => .allocated (.announced starting)

theorem execute_proceeds (mode : Mode) :
    Proceeds world allowance backend (Course refusals mode) before
      (execute allowance backend mode) := by
  cases mode with
  | attach pid forceStdio => exact executeAttach_proceeds refuses pid forceStdio
  | steal pid => exact executeSteal_proceeds refusals pid
  | create redirect command => exact executeCreate_proceeds refuses redirect command

end

/-! What an outside backend is asked in the course of a mode. -/

def Request.isQuestion : Request → Bool
  | .refusesPty | .attach _ _ _ | .steal _ | .explain => true
  | _ => false

def questions (events : List Event) : List Request :=
  (events.map (·.request)).filter Request.isQuestion

/-- What an outside backend is asked for a task. -/
def Task.questions : Task → List Request
  | .allocate => [.refusesPty]
  | .attach pid slave forceStdio => [.attach pid slave forceStdio]
  | .steal pid => [.steal pid]
  | .explain => [.explain]
  | _ => []

def Phase.questions : Phase α → List Request
  | .facing task => task.questions
  | .finished _ => []

theorem questions_append (events later : List Event) :
    questions (events ++ later) = questions events ++ questions later := by
  simp [questions]

theorem Request.concern_of_isQuestion {request : Request} (asked : request.isQuestion = true) :
    request.concern = .takeover := by
  cases request <;> first | rfl | cases asked

theorem Program.Asks.unquestioning {concerns : List Concern} {program rest : Program α}
    {events : List Event} (asks : program.Asks concerns)
    (apart : concerns.contains .takeover = false)
    (run : world.Run before program events after rest) : questions events = [] := by
  refine List.filter_eq_nil_iff.mpr fun request member asked => ?_
  obtain ⟨event, inside, rfl⟩ := List.mem_map.mp member
  refine not_mem_of_concern (asks.run run) ?_ inside
  rwa [Request.concern_of_isQuestion asked]

/-- The question of a task, if it has one, is what an outside backend is asked for it, once the
task is done, and nothing else before. -/
def AsksOnly (expected : List Request) (left : Program α) (events : List Event) : Prop :=
  questions events <+: expected ∧ ∀ value, left = .done value → questions events = expected

private theorem asked_once {question : Request} {next : question.Answer → Program α}
    {left : Program α} {events : List Event} (asked : question.isQuestion = true)
    (silent : ∀ answer, (next answer).Asks [.pty, .log])
    (run : world.Run before (.ask question next) events after left) :
    AsksOnly [question] left events := by
  obtain ⟨rfl, -, rfl⟩ | ⟨opened, answer, between, later, -, -, rfl, others⟩ := run.cases_ask
  · exact ⟨List.nil_prefix, nofun⟩
  · have whole : questions (⟨question, answer⟩ :: later) = [question] := by
      have unquestioned := (silent answer).unquestioning rfl others
      rw [questions] at unquestioned ⊢
      rw [List.map_cons, List.filter_cons_of_pos asked, unquestioned]
    exact ⟨whole ▸ List.prefix_rfl, fun _ _ => whole⟩

private theorem noted_then_asked {notice : Notice} {question : Request}
    {left : Program question.Answer} {events : List Event} (asked : question.isQuestion = true)
    (run : world.Run before (note notice >>= fun _ => .call question) events after left) :
    AsksOnly [question] left events := by
  obtain ⟨rfl, -, rfl⟩ | ⟨opened, answer, between, later, -, -, rfl, others⟩ := run.cases_ask
  · exact ⟨List.nil_prefix, nofun⟩
  · have silent : ∀ answer, (Program.done answer : Program question.Answer).Asks [.pty, .log] :=
      fun _ => trivial
    have unnoted : questions (⟨.log notice, answer⟩ :: later) = questions later := rfl
    rw [AsksOnly, unnoted]
    exact asked_once asked silent others

theorem Task.asks_questions (task : Task) {left : Program task.Result} {events : List Event}
    (run : world.Run before (task.program allowance .outside) events after left) :
    AsksOnly task.questions left events := by
  have silent {concerns : List Concern} (asks : (task.program allowance .outside).Asks concerns)
      (apart : concerns.contains .takeover = false) : AsksOnly [] left events := by
    rw [AsksOnly, asks.unquestioning apart run]
    exact ⟨List.nil_prefix, fun _ _ => rfl⟩
  cases task with
  | allocate =>
    refine asked_once rfl (fun refused => ?_) run
    cases refused with
    | none => exact allocate_asks
    | some fault => exact trivial
  | attach pid slave forceStdio => exact noted_then_asked rfl run
  | steal pid => exact noted_then_asked rfl run
  | announce slave => exact silent (announce_asks allowance.patience slave) rfl
  | spawn slave redirect command => exact silent (spawn_asks slave redirect command) rfl
  | relay target => exact silent (runSession_asks allowance target) rfl
  | report fault => exact silent (note_asks rfl : Program.Asks [.report] _) rfl
  | explain =>
    have silent : ∀ answer, (Program.done answer : Program Unit).Asks [.pty, .log] :=
      fun _ => trivial
    exact asked_once rfl silent run

theorem Doings.questions {deeds : List Deed} {events : List Event}
    (doings : Doings world allowance .outside before deeds events after) :
    TerminalRelay.questions events = deeds.flatMap (·.task.questions) := by
  induction doings with
  | none => rfl
  | did deed run _ ih =>
    rw [questions_append, ih, (Task.asks_questions deed.task run).2 deed.result rfl]
    rfl

theorem Phase.Stands.questions {phase : Phase α} {events : List Event} {rest : Program α}
    (stands : phase.Stands world allowance .outside before events after rest) :
    TerminalRelay.questions events <+: phase.questions := by
  cases phase with
  | facing task =>
    obtain ⟨left, next, -, run, -⟩ := stands
    exact (Task.asks_questions task run).1
  | finished outcome =>
    obtain ⟨rfl, -, -⟩ := stands
    exact List.nil_prefix

end

theorem Backend.system_refuses {State : Type} (world : World State) :
    Backend.system.RefusesWith Fault.OfSetup world :=
  fun _ _ _ fault run => allocate_blames.run run fault rfl

def samplePid : Pid :=
  ⟨42, by decide, by decide⟩

end TerminalRelay
