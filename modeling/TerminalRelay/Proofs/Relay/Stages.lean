import TerminalRelay.Proofs.Runs
import TerminalRelay.Relay.Rounds

/-! The relay as a state machine. A stage says what the relay asks next, and a step what it
makes of the answer. Every run of the relay is a run of this machine, so what one step keeps
holds throughout. -/

namespace TerminalRelay

/-- The two sides a relay reads from: the local input, and the far side. -/
inductive Side where
  | near
  | far
  deriving DecidableEq

namespace Side

def source (target : Descriptor) : Side → Descriptor
  | near => .input
  | far => target

def sink (target : Descriptor) : Side → Descriptor
  | near => target
  | far => .output

def closed : Side → Ending
  | near => .localClosed
  | far => .targetClosed

theorem source_eq_iff {target : Descriptor} (apart : target ≠ .input) {side other : Side} :
    side.source target = other.source target ↔ side = other := by
  cases side <;> cases other <;> simp [source, apart, apart.symm]

theorem sink_eq_iff {target : Descriptor} (apart : target ≠ .output) {side other : Side} :
    side.sink target = other.sink target ↔ side = other := by
  cases side <;> cases other <;> simp [sink, apart, apart.symm]

end Side

/-- Where a relay stands between two requests. -/
inductive Stage where
  | heading
  | noticed
  | sized (size : WindowSize)
  | waiting
  | reading (side : Side) (farToo : Bool)
  | offering (side : Side) (farToo : Bool) (count : Nat) (left : Bytes)
  | noting (notice : Notice) (next : Stage)
  | concluding (notice : Notice) (ending : Ending)
  | finished (ending : Ending)

def Side.next : Side → Bool → Stage
  | near, true => .reading .far false
  | _, _ => .heading

theorem Side.next_ne_offering (side : Side) (farToo : Bool) (other : Side) (more : Bool)
    (count : Nat) (left : Bytes) : side.next farToo ≠ .offering other more count left := by
  cases side <;> cases farToo <;> exact nofun

def Readiness.stage (ready : Readiness) : Stage :=
  if ready.input then .reading .near ready.target
  else if ready.target then .reading .far false
  else .heading

namespace Stage
variable (target : Descriptor) (watcher : ResizeWatcher)

def request : Stage → Option Request
  | heading => some (.takeFlag watcher.flag)
  | noticed => some (.readSize watcher.source)
  | sized size => some (.writeSize watcher.target size)
  | waiting => some (.wait .input target watcher.waitMask)
  | reading side _ => some (.read (side.source target) chunkSize)
  | offering side _ _ left => some (.write (side.sink target) left)
  | noting notice _ | concluding notice _ => some (.log notice)
  | finished _ => none

inductive Step : Stage → Event → Stage → Prop
  | raised : Step heading ⟨.takeFlag watcher.flag, true⟩ noticed
  | lowered : Step heading ⟨.takeFlag watcher.flag, false⟩ waiting
  | measured (size : WindowSize) :
      Step noticed ⟨.readSize watcher.source, .ok size⟩
        (sized (WindowSize.effective (ε := Errno) (.ok size)))
  | unmeasured (e : Errno) :
      Step noticed ⟨.readSize watcher.source, .error e⟩
        (noting (.sizeUnreadable e) (sized .fallback))
  | copied (size : WindowSize) :
      Step (sized size) ⟨.writeSize watcher.target size, .ok ()⟩ (noting (.resized size) waiting)
  | refusedSize (size : WindowSize) (e : Errno) :
      Step (sized size) ⟨.writeSize watcher.target size, .error e⟩
        (noting (.resizeFailed e) waiting)
  | interrupted :
      Step waiting ⟨.wait .input target watcher.waitMask, .error .interrupted⟩ heading
  | waitFailed (e : Errno) (other : e ≠ .interrupted) :
      Step waiting ⟨.wait .input target watcher.waitMask, .error e⟩
        (concluding (.waitFailed e) (.waitFailed e))
  | woken (ready : Readiness) :
      Step waiting ⟨.wait .input target watcher.waitMask, .ok ready⟩ ready.stage
  | readFailed (side : Side) (farToo : Bool) (e : Errno) :
      Step (reading side farToo) ⟨.read (side.source target) chunkSize, .error e⟩
        (concluding (.readFailed e) side.closed)
  | ended (side : Side) (farToo : Bool) :
      Step (reading side farToo) ⟨.read (side.source target) chunkSize, .ok []⟩
        (finished side.closed)
  | received (side : Side) (farToo : Bool) (chunk : Bytes) (some : chunk ≠ []) :
      Step (reading side farToo) ⟨.read (side.source target) chunkSize, .ok chunk⟩
        (offering side farToo chunk.length chunk)
  | taken (side : Side) (farToo : Bool) (count : Nat) (left rest : Bytes)
      (answer : Except Errno Nat) (goesOn : afterOffer left answer = .inr rest) :
      Step (offering side farToo count left) ⟨.write (side.sink target) left, answer⟩
        (if rest = [] then side.next farToo else offering side farToo count rest)
  | refused (side : Side) (farToo : Bool) (count : Nat) (left : Bytes) (e : Errno)
      (answer : Except Errno Nat) (fails : afterOffer left answer = .inl (.error e)) :
      Step (offering side farToo count left) ⟨.write (side.sink target) left, answer⟩
        (noting (.dropped (side.sink target) count e) (side.next farToo))
  | noted (notice : Notice) (next : Stage)
      (idle : ∀ side farToo count left, next ≠ offering side farToo count left) :
      Step (noting notice next) ⟨.log notice, ()⟩ next
  | concluded (notice : Notice) (ending : Ending) :
      Step (concluding notice ending) ⟨.log notice, ()⟩ (finished ending)

/-- Whether a program does what the machine does from a stage on. -/
def Follows : Program Ending → Stage → Prop
  | .done ending, stage => stage = finished ending
  | .unfinished, _ => True
  | .ask request next, stage =>
    stage.request target watcher = some request ∧
      ∀ answer, ∃ after, Step target watcher stage ⟨request, answer⟩ after ∧
        Follows (next answer) after

variable {target watcher}

theorem applySize_follows {size : WindowSize} {next : Unit → Program Ending}
    (rest : Follows target watcher (next ()) waiting) :
    Follows target watcher (applySize watcher.target size >>= next) (sized size) := by
  refine ⟨rfl, fun answer => ?_⟩
  cases answer with
  | ok _ => exact ⟨_, .copied size, rfl, fun _ => ⟨_, .noted _ _ nofun, rest⟩⟩
  | error e => exact ⟨_, .refusedSize size e, rfl, fun _ => ⟨_, .noted _ _ nofun, rest⟩⟩

theorem copySize_follows {next : Unit → Program Ending}
    (rest : Follows target watcher (next ()) waiting) :
    Follows target watcher (copySize watcher.source watcher.target >>= next) noticed := by
  refine ⟨rfl, fun reported => ?_⟩
  cases reported with
  | ok size => exact ⟨_, .measured size, applySize_follows rest⟩
  | error e =>
    exact ⟨_, .unmeasured e, rfl, fun _ => ⟨_, .noted _ _ nofun, applySize_follows rest⟩⟩

theorem service_follows {next : Bool → Program Ending}
    (rest : ∀ resized, Follows target watcher (next resized) waiting) :
    Follows target watcher (watcher.service >>= next) heading := by
  rw [ResizeWatcher.service_eq, Program.ask_bind]
  refine ⟨rfl, fun raised => ?_⟩
  cases raised with
  | true =>
    refine ⟨_, .raised, ?_⟩
    simp only [if_true, Program.bind_assoc]
    exact copySize_follows (rest true)
  | false => exact ⟨_, .lowered, rest false⟩

theorem deliver_follows {side : Side} {farToo : Bool} {count patience : Nat} {left : Bytes}
    {next : Except Errno Unit → Program Ending} (some : left ≠ [])
    (delivered : Follows target watcher (next (.ok ())) (side.next farToo))
    (dropped : ∀ e, Follows target watcher (next (.error e))
      (noting (.dropped (side.sink target) count e) (side.next farToo))) :
    Follows target watcher (deliver (side.sink target) patience left >>= next)
      (offering side farToo count left) := by
  induction patience generalizing left with
  | zero =>
    cases left with
    | nil => exact absurd rfl some
    | cons first others => exact trivial
  | succ patience ih =>
    rw [deliver_offer _ _ some, Program.ask_bind]
    refine ⟨rfl, fun answer => ?_⟩
    cases offered : afterOffer left answer with
    | inl result =>
      obtain ⟨e, rfl⟩ := afterOffer_fails offered
      refine ⟨_, .refused side farToo count left e answer offered, ?_⟩
      simpa [offered] using dropped e
    | inr rest =>
      refine ⟨_, .taken side farToo count left rest answer offered, ?_⟩
      by_cases finished : rest = []
      · subst finished
        simpa [offered, deliver] using delivered
      · simpa [offered, finished] using ih finished

theorem pump_follows (side : Side) {farToo : Bool} {patience : Nat} {buffer : Bytes}
    {next : Option Bytes → Program Ending}
    (closed : Follows target watcher (next none) (finished side.closed))
    (goesOn : ∀ buffer, Follows target watcher (next (some buffer)) (side.next farToo)) :
    Follows target watcher
      (pump patience (side.source target) (side.sink target) buffer >>= next)
      (reading side farToo) := by
  refine ⟨rfl, fun answer => ?_⟩
  match answer with
  | .error e =>
    exact ⟨_, .readFailed side farToo e, rfl, fun _ => ⟨_, .concluded _ _, closed⟩⟩
  | .ok [] => exact ⟨_, .ended side farToo, closed⟩
  | .ok (first :: others) =>
    refine ⟨_, .received side farToo (first :: others) (List.cons_ne_nil _ _), ?_⟩
    change Follows target watcher ((deliver (side.sink target) patience
      ((overwrite buffer (first :: others)).take (first :: others).length) >>= _) >>= next) _
    rw [take_overwrite, Program.bind_assoc]
    refine deliver_follows (List.cons_ne_nil _ _) (goesOn _) fun e => ?_
    exact ⟨rfl, fun _ => ⟨_, .noted _ _ (side.next_ne_offering farToo), goesOn _⟩⟩

theorem farTurn_follows {patience : Nat} {ready : Bool} {buffer : Bytes}
    {next : Option Bytes → Program Ending}
    (closed : Follows target watcher (next none) (finished .targetClosed))
    (goesOn : ∀ buffer, Follows target watcher (next (some buffer)) heading) :
    Follows target watcher (pumpIf patience ready target .output buffer >>= next)
      (if ready then reading .far false else heading) := by
  cases ready with
  | true => exact pump_follows .far closed goesOn
  | false => exact goesOn buffer

theorem exchange_follows {patience : Nat} {ready : Readiness} {buffer : Bytes}
    {next : Except Ending Bytes → Program Ending}
    (closed : ∀ side : Side,
      Follows target watcher (next (.error side.closed)) (finished side.closed))
    (goesOn : ∀ buffer, Follows target watcher (next (.ok buffer)) heading) :
    Follows target watcher (exchange patience target ready buffer >>= next) ready.stage := by
  obtain ⟨near, far⟩ := ready
  unfold exchange
  rw [Program.bind_assoc]
  cases near with
  | true =>
    refine pump_follows .near (closed .near) fun buffer => ?_
    rw [Program.bind_assoc]
    cases far with
    | true => exact farTurn_follows (closed .far) goesOn
    | false => exact goesOn buffer
  | false =>
    change Follows target watcher ((pumpIf patience far target .output buffer >>= _) >>= next) _
    rw [Program.bind_assoc]
    exact farTurn_follows (closed .far) goesOn

/-- Whatever its allowance and its buffer, the relay does what the machine does from the head
of a round on. -/
theorem relay_follows (patience rounds : Nat) (buffer : Bytes) :
    Follows target watcher (relay patience target watcher rounds buffer) heading := by
  induction rounds generalizing buffer with
  | zero => exact trivial
  | succ rounds ih =>
    refine service_follows fun _ => ⟨rfl, fun answer => ?_⟩
    match answer with
    | .error e =>
      by_cases interrupted : e = .interrupted
      · subst interrupted
        exact ⟨_, .interrupted, ih buffer⟩
      · refine ⟨_, .waitFailed e interrupted, ?_⟩
        change Follows target watcher (if _ then _ else _) _
        rw [if_neg interrupted]
        exact ⟨rfl, fun _ => ⟨_, .concluded _ _, rfl⟩⟩
    | .ok ready => exact ⟨_, .woken ready, exchange_follows (fun side => rfl) ih⟩

theorem Follows.avoids {avoided : Request → Prop} {program : Program Ending} {stage : Stage}
    (follows : Follows target watcher program stage)
    (never : ∀ stage request, Stage.request target watcher stage = some request →
      ¬ avoided request) : program.Avoids avoided := by
  induction program generalizing stage with
  | done ending => exact trivial
  | ask request next ih =>
    refine ⟨never stage request follows.1, fun answer => ?_⟩
    obtain ⟨after, _, continues⟩ := follows.2 answer
    exact ih answer continues
  | unfinished => exact trivial

/-- A passage takes the machine from a stage to a later one in a world that answers it. -/
inductive Passage {State : Type} (target : Descriptor) (watcher : ResizeWatcher)
    (world : World State) : Stage → State → List Event → Stage → State → Prop
  | here {stage state} : Passage target watcher world stage state [] stage state
  | outside {stage request before between events final after}
      (asks : stage.request target watcher = some request)
      (happens : world.outside request before between)
      (passage : Passage target watcher world stage between events final after) :
      Passage target watcher world stage before events final after
  | stepped {stage : Stage} {request : Request} {answer : request.Answer} {next before between}
      {events final after}
      (step : Step target watcher stage ⟨request, answer⟩ next)
      (answers : world.answers before request answer between)
      (passage : Passage target watcher world next between events final after) :
      Passage target watcher world stage before (⟨request, answer⟩ :: events) final after

variable {State : Type} {world : World State}

theorem Follows.passage {program rest : Program Ending} {stage : Stage} {before after : State}
    {events : List Event} (run : world.Run before program events after rest)
    (follows : Follows target watcher program stage) :
    ∃ final, Passage target watcher world stage before events final after ∧
      Follows target watcher rest final := by
  induction run generalizing stage with
  | here => exact ⟨stage, .here, follows⟩
  | outside happens _ ih =>
    obtain ⟨final, passage, ends⟩ := ih follows
    exact ⟨final, .outside follows.1 happens passage, ends⟩
  | answered answer answers _ ih =>
    obtain ⟨next, step, continues⟩ := follows.2 answer
    obtain ⟨final, passage, ends⟩ := ih continues
    exact ⟨final, .stepped step answers passage, ends⟩

theorem relay_passage {patience rounds : Nat} {buffer : Bytes} {before after : State}
    {events : List Event} {rest : Program Ending}
    (run : world.Run before (relay patience target watcher rounds buffer) events after rest) :
    ∃ final, Passage target watcher world heading before events final after ∧
      Follows target watcher rest final :=
  (relay_follows patience rounds buffer).passage run

/-- What holds at a stage after some events holds throughout if neither a step nor anything
outside ends it. -/
theorem Passage.keeps (invariant : Stage → List Event → State → Prop) {stage final : Stage}
    {before after : State} {past events : List Event}
    (passage : Passage target watcher world stage before events final after)
    (outside : ∀ {stage request past before after}, stage.request target watcher = some request →
      world.outside request before after → invariant stage past before →
        invariant stage past after)
    (stepped : ∀ {stage past next before after} {request : Request} {answer : request.Answer},
      Step target watcher stage ⟨request, answer⟩ next →
      world.answers before request answer after → invariant stage past before →
        invariant next (past ++ [⟨request, answer⟩]) after)
    (holds : invariant stage past before) : invariant final (past ++ events) after := by
  induction passage generalizing past with
  | here => rwa [List.append_nil]
  | outside asks happens _ ih => exact ih (outside asks happens holds)
  | stepped step answers _ ih =>
    rw [List.append_cons]
    exact ih (stepped step answers holds)

end Stage
end TerminalRelay
