import TerminalRelay.Proofs.Relay.Stages
import TerminalRelay.Proofs.Resize.Attending

/-! What the ending of a relay is decided by: a read that finds a side closed, or a wait that
fails and was not just interrupted. Nothing else decides on it. Once it is decided the relay
has at most to note why before it is done. -/

namespace TerminalRelay
namespace Event

def closes (source : Descriptor) : Event → Bool
  | ⟨.read device _, .ok []⟩ | ⟨.read device _, .error _⟩ => device = source
  | _ => false

def waitError? : Event → Option Errno
  | ⟨.wait _ _ _, .error e⟩ => if e = .interrupted then none else some e
  | _ => none

def ending? (target : Descriptor) (event : Event) : Option Ending :=
  if event.closes .input then some .localClosed
  else if event.closes target then some .targetClosed
  else event.waitError?.map .waitFailed

variable {target : Descriptor} {event : Event}

theorem closes_one (notInput : target ≠ .input) (closes : event.closes target) :
    event.closes .input = false := by
  unfold Event.closes at closes ⊢
  split at closes
  · simpa [of_decide_eq_true closes] using notInput
  · simpa [of_decide_eq_true closes] using notInput
  · cases closes

theorem closes_of_waitError? {e : Errno} (failed : event.waitError? = some e)
    (source : Descriptor) : event.closes source = false := by
  unfold waitError? at failed
  split at failed
  · rfl
  · cases failed

theorem ending?_eq_localClosed_iff :
    event.ending? target = some .localClosed ↔ event.closes .input := by
  unfold ending?
  split
  · simp [*]
  · split <;> simp [*]

theorem ending?_eq_targetClosed_iff (notInput : target ≠ .input) :
    event.ending? target = some .targetClosed ↔ event.closes target := by
  unfold ending?
  split
  · next closes =>
    have other : ¬ event.closes target := fun far => by
      rw [closes_one notInput far] at closes
      cases closes
    simp [other]
  · split <;> simp [*]

theorem ending?_eq_waitFailed_iff {e : Errno} :
    event.ending? target = some (.waitFailed e) ↔ event.waitError? = some e := by
  unfold ending?
  constructor
  · intro decides
    split at decides
    · cases decides
    · split at decides
      · cases decides
      · simpa using decides
  · intro failed
    simp [closes_of_waitError? failed, failed]

theorem ending?_ne_resizeUnavailable : event.ending? target ≠ some .resizeUnavailable := by
  unfold ending?
  split
  · exact nofun
  · split
    · exact nofun
    · simp

end Event

namespace Stage
variable {target : Descriptor} {watcher : ResizeWatcher} {stage next : Stage} {event : Event}

def decision : Stage → Option Ending
  | concluding _ ending | finished ending => some ending
  | noting _ next => next.decision
  | _ => none

theorem next_decision (side : Side) (farToo : Bool) : (side.next farToo).decision = none := by
  cases side <;> cases farToo <;> rfl

theorem readiness_decision (ready : Readiness) : ready.stage.decision = none := by
  unfold Readiness.stage
  split
  · rfl
  · split <;> rfl

theorem ending?_of_closes (notInput : target ≠ .input) (side : Side)
    (closes : event.closes (side.source target)) : event.ending? target = some side.closed := by
  cases side with
  | near => exact Event.ending?_eq_localClosed_iff.mpr closes
  | far => exact (Event.ending?_eq_targetClosed_iff notInput).mpr closes

theorem Step.decides (notInput : target ≠ .input) (step : Step target watcher stage event next) :
    next.decision.toList = stage.decision.toList ++ (event.ending? target).toList := by
  cases step with
  | waitFailed e other => simp [decision, Event.ending?, Event.closes, Event.waitError?, other]
  | woken ready =>
    simp [readiness_decision, decision, Event.ending?, Event.closes, Event.waitError?]
  | readFailed side farToo e | ended side farToo =>
    rw [ending?_of_closes notInput side (by simp [Event.closes])]
    rfl
  | received side farToo chunk nonempty =>
    obtain ⟨first, others, rfl⟩ := List.exists_cons_of_ne_nil nonempty
    simp [decision, Event.ending?, Event.closes, Event.waitError?]
  | taken side farToo count left rest answer goesOn =>
    split <;> simp [next_decision, decision, Event.ending?, Event.closes, Event.waitError?]
  | refused side farToo count left e answer fails =>
    simp [next_decision, decision, Event.ending?, Event.closes, Event.waitError?]
  | _ => simp [decision, Event.ending?, Event.closes, Event.waitError?]

variable {State : Type} {world : World State} {before after : State} {events : List Event}
  {final : Stage}

/-- Nothing but the events decides on the ending, and only one of them. -/
theorem Passage.decides (notInput : target ≠ .input)
    (passage : Passage target watcher world stage before events final after)
    (undecided : stage.decision = none) :
    events.filterMap (Event.ending? target) = final.decision.toList := by
  have start : ([] : List Event).filterMap (Event.ending? target) = stage.decision.toList := by
    rw [undecided]
    rfl
  apply passage.keeps (fun stage past _ =>
    past.filterMap (Event.ending? target) = stage.decision.toList) (fun _ _ same => same) ?_ start
  intro stage past next before after request answer step _ same
  rw [step.decides notInput, List.filterMap_append, same]
  cases decided : Event.ending? target ⟨request, answer⟩ <;> simp [decided]

end Stage

section
variable {α : Type} {target : Descriptor} {watcher : ResizeWatcher} {ending : Ending}

def Request.decides : Request → Bool
  | .wait _ _ _ | .read _ _ => true
  | _ => false

theorem Event.ending?_of_idle {request : Request} (idle : request.decides = false)
    (answer : request.Answer) : Event.ending? target ⟨request, answer⟩ = none := by
  cases request <;> first | rfl | cases idle

/-- A program that has at most to note something before it is done. -/
def Program.Closing (program : Program Ending) (ending : Ending) : Prop :=
  program = .done ending ∨ ∃ notice, program = .ask (.log notice) fun _ => .done ending

/-- A program that is closing as soon as its ending is decided. -/
def Program.Heeds (target : Descriptor) : Program Ending → Prop
  | .done _ | .unfinished => True
  | .ask request next => ∀ answer,
      (∀ ending, Event.ending? target ⟨request, answer⟩ = some ending →
        (next answer).Closing ending) ∧ (next answer).Heeds target

theorem Program.Closing.heeds {program : Program Ending} (closing : program.Closing ending) :
    program.Heeds target := by
  obtain rfl | ⟨notice, rfl⟩ := closing
  · exact trivial
  · exact fun _ => ⟨nofun, trivial⟩

namespace Program.Heeds

theorem after {program : Program α} {next : α → Program Ending}
    (idle : program.Avoids fun request => request.decides = true)
    (rest : ∀ value, (next value).Heeds target) : (program >>= next).Heeds target := by
  induction program with
  | done value => exact rest value
  | unfinished => exact trivial
  | ask request following ih =>
    intro answer
    refine ⟨fun ending decided => ?_, ih answer (idle.2 answer)⟩
    rw [Event.ending?_of_idle (Bool.eq_false_iff.mpr idle.1)] at decided
    cases decided

theorem run {State : Type} {world : World State} {program rest : Program Ending}
    {before after : State} {events : List Event} (heeds : program.Heeds target)
    (run : world.Run before program events after rest) :
    ∀ event ∈ events, ∀ ending, event.ending? target = some ending → rest.Closing ending := by
  induction run with
  | here => exact fun _ member => absurd member List.not_mem_nil
  | outside _ _ ih => exact ih heeds
  | answered answer answers later ih =>
    obtain ⟨closes, heeds⟩ := heeds answer
    refine List.forall_mem_cons.mpr ⟨fun ending decided => ?_, ih heeds⟩
    obtain done | ⟨notice, noting⟩ := closes ending decided
    · rw [done] at later
      exact .inl later.of_done.2.2
    · rw [noting] at later
      obtain ⟨-, -, still⟩ | ⟨_, _, _, _, _, _, _, noted⟩ := later.cases_ask
      · exact .inr ⟨notice, still⟩
      · exact .inl noted.of_done.2.2

end Program.Heeds

theorem deliver_avoids (sink : Descriptor) (patience : Nat) (chunk : Bytes) :
    (deliver sink patience chunk).Avoids fun request => ∀ offer, request ≠ .write sink offer := by
  induction patience generalizing chunk with
  | zero => cases chunk <;> exact trivial
  | succ patience ih =>
    by_cases none : chunk = []
    · subst none
      exact trivial
    · rw [deliver_offer sink patience none]
      refine ⟨fun other => other _ rfl, fun answer => ?_⟩
      change Program.Avoids _ ((afterOffer chunk answer).elim .done (deliver sink patience))
      cases afterOffer chunk answer with
      | inl result => exact trivial
      | inr rest => exact ih rest

theorem deliver_idle (sink : Descriptor) (patience : Nat) (chunk : Bytes) :
    (deliver sink patience chunk).Avoids fun request => request.decides = true := by
  apply (deliver_avoids sink patience chunk).mono
  rintro _ decides offer rfl
  cases decides

theorem pump_heeds (notInput : target ≠ .input) (side : Side) {patience : Nat} {buffer : Bytes}
    {next : Option Bytes → Program Ending} (closed : next none = .done side.closed)
    (goesOn : ∀ buffer, (next (some buffer)).Heeds target) :
    (pump patience (side.source target) (side.sink target) buffer >>= next).Heeds target := by
  intro answer
  have closing (closes : Event.closes (side.source target)
      ⟨.read (side.source target) chunkSize, answer⟩) {program : Program Ending}
      (ends : program.Closing side.closed) :
      (∀ ending, Event.ending? target ⟨.read (side.source target) chunkSize, answer⟩ =
        some ending → program.Closing ending) ∧ program.Heeds target := by
    refine ⟨fun ending decided => ?_, ends.heeds⟩
    rw [Stage.ending?_of_closes notInput side closes] at decided
    cases decided
    exact ends
  match answer with
  | .error e =>
    refine closing (by simp [Event.closes]) (.inr ⟨.readFailed e, ?_⟩)
    rw [← closed]
    rfl
  | .ok [] => exact closing (by simp [Event.closes]) (.inl closed)
  | .ok (first :: others) =>
    refine ⟨nofun, ?_⟩
    change ((deliver (side.sink target) patience
      ((overwrite buffer (first :: others)).take (first :: others).length) >>= _) >>= next).Heeds _
    rw [Program.bind_assoc]
    apply Program.Heeds.after (deliver_idle _ _ _)
    intro result
    cases result with
    | ok _ => exact goesOn _
    | error e => exact fun _ => ⟨nofun, goesOn _⟩

theorem pumpIf_heeds (notInput : target ≠ .input) (side : Side) {patience : Nat} {ready : Bool}
    {buffer : Bytes} {next : Option Bytes → Program Ending}
    (closed : next none = .done side.closed)
    (goesOn : ∀ buffer, (next (some buffer)).Heeds target) :
    (pumpIf patience ready (side.source target) (side.sink target) buffer >>= next).Heeds
      target := by
  cases ready with
  | false => exact goesOn buffer
  | true => exact pump_heeds notInput side closed goesOn

theorem exchange_heeds (notInput : target ≠ .input) {patience : Nat} {ready : Readiness}
    {buffer : Bytes} {next : Except Ending Bytes → Program Ending}
    (closed : ∀ ending, next (.error ending) = .done ending)
    (goesOn : ∀ buffer, (next (.ok buffer)).Heeds target) :
    (exchange patience target ready buffer >>= next).Heeds target := by
  unfold exchange
  rw [Program.bind_assoc]
  apply pumpIf_heeds notInput .near (closed .localClosed)
  intro buffer
  rw [Program.bind_assoc]
  exact pumpIf_heeds notInput .far (closed .targetClosed) goesOn

theorem relay_heeds (notInput : target ≠ .input) (patience rounds : Nat) (buffer : Bytes) :
    (relay patience target watcher rounds buffer).Heeds target := by
  induction rounds generalizing buffer with
  | zero => exact trivial
  | succ rounds ih =>
    have quiet : watcher.service.Avoids fun request => request.decides = true := by
      apply (service_resizes watcher).avoids
      intro request decides
      cases request <;> first | rfl | cases decides
    apply Program.Heeds.after quiet
    intro _ answer
    match answer with
    | .error e =>
      by_cases interrupted : e = .interrupted
      · subst interrupted
        exact ⟨nofun, ih buffer⟩
      · have ends : Program.Closing (note (.waitFailed e) >>= fun _ => .done (.waitFailed e))
            (.waitFailed e) := .inr ⟨.waitFailed e, rfl⟩
        change (∀ ending, Event.ending? target ⟨.wait .input target watcher.waitMask, .error e⟩ =
          some ending → Program.Closing (if e = .interrupted then _ else _) ending) ∧
            Program.Heeds target (if e = .interrupted then _ else _)
        rw [if_neg interrupted]
        refine ⟨fun ending decided => ?_, ends.heeds⟩
        obtain rfl : Ending.waitFailed e = ending := by
          simpa [Event.ending?, Event.closes, Event.waitError?, interrupted] using decided
        exact ends
    | .ok ready => exact ⟨nofun, exchange_heeds notInput (fun _ => rfl) ih⟩

end

theorem relay_decides {State : Type} {world : World State} {patience rounds : Nat}
    {target : Descriptor} {watcher : ResizeWatcher} {buffer : Bytes} {before after : State}
    {events : List Event} {ending : Ending} (notInput : target ≠ .input)
    (run : world.Run before (relay patience target watcher rounds buffer) events after
      (.done ending)) : events.filterMap (Event.ending? target) = [ending] := by
  obtain ⟨final, passage, ends⟩ := Stage.relay_passage run
  obtain rfl : final = .finished ending := ends
  exact passage.decides notInput rfl

end TerminalRelay
