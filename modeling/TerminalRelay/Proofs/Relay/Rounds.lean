import TerminalRelay.Proofs.Relay.ByteExactness
import TerminalRelay.Proofs.Relay.Endings
import TerminalRelay.Proofs.Resize.Attending

/-! The rounds of a relay. Each attends to a resize and waits; then the local input has its
turn if it is ready, and after it the far side if that was ready in the same wait. A chunk is
written out or given up before anything else is asked. The relay ends by the first wait that
fails or the first side that is closed, and by nothing else. -/

namespace TerminalRelay

/-- A chunk is offered until nothing is left of it, or until a write fails for good. -/
inductive Delivery (sink : Descriptor) : Bytes → List Event → Except Errno Unit → Prop
  | complete : Delivery sink [] [] (.ok ())
  | failed {chunk answer e} (some : chunk ≠ [])
      (fails : afterOffer chunk answer = .inl (.error e)) :
      Delivery sink chunk [⟨.write sink chunk, answer⟩] (.error e)
  | offered {chunk answer rest events result} (some : chunk ≠ [])
      (goesOn : afterOffer chunk answer = .inr rest)
      (delivery : Delivery sink rest events result) :
      Delivery sink chunk (⟨.write sink chunk, answer⟩ :: events) result

/-- The turn of one side: nothing if it is not ready, and else one read. Its end and its failure
close it; a chunk is delivered, or given up and reported, and the side goes on. -/
inductive Turn (source sink : Descriptor) : (ready : Bool) → List Event → (goesOn : Bool) → Prop
  | idle : Turn source sink false [] true
  | ended : Turn source sink true [⟨.read source chunkSize, .ok []⟩] false
  | failed (e : Errno) : Turn source sink true
      [⟨.read source chunkSize, .error e⟩, ⟨.log (.readFailed e), ()⟩] false
  | moved {chunk writes} (some : chunk ≠ []) (delivery : Delivery sink chunk writes (.ok ())) :
      Turn source sink true (⟨.read source chunkSize, .ok chunk⟩ :: writes) true
  | dropped {chunk writes e} (some : chunk ≠ [])
      (delivery : Delivery sink chunk writes (.error e)) :
      Turn source sink true (⟨.read source chunkSize, .ok chunk⟩ ::
        (writes ++ [⟨.log (.dropped sink chunk.length e), ()⟩])) true

inductive Exchange (target : Descriptor) (ready : Readiness) : List Event → Option Ending → Prop
  | nearClosed {near} (turn : Turn .input target ready.input near false) :
      Exchange target ready near (some .localClosed)
  | farClosed {near far} (first : Turn .input target ready.input near true)
      (second : Turn target .output ready.target far false) :
      Exchange target ready (near ++ far) (some .targetClosed)
  | goesOn {near far} (first : Turn .input target ready.input near true)
      (second : Turn target .output ready.target far true) :
      Exchange target ready (near ++ far) none

inductive Rounds (target : Descriptor) (watcher : ResizeWatcher) : List Event → Ending → Prop
  | interrupted {served later ending} (service : Service watcher served)
      (rest : Rounds target watcher later ending) :
      Rounds target watcher
        (served ++ ⟨.wait .input target watcher.waitMask, .error .interrupted⟩ :: later) ending
  | waitFailed {served e} (service : Service watcher served) (other : e ≠ .interrupted) :
      Rounds target watcher
        (served ++ [⟨.wait .input target watcher.waitMask, .error e⟩, ⟨.log (.waitFailed e), ()⟩])
        (.waitFailed e)
  | closed {served ready moved ending} (service : Service watcher served)
      (exchange : Exchange target ready moved (some ending)) :
      Rounds target watcher
        (served ++ ⟨.wait .input target watcher.waitMask, .ok ready⟩ :: moved) ending
  | exchanged {served ready moved later ending} (service : Service watcher served)
      (exchange : Exchange target ready moved none) (rest : Rounds target watcher later ending) :
      Rounds target watcher
        (served ++ ⟨.wait .input target watcher.waitMask, .ok ready⟩ :: (moved ++ later)) ending

/-! Each part of the relay has its shape. -/

section
variable {target source sink : Descriptor} {watcher : ResizeWatcher}

theorem deliver_shaped (patience : Nat) (chunk : Bytes) :
    (deliver sink patience chunk).Shaped (Delivery sink chunk) := by
  induction patience generalizing chunk with
  | zero =>
    cases chunk with
    | nil => exact .complete
    | cons first others =>
      have fails : afterOffer (first :: others) (.ok 0) = .inl (.error .inputOutput) := rfl
      exact ⟨_, _, .failed (List.cons_ne_nil first others) fails⟩
  | succ patience ih =>
    by_cases none : chunk = []
    · subst none
      exact .complete
    · rw [deliver_offer sink patience none]
      intro answer
      change Program.Shaped ((afterOffer chunk answer).elim .done (deliver sink patience)) _
      cases offered : afterOffer chunk answer with
      | inl result =>
        obtain ⟨e, rfl⟩ := afterOffer_fails offered
        exact Delivery.failed none offered
      | inr rest => exact (ih rest).mono fun _ _ => Delivery.offered none offered

theorem pump_shaped (patience : Nat) (buffer : Bytes) :
    (pump patience source sink buffer).Shaped fun events left =>
      Turn source sink true events left.isSome := by
  intro answer
  match answer with
  | .error e => exact fun _ => .failed e
  | .ok [] => exact .ended
  | .ok (first :: others) =>
    have some : first :: others ≠ [] := List.cons_ne_nil first others
    change Program.Shaped (deliver sink patience
      ((overwrite buffer (first :: others)).take (first :: others).length) >>= _) _
    rw [take_overwrite]
    apply (deliver_shaped patience (first :: others)).bind
    intro writes result delivery
    cases result with
    | ok _ =>
      change Turn source sink true (_ :: (writes ++ [])) true
      rw [List.append_nil]
      exact .moved some delivery
    | error e => exact fun _ => .dropped some delivery

theorem pumpIf_shaped (patience : Nat) (ready : Bool) (buffer : Bytes) :
    (pumpIf patience ready source sink buffer).Shaped fun events left =>
      Turn source sink ready events left.isSome := by
  cases ready with
  | false => exact .idle
  | true => exact pump_shaped patience buffer

def endingOf : Except Ending Bytes → Option Ending
  | .error ending => some ending
  | .ok _ => none

theorem exchange_shaped (patience : Nat) (ready : Readiness) (buffer : Bytes) :
    (exchange patience target ready buffer).Shaped fun events result =>
      Exchange target ready events (endingOf result) := by
  apply (pumpIf_shaped patience ready.input buffer).bind
  intro near left first
  cases left with
  | none =>
    change Exchange target ready (near ++ []) (some .localClosed)
    rw [List.append_nil]
    exact .nearClosed first
  | some buffer =>
    apply (pumpIf_shaped patience ready.target buffer).bind
    intro far left second
    cases left with
    | none =>
      change Exchange target ready (near ++ (far ++ [])) (some .targetClosed)
      rw [List.append_nil]
      exact .farClosed first second
    | some buffer =>
      change Exchange target ready (near ++ (far ++ [])) none
      rw [List.append_nil]
      exact .goesOn first second

theorem relay_shaped (patience rounds : Nat) (buffer : Bytes) :
    (relay patience target watcher rounds buffer).Shaped (Rounds target watcher) := by
  induction rounds generalizing buffer with
  | zero =>
    have failed : Errno.inputOutput ≠ .interrupted := by decide
    exact ⟨_, _, .waitFailed .quiet failed⟩
  | succ rounds ih =>
    apply (service_shaped watcher).bind
    intro served _ service answer
    match answer with
    | .error e =>
      by_cases interrupted : e = .interrupted
      · subst interrupted
        exact (ih buffer).mono fun _ _ => .interrupted service
      · change Program.Shaped (if _ then _ else _) _
        rw [if_neg interrupted]
        exact fun _ => .waitFailed service interrupted
    | .ok ready =>
      apply (exchange_shaped patience ready buffer).bind
      intro moved result exchange
      cases result with
      | error ending =>
        change Rounds target watcher (served ++ _ :: (moved ++ [])) ending
        rw [List.append_nil]
        exact .closed service exchange
      | ok buffer => exact (ih buffer).mono fun _ _ => .exchanged service exchange

/-! Each part of that shape is a run, if the allowance covers it. -/

variable {events : List Event}

theorem Delivery.run {chunk : Bytes} {result : Except Errno Unit} {patience : Nat}
    (delivery : Delivery sink chunk events result) (enough : events.length ≤ patience) :
    World.unruly.Run () (deliver sink patience chunk) events () (.done result) := by
  induction delivery generalizing patience with
  | complete =>
    rw [deliver_nothing]
    exact .here
  | failed some fails =>
    cases patience with
    | zero => cases enough
    | succ patience =>
      rw [deliver_offer sink patience some]
      refine .freely _ ?_
      rw [fails]
      exact .here
  | offered some goesOn delivery ih =>
    cases patience with
    | zero => cases enough
    | succ patience =>
      rw [deliver_offer sink patience some]
      refine .freely _ ?_
      rw [goesOn]
      exact ih (Nat.le_of_succ_le_succ enough)

theorem Turn.run {ready goesOn : Bool} {patience : Nat}
    (turn : Turn source sink ready events goesOn) (enough : events.length ≤ patience)
    (buffer : Bytes) :
    ∃ left, left.isSome = goesOn ∧
      World.unruly.Run () (pumpIf patience ready source sink buffer) events () (.done left) := by
  cases turn with
  | idle => exact ⟨some buffer, rfl, .here⟩
  | ended => exact ⟨none, rfl, .freely _ .here⟩
  | failed e => exact ⟨none, rfl, .freely _ (.freely _ .here)⟩
  | @moved chunk writes nonempty delivery =>
    obtain ⟨first, others, rfl⟩ := List.exists_cons_of_ne_nil nonempty
    have delivered := delivery.run (Nat.le_of_succ_le enough)
    rw [← take_overwrite buffer (first :: others)] at delivered
    refine ⟨some (overwrite buffer (first :: others)), rfl, .freely _ ?_⟩
    rw [← List.append_nil writes]
    exact delivered.andThen .here
  | @dropped chunk writes e nonempty delivery =>
    obtain ⟨first, others, rfl⟩ := List.exists_cons_of_ne_nil nonempty
    have fewer : writes.length ≤ patience := by
      simp only [List.length_cons, List.length_append] at enough
      omega
    have given := delivery.run fewer
    rw [← take_overwrite buffer (first :: others)] at given
    refine ⟨some (overwrite buffer (first :: others)), rfl, .freely _ ?_⟩
    exact given.andThen (.freely _ .here)

theorem Exchange.run {ready : Readiness} {ending : Option Ending} {patience : Nat}
    (exchange : Exchange target ready events ending) (enough : events.length ≤ patience)
    (buffer : Bytes) :
    ∃ result, endingOf result = ending ∧
      World.unruly.Run () (TerminalRelay.exchange patience target ready buffer) events ()
        (.done result) := by
  cases exchange with
  | nearClosed turn =>
    obtain ⟨left, closes, run⟩ := turn.run enough buffer
    obtain rfl := Option.isNone_iff_eq_none.mp (Option.isSome_eq_false_iff.mp closes)
    refine ⟨.error .localClosed, rfl, ?_⟩
    rw [← List.append_nil events]
    exact run.andThen .here
  | @farClosed near far first second =>
    obtain ⟨nearEnough, farEnough⟩ : near.length ≤ patience ∧ far.length ≤ patience := by
      rw [List.length_append] at enough
      omega
    obtain ⟨left, goesOn, nearRun⟩ := first.run nearEnough buffer
    obtain ⟨buffer, rfl⟩ := Option.isSome_iff_exists.mp goesOn
    obtain ⟨left, closes, farRun⟩ := second.run farEnough buffer
    obtain rfl := Option.isNone_iff_eq_none.mp (Option.isSome_eq_false_iff.mp closes)
    refine ⟨.error .targetClosed, rfl, nearRun.andThen ?_⟩
    rw [← List.append_nil far]
    exact farRun.andThen .here
  | @goesOn near far first second =>
    obtain ⟨nearEnough, farEnough⟩ : near.length ≤ patience ∧ far.length ≤ patience := by
      rw [List.length_append] at enough
      omega
    obtain ⟨left, goesOn, nearRun⟩ := first.run nearEnough buffer
    obtain ⟨buffer, rfl⟩ := Option.isSome_iff_exists.mp goesOn
    obtain ⟨left, goesOn, farRun⟩ := second.run farEnough buffer
    obtain ⟨buffer, rfl⟩ := Option.isSome_iff_exists.mp goesOn
    refine ⟨.ok buffer, rfl, nearRun.andThen ?_⟩
    rw [← List.append_nil far]
    exact farRun.andThen .here

private theorem exists_fewer {served later : List Event} {event : Event} {allowed : Nat}
    (enough : (served ++ event :: later).length ≤ allowed) :
    ∃ fewer, allowed = fewer + 1 ∧ later.length ≤ fewer := by
  rw [List.length_append, List.length_cons] at enough
  exact ⟨allowed - 1, by omega, by omega⟩

theorem Rounds.run {ending : Ending} {patience rounds : Nat}
    (course : Rounds target watcher events ending) (patient : events.length ≤ patience)
    (enough : events.length ≤ rounds) (buffer : Bytes) :
    World.unruly.Run () (relay patience target watcher rounds buffer) events () (.done ending) := by
  induction course generalizing rounds buffer with
  | interrupted service rest ih =>
    obtain ⟨rounds, rfl, fewer⟩ := exists_fewer enough
    obtain ⟨offers, same, less⟩ := exists_fewer patient
    obtain ⟨resized, attended⟩ := service.run
    exact attended.andThen (.freely _ (ih (by omega) fewer buffer))
  | waitFailed service other =>
    obtain ⟨rounds, rfl, -⟩ := exists_fewer enough
    obtain ⟨resized, attended⟩ := service.run
    refine attended.andThen (.freely _ ?_)
    change World.unruly.Run () (if _ then _ else _) _ _ _
    rw [if_neg other]
    exact .freely _ .here
  | @closed served ready moved ending service exchange =>
    obtain ⟨rounds, rfl, -⟩ := exists_fewer enough
    obtain ⟨offers, rfl, less⟩ := exists_fewer patient
    obtain ⟨resized, attended⟩ := service.run
    obtain ⟨result, closes, moves⟩ := exchange.run (Nat.le_succ_of_le less) buffer
    refine attended.andThen (.freely _ ?_)
    rw [← List.append_nil moved]
    refine moves.andThen ?_
    cases result <;> cases closes
    exact .here
  | @exchanged served ready moved later ending service exchange rest ih =>
    obtain ⟨rounds, rfl, fewer⟩ := exists_fewer enough
    obtain ⟨offers, rfl, less⟩ := exists_fewer patient
    rw [List.length_append] at less fewer
    have moving : moved.length ≤ offers + 1 := by omega
    obtain ⟨resized, attended⟩ := service.run
    obtain ⟨result, goesOn, moves⟩ := exchange.run moving buffer
    refine attended.andThen (.freely _ (moves.andThen ?_))
    cases result with
    | error ending => cases goesOn
    | ok buffer => exact ih (by omega) (by omega) buffer

/-- The relays that are done are just the rounds that are as they should be. -/
theorem relay_done_iff_rounds {ending : Ending} {buffer : Bytes} :
    (∃ patience rounds, World.unruly.Run () (relay patience target watcher rounds buffer) events ()
      (.done ending)) ↔ Rounds target watcher events ending := by
  constructor
  · rintro ⟨patience, rounds, run⟩
    exact (relay_shaped patience rounds buffer).concludes.run run
  · exact fun course => ⟨_, _, course.run (Nat.le_refl _) (Nat.le_refl _) buffer⟩

end

structure Decided (target : Descriptor) (events : List Event) (ending : Ending) : Prop where
  once : events.filterMap (Event.ending? target) = [ending]
  localClosed : ending = .localClosed ↔ ∃ event ∈ events, event.closes .input
  targetClosed : ending = .targetClosed ↔ ∃ event ∈ events, event.closes target
  waitFailed : ∀ e, ending = .waitFailed e ↔ ∃ event ∈ events, event.waitError? = some e
  relayed : ending ≠ .resizeUnavailable

theorem Decided.of_once {target : Descriptor} {events : List Event} {ending : Ending}
    (notInput : target ≠ .input) (once : events.filterMap (Event.ending? target) = [ending]) :
    Decided target events ending := by
  have decides (other : Ending) :
      ending = other ↔ ∃ event ∈ events, event.ending? target = some other := by
    rw [← List.mem_filterMap, once, List.mem_singleton, eq_comm]
  exact {
    once
    localClosed := by simp only [decides, Event.ending?_eq_localClosed_iff]
    targetClosed := by simp only [decides, Event.ending?_eq_targetClosed_iff notInput]
    waitFailed := fun e => by simp only [decides, Event.ending?_eq_waitFailed_iff]
    relayed := fun unavailable => by
      obtain ⟨event, -, same⟩ := (decides .resizeUnavailable).mp unavailable
      exact Event.ending?_ne_resizeUnavailable same }

/-- Whatever a relay is answered, it goes in rounds as they should be: so it is with what was
done, and with each answer to what it asks next. It stops short only when its allowance is spent.
An answer that decides on the ending leaves it nothing to do but to note that, and it comes to no
other ending. All rounds that are as they should be do come about. -/
theorem relay_goes_in_rounds {State : Type} {world : World State} {patience rounds : Nat}
    {target : Descriptor} {watcher : ResizeWatcher} {buffer : Bytes} {before after : State}
    {events : List Event} {rest : Program Ending}
    (run : world.Run before (relay patience target watcher rounds buffer) events after rest) :
    (∃ more ending, Rounds target watcher (events ++ more) ending) ∧
      (∀ request next, rest = .ask request next → ∀ answer : request.Answer,
        ∃ more ending, Rounds target watcher (events ++ ⟨request, answer⟩ :: more) ending) ∧
      (rest = .unfinished → RelaySpent patience rounds events) ∧
      (target ≠ .input → ∀ event ∈ events, ∀ ending, event.ending? target = some ending →
        rest.Closing ending) ∧
      (∀ ending, rest = .done ending →
        Rounds target watcher events ending ∧
          (target ≠ .input → Decided target events ending)) ∧
      ∀ course ending, Rounds target watcher course ending ↔
        ∃ patience rounds, World.unruly.Run () (relay patience target watcher rounds buffer) course
          () (.done ending) := by
  have shaped := @relay_shaped target watcher patience rounds buffer
  refine ⟨shaped.run run, ?_, ?_, fun notInput => (relay_heeds notInput patience rounds buffer).run run,
    ?_, fun course ending => relay_done_iff_rounds.symm⟩
  · rintro request next rfl answer
    exact (shaped.after_run run answer).inhabited
  · rintro rfl
    exact (relay_exhausts_allowance target watcher buffer).run run
  · rintro ending rfl
    refine ⟨shaped.concludes.run run, fun notInput => ?_⟩
    exact .of_once notInput (relay_decides notInput run)

/-- Two rounds: in the first the far side fails to take a chunk and is read all the same, in the
second the local input ends. -/
theorem lossy_run_in_rounds :
    World.unruly.Run () (relay 3 (.opened 3) ⟨.terminal, .opened 3, 0, .empty⟩ 2 blankBuffer)
        lossyEvents () (.done .localClosed) ∧
      Rounds (.opened 3) ⟨.terminal, .opened 3, 0, .empty⟩ lossyEvents .localClosed ∧
      Decided (.opened 3) lossyEvents .localClosed :=
  have ⟨course, decided⟩ := (relay_goes_in_rounds lossy_run).2.2.2.2.1 .localClosed rfl
  ⟨lossy_run, course, decided (by decide)⟩

end TerminalRelay
