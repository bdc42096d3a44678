import TerminalRelay.Proofs.Relay.Offers
import TerminalRelay.Relay.Script

/-! A delivery never succeeds short. Against any script of answers each write is offered what
was not taken before, the sink always holds the front of the data, and it holds all of them
just if the delivery succeeds. A failure is that of the first answer of the script that is
neither an interruption nor takes anything, and nothing is written after it. -/

namespace TerminalRelay

/-- A host that does nothing but take what is written, the way a scripted sink does. -/
def World.scripted : World ScriptedSink where
  outside _ _ _ := False
  answers before request answer after :=
    match request, answer with
    | .write _ chunk, answer => before.write chunk = (answer, after)
    | _, _ => False

/-- The answers to some writes are those of a script in order, and past its end each write
takes all that it is offered. -/
inductive AnsweredBy : List (Except Errno Nat) → List Event → Prop
  | nothing {script} : AnsweredBy script []
  | next {script sink chunk events} (rest : AnsweredBy script.tail events) :
      AnsweredBy script (⟨.write sink chunk, script.head?.getD (.ok chunk.length)⟩ :: events)

namespace AnsweredBy
variable {script : List (Except Errno Nat)} {earlier later events : List Event}

theorem getElem {sink : Descriptor} {chunk : Bytes} {answer : Except Errno Nat}
    (answered : AnsweredBy script (earlier ++ ⟨.write sink chunk, answer⟩ :: later)) :
    answer = script[earlier.length]?.getD (.ok chunk.length) := by
  induction earlier generalizing script with
  | nil =>
    cases answered
    rw [List.head?_eq_getElem?, List.length_nil]
  | cons first others ih =>
    cases answered with
    | next rest =>
      have told := ih rest
      rwa [List.getElem?_tail] at told

theorem blames {last : Event} {e : Errno} (answered : AnsweredBy script (earlier ++ [last]))
    (nonempty : last.offered ≠ []) (fails : last.failure? = some e)
    (others : ∀ event ∈ earlier, event.failure? = none) :
    ∃ passed answer left, script = passed ++ answer :: left ∧ passed.length = earlier.length ∧
      (∀ other ∈ passed, Offer.failure? other = none) ∧ Offer.failure? answer = some e := by
  induction earlier generalizing script with
  | nil =>
    cases answered with
    | @next _ sink chunk _ _ =>
      cases script with
      | nil =>
        have taken := Offer.failure?_of_goesOn (afterOffer_whole nonempty)
        exact absurd (fails.symm.trans taken) nofun
      | cons answer left =>
        exact ⟨[], answer, left, rfl, rfl, fun _ none => absurd none List.not_mem_nil, fails⟩
  | cons first earlier ih =>
    obtain ⟨goesOn, passing⟩ := List.forall_mem_cons.mp others
    cases answered with
    | @next _ sink chunk _ rest =>
      obtain ⟨passed, answer, left, split, count, before, blamed⟩ := ih rest passing
      cases script with
      | nil => exact absurd split.symm (List.append_ne_nil_of_right_ne_nil _ (List.cons_ne_nil _ _))
      | cons told script =>
        obtain rfl : script = passed ++ answer :: left := split
        refine ⟨told :: passed, answer, left, rfl, congrArg (· + 1) count, ?_, blamed⟩
        exact List.forall_mem_cons.mpr ⟨goesOn, before⟩

end AnsweredBy

namespace ScriptedSink

theorem of_write {sink after : ScriptedSink} {chunk : Bytes} {answer : Except Errno Nat}
    (writes : sink.write chunk = (answer, after)) :
    answer = sink.script.head?.getD (.ok chunk.length) ∧ after.script = sink.script.tail ∧
      after.offers = chunk.length :: sink.offers ∧
      after.bytes = sink.bytes ++ accepted chunk answer := by
  obtain ⟨script, offers, taken⟩ := sink
  match script with
  | [] =>
    cases writes
    simp [bytes, accepted]
  | .ok count :: rest =>
    cases writes
    simp [bytes, accepted]
  | .error e :: rest =>
    cases writes
    simp [bytes, accepted]

variable {α : Type} {program rest : Program α} {before after : ScriptedSink}
  {events : List Event}

theorem run_of_finished {value : α}
    (run : World.scripted.Run before program events after (.done value)) :
    before.run program = (some value, after) := by
  generalize finished : Program.done value = rest at run
  induction run with
  | here =>
    subst finished
    rfl
  | outside happens => exact happens.elim
  | @answered before between _ request _ _ _ answer answers _ ih =>
    cases request with
    | write sink chunk =>
      have computed : before.write chunk = (answer, between) := answers
      rw [ScriptedSink.run, computed]
      exact ih finished
    | _ => exact answers.elim

theorem answeredBy_of_run (run : World.scripted.Run before program events after rest) :
    AnsweredBy before.script events := by
  induction run with
  | here => exact .nothing
  | outside happens => exact happens.elim
  | @answered before between _ request _ _ _ answer answers _ ih =>
    cases request with
    | write sink chunk =>
      obtain ⟨rfl, left, -, -⟩ := of_write answers
      rw [left] at ih
      exact .next ih
    | _ => exact answers.elim

theorem records_of_run {sink : Descriptor}
    (run : World.scripted.Run before program events after rest)
    (only : ∀ event ∈ events, ∃ chunk answer, event = ⟨.write sink chunk, answer⟩) :
    after.offers.reverse = before.offers.reverse ++ events.map (·.offered.length) ∧
      after.bytes = before.bytes ++ bytesTaken sink events := by
  induction run with
  | here => simp
  | outside happens => exact happens.elim
  | answered answer answers _ ih =>
    obtain ⟨⟨chunk, other, same⟩, others⟩ := List.forall_mem_cons.mp only
    cases same
    obtain ⟨-, -, offers, taken⟩ := of_write answers
    obtain ⟨offersLater, takenLater⟩ := ih others
    rw [offersLater, takenLater, offers, taken]
    simp [Event.taken, Event.offered]

end ScriptedSink

variable {data : Bytes} {script : List (Except Errno Nat)}

theorem World.scripted_tires (sink : Descriptor) :
    World.scripted.Tires sink fun state => state.script.countP Offer.isInterruption where
  still := id
  answered state chunk := ⟨_, _, rfl⟩
  spends := by
    intro chunk answer before after answers
    obtain ⟨told, left, -, -⟩ := ScriptedSink.of_write answers
    rw [left]
    cases script : before.script with
    | nil =>
      rw [script] at told
      subst told
      exact ⟨Nat.le_refl _, nofun⟩
    | cons first rest =>
      rw [script] at told
      obtain rfl : answer = first := told
      refine ⟨(List.sublist_cons_self ..).countP_le, fun interrupted => ?_⟩
      rw [List.tail_cons, List.countP_cons_of_pos interrupted]
      exact Nat.lt_succ_self _

theorem deliverScripted_run (data : Bytes) (script : List (Except Errno Nat)) :
    ∃ events sink result, deliverScripted data script = (some result, sink) ∧
      World.scripted.Run (.ofScript script)
        (deliver .output (data.length + script.length) data) events sink (.done result) ∧
      Delivery .output data events result := by
  have enough : data.length + (ScriptedSink.ofScript script).script.countP Offer.isInterruption ≤
      data.length + script.length := Nat.add_le_add_left List.countP_le_length _
  obtain ⟨events, sink, result, run, delivery⟩ :=
    (deliver_ends (World.scripted_tires .output) enough).finishes
  exact ⟨events, sink, result, ScriptedSink.run_of_finished run, run, delivery⟩

/-- What a delivery of data against a script has come to after some offers. -/
structure Underway (data : Bytes) (script : List (Except Errno Nat)) (events : List Event)
    (sink : ScriptedSink) : Prop where
  offers : ∀ earlier event later, events = earlier ++ event :: later →
    ∃ chunk, chunk ≠ [] ∧ bytesTaken .output earlier ++ chunk = data ∧
      event = ⟨.write .output chunk, script[earlier.length]?.getD (.ok chunk.length)⟩
  beyond : ∀ earlier chunk count later,
    events = earlier ++ ⟨.write .output chunk, .ok count⟩ :: later → chunk.length ≤ count →
      later = [] ∧ sink.bytes = data
  lengths : sink.offers.reverse = events.map (·.offered.length)
  concatenated : sink.bytes = bytesTaken .output events
  ofFront : sink.bytes <+: data

/-- What a delivery of data against a script has come to when it is done. -/
structure Verdict (data : Bytes) (script : List (Except Errno Nat)) (events : List Event)
    (sink : ScriptedSink) (result : Except Errno Unit) : Prop where
  succeeds_iff : result = .ok () ↔ sink.bytes = data
  short : ∀ e, result = .error e → sink.bytes <+: data ∧ sink.bytes.length < data.length
  blamed : ∀ e, result = .error e → ∃ passed answer left, script = passed ++ answer :: left ∧
    (∀ other ∈ passed, Offer.failure? other = none) ∧ Offer.failure? answer = some e ∧
      events.length = passed.length + 1

theorem underway_of_run {patience : Nat} {events : List Event} {sink : ScriptedSink}
    {rest : Program (Except Errno Unit)}
    (run : World.scripted.Run (.ofScript script) (deliver .output patience data) events sink rest) :
    Underway data script events sink := by
  obtain ⟨more, result, delivery⟩ := (deliver_shaped patience data).run run
  have answered := ScriptedSink.answeredBy_of_run run
  have only : ∀ event ∈ events, ∃ chunk answer, event = ⟨.write .output chunk, answer⟩ := by
    intro event member
    obtain ⟨chunk, answer, same, -⟩ := delivery.offers_only (List.mem_append_left more member)
    exact ⟨chunk, answer, same⟩
  have records := ScriptedSink.records_of_run run only
  have lengths : sink.offers.reverse = events.map (·.offered.length) := records.1
  have bytes : sink.bytes = bytesTaken .output events := records.2
  have front : bytesTaken .output events <+: data := by
    have all := delivery.taken_prefix
    rw [bytesTaken, List.flatMap_append] at all
    exact (List.prefix_append _ _).trans all
  refine ⟨?_, ?_, lengths, bytes, bytes ▸ front⟩
  · rintro earlier event later rfl
    rw [List.append_assoc, List.cons_append] at delivery
    obtain ⟨chunk, answer, rfl, some, split⟩ := delivery.offers_rest
    exact ⟨chunk, some, split, by rw [answered.getElem]; rfl⟩
  · rintro earlier chunk count later rfl whole
    rw [List.append_assoc, List.cons_append] at delivery
    obtain ⟨none, all⟩ := delivery.ends_of_whole whole
    obtain ⟨rfl, -⟩ := List.append_eq_nil_iff.mp none
    have taken : sink.bytes = bytesTaken .output earlier ++ accepted chunk (.ok count) := by
      simpa [bytesTaken, Event.taken] using bytes
    exact ⟨rfl, taken.trans all⟩

/-- Against every script a delivery comes to a result, and never to success with anything left
over: each moment of it is as `Underway` tells, and its end as `Verdict` does. -/
theorem delivery_never_succeeds_short (data : Bytes) (script : List (Except Errno Nat)) :
    (∀ events sink rest, World.scripted.Run (.ofScript script)
      (deliver .output (data.length + script.length) data) events sink rest →
        Underway data script events sink) ∧
    ∃ events sink result, deliverScripted data script = (some result, sink) ∧
      World.scripted.Run (.ofScript script)
        (deliver .output (data.length + script.length) data) events sink (.done result) ∧
      Verdict data script events sink result := by
  refine ⟨fun events sink rest => underway_of_run, ?_⟩
  obtain ⟨events, sink, result, computed, run, delivery⟩ := deliverScripted_run data script
  have underway := underway_of_run run
  have succeeds : result = .ok () ↔ sink.bytes = data := by
    rw [underway.concatenated]
    exact delivery.succeeds_iff
  refine ⟨events, sink, result, computed, run, succeeds, ?_, ?_⟩
  · rintro e rfl
    have unequal : sink.bytes ≠ data := fun all => absurd (succeeds.mpr all) nofun
    refine ⟨underway.ofFront, Nat.lt_of_le_of_ne underway.ofFront.length_le fun same => ?_⟩
    exact unequal (underway.ofFront.eq_of_length same)
  · rintro e rfl
    obtain ⟨earlier, last, rfl, fails, passing⟩ := delivery.fails_last
    obtain ⟨chunk, some, -, same⟩ := underway.offers earlier last [] rfl
    have nonempty : last.offered ≠ [] := by
      rw [same]
      exact some
    obtain ⟨passed, answer, left, split, count, before, blamed⟩ :=
      (ScriptedSink.answeredBy_of_run run).blames nonempty fails passing
    exact ⟨passed, answer, left, split, before, blamed, by simp [count]⟩

def stalledScript : List (Except Errno Nat) :=
  [.error .interrupted, .ok 2, .error .interrupted, .ok 0, .ok 9]

theorem stalledScript_fails_short :
    ∃ events sink, deliverScripted [1, 2, 3] stalledScript = (some (.error .inputOutput), sink) ∧
      sink.bytes = [1, 2] ∧ sink.offers.reverse = [3, 3, 1, 1] ∧
      Underway [1, 2, 3] stalledScript events sink ∧
      Verdict [1, 2, 3] stalledScript events sink (.error .inputOutput) := by
  obtain ⟨always, events, sink, result, computed, run, verdict⟩ :=
    delivery_never_succeeds_short [1, 2, 3] stalledScript
  have outcome : deliverScripted [1, 2, 3] stalledScript =
      (some (.error .inputOutput), ⟨[.ok 9], [1, 1, 3, 3], [[], [1, 2]]⟩) := by rfl
  rw [outcome] at computed
  cases computed
  exact ⟨events, _, outcome, rfl, rfl, always _ _ _ run, verdict⟩

end TerminalRelay
