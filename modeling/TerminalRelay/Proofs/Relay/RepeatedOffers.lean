import TerminalRelay.Proofs.Relay.ScriptedDelivery
import TerminalRelay.Proofs.Relay.SideBySide

/-! Interruptions make no difference to a delivery. Without them it is the same delivery, answered
by the script without its interruptions; with them an offer is made once more for each. -/

namespace TerminalRelay

def uninterrupted (script : List (Except Errno Nat)) : List (Except Errno Nat) :=
  script.filter (!Offer.isInterruption ·)

/-- The lengths of offers, each once more for every interruption that the offer meets in a
script. -/
def repeated : List (Except Errno Nat) → List Nat → List Nat
  | _, [] => []
  | [], offers => offers
  | answer :: script, offer :: offers =>
    if Offer.isInterruption answer then offer :: repeated script (offer :: offers)
    else offer :: repeated script offers

def settledOffers (events : List Event) : List Event :=
  events.filter (!·.isInterruption)

variable {sink : Descriptor} {data : Bytes} {script : List (Except Errno Nat)}
  {events others : List Event} {result outcome : Except Errno Unit}

theorem settledOffers_of_interruption {chunk : Bytes} {answer : Except Errno Nat}
    (again : Offer.isInterruption answer) (events : List Event) :
    settledOffers (⟨.write sink chunk, answer⟩ :: events) = settledOffers events :=
  List.filter_cons_of_neg (by simpa [Event.isInterruption] using again)

theorem settledOffers_of_not {chunk : Bytes} {answer : Except Errno Nat}
    (once : Offer.isInterruption answer = false) (events : List Event) :
    settledOffers (⟨.write sink chunk, answer⟩ :: events) =
      ⟨.write sink chunk, answer⟩ :: settledOffers events :=
  List.filter_cons_of_pos (by simpa [Event.isInterruption] using once)

theorem bytesTaken_settledOffers (sink : Descriptor) (events : List Event) :
    bytesTaken sink (settledOffers events) = bytesTaken sink events := by
  refine bytesTaken_kept (fun event dropped => ?_) events
  obtain ⟨request, answer⟩ := event
  cases request with
  | write device chunk =>
    cases answer with
    | ok count => cases dropped
    | error e => exact ite_self _
  | _ => rfl

namespace Delivery

theorem settled (delivery : Delivery sink data events result) :
    Delivery sink data (settledOffers events) result := by
  induction delivery with
  | complete => exact .complete
  | failed some fails =>
    have once := Offer.not_isInterruption_of_failure? (Offer.failure?_of_fails fails)
    rw [settledOffers_of_not once]
    exact .failed some fails
  | @offered chunk answer rest events result some goesOn delivery ih =>
    cases again : Offer.isInterruption answer with
    | true =>
      rw [settledOffers_of_interruption again]
      exact Offer.rest_of_interruption goesOn again ▸ ih
    | false =>
      rw [settledOffers_of_not again]
      exact .offered some goesOn ih

theorem settledOffers_ne_nil (delivery : Delivery sink data events result) (some : data ≠ []) :
    settledOffers events ≠ [] := by
  intro none
  have settled := delivery.settled
  rw [none] at settled
  cases settled
  exact some rfl

end Delivery

namespace AnsweredBy

theorem of_cons {chunk : Bytes} {answer : Except Errno Nat}
    (answered : AnsweredBy script (⟨.write sink chunk, answer⟩ :: events)) :
    answer = script.head?.getD (.ok chunk.length) ∧ AnsweredBy script.tail events := by
  cases answered with
  | next rest => exact ⟨rfl, rest⟩

theorem settled (answered : AnsweredBy script events) :
    AnsweredBy (uninterrupted script) (settledOffers events) := by
  induction answered with
  | nothing => exact .nothing
  | @next script sink chunk events _ ih =>
    cases script with
    | nil => exact .next ih
    | cons answer script =>
      change AnsweredBy _ (settledOffers (⟨.write sink chunk, answer⟩ :: events))
      cases again : Offer.isInterruption answer with
      | true =>
        have dropped : uninterrupted (answer :: script) = uninterrupted script :=
          List.filter_cons_of_neg (by simpa using again)
        rw [dropped, settledOffers_of_interruption again]
        exact ih
      | false =>
        have kept : uninterrupted (answer :: script) = answer :: uninterrupted script :=
          List.filter_cons_of_pos (by simpa using again)
        rw [kept, settledOffers_of_not again]
        exact .next ih

theorem length_eq (answered : AnsweredBy script events) :
    events.length = (settledOffers events).length +
      (script.take events.length).countP Offer.isInterruption := by
  induction answered with
  | nothing => simp [settledOffers]
  | @next script sink chunk events _ ih =>
    cases script with
    | nil =>
      rw [List.tail_nil, List.take_nil, List.countP_nil] at ih
      have kept : settledOffers (⟨.write sink chunk, .ok chunk.length⟩ :: events) =
          ⟨.write sink chunk, .ok chunk.length⟩ :: settledOffers events :=
        settledOffers_of_not rfl events
      rw [List.take_nil, List.countP_nil, List.length_cons, ih]
      exact congrArg List.length kept.symm
    | cons answer script =>
      change _ = (settledOffers (⟨.write sink chunk, answer⟩ :: events)).length + _
      rw [List.length_cons, List.take_succ_cons, List.countP_cons]
      rw [List.tail_cons] at ih
      cases again : Offer.isInterruption answer with
      | true =>
        rw [settledOffers_of_interruption again, if_pos rfl]
        omega
      | false =>
        rw [settledOffers_of_not again, List.length_cons, if_neg Bool.false_ne_true]
        omega

end AnsweredBy

theorem Delivery.unique (delivery : Delivery sink data events result)
    (answered : AnsweredBy script events) (other : Delivery sink data others outcome)
    (too : AnsweredBy script others) : events = others ∧ result = outcome := by
  induction delivery generalizing script others outcome with
  | complete =>
    obtain ⟨rfl, rfl⟩ := other.of_nothing
    exact ⟨rfl, rfl⟩
  | failed some fails =>
    obtain ⟨rfl, -⟩ := answered.of_cons
    cases other with
    | complete => exact absurd rfl some
    | failed _ failsToo =>
      obtain ⟨rfl, -⟩ := too.of_cons
      cases fails.symm.trans failsToo
      exact ⟨rfl, rfl⟩
    | offered _ goesOn _ =>
      obtain ⟨rfl, -⟩ := too.of_cons
      cases fails.symm.trans goesOn
  | offered some goesOn _ ih =>
    obtain ⟨rfl, rest⟩ := answered.of_cons
    cases other with
    | complete => exact absurd rfl some
    | failed _ fails =>
      obtain ⟨rfl, -⟩ := too.of_cons
      cases fails.symm.trans goesOn
    | offered _ goesOnToo onward =>
      obtain ⟨rfl, later⟩ := too.of_cons
      cases goesOn.symm.trans goesOnToo
      obtain ⟨rfl, rfl⟩ := ih rest onward later
      exact ⟨rfl, rfl⟩

/-- The offers of a delivery are those that were not interrupted, each with its repetitions. -/
theorem Delivery.repeats (delivery : Delivery sink data events result)
    (answered : AnsweredBy script events) :
    events.map (·.offered.length) =
      repeated script ((settledOffers events).map (·.offered.length)) := by
  induction delivery generalizing script with
  | complete => cases script <;> rfl
  | @failed chunk answer e some fails =>
    obtain ⟨told, -⟩ := answered.of_cons
    have once := Offer.not_isInterruption_of_failure? (Offer.failure?_of_fails fails)
    rw [settledOffers_of_not once]
    cases script with
    | nil => rfl
    | cons first script =>
      obtain rfl : answer = first := told
      simp [repeated, once, settledOffers]
  | @offered chunk answer rest events result some goesOn delivery ih =>
    obtain ⟨told, later⟩ := answered.of_cons
    cases script with
    | nil =>
      obtain rfl : answer = .ok chunk.length := told
      obtain rfl : [] = rest := Sum.inr.inj ((afterOffer_whole some).symm.trans goesOn)
      obtain ⟨rfl, -⟩ := delivery.of_nothing
      rfl
    | cons first script =>
      obtain rfl : answer = first := told
      rw [List.map_cons, ih later, List.tail_cons]
      cases again : Offer.isInterruption answer with
      | true =>
        obtain rfl := Offer.rest_of_interruption goesOn again
        obtain ⟨event, others, settled⟩ :=
          List.exists_cons_of_ne_nil (delivery.settledOffers_ne_nil some)
        have onward := delivery.settled
        rw [settled] at onward
        obtain ⟨-, other, rfl⟩ := onward.offers_first
        rw [settledOffers_of_interruption again, settled]
        exact (if_pos again).symm
      | false =>
        rw [settledOffers_of_not again]
        exact (if_neg (Bool.eq_false_iff.mp again)).symm

/-- However a script is interrupted, a delivery against it comes to the same result and the same
bytes, and its offers are only repeated, once for each interruption that is met. -/
theorem interruptions_leave_delivery_alone (data : Bytes) (script : List (Except Errno Nat)) :
    ∃ result sink, deliverScripted data (uninterrupted script) = (some result, sink) ∧
      ∀ other, uninterrupted other = uninterrupted script →
        ∃ disturbed, deliverScripted data other = (some result, disturbed) ∧
          disturbed.bytes = sink.bytes ∧
          disturbed.offers.reverse = repeated other sink.offers.reverse ∧
          disturbed.offers.length = sink.offers.length +
            (other.take disturbed.offers.length).countP Offer.isInterruption := by
  obtain ⟨events, sink, result, computed, run, delivery⟩ :=
    deliverScripted_run data (uninterrupted script)
  have quiet := underway_of_run run
  refine ⟨result, sink, computed, fun other same => ?_⟩
  obtain ⟨others, disturbed, outcome, computedToo, runToo, deliveryToo⟩ :=
    deliverScripted_run data other
  have noisy := underway_of_run runToo
  have answered := ScriptedSink.answeredBy_of_run runToo
  have settled : AnsweredBy (uninterrupted script) (settledOffers others) :=
    same ▸ answered.settled
  obtain ⟨rfl, rfl⟩ :=
    delivery.unique (ScriptedSink.answeredBy_of_run run) deliveryToo.settled settled
  have fewer : sink.offers.length = (settledOffers others).length := by
    rw [← List.length_reverse, quiet.lengths, List.length_map]
  have more : disturbed.offers.length = others.length := by
    rw [← List.length_reverse, noisy.lengths, List.length_map]
  refine ⟨disturbed, computedToo, ?_, ?_, ?_⟩
  · rw [noisy.concatenated, quiet.concatenated, bytesTaken_settledOffers]
  · rw [noisy.lengths, quiet.lengths]
    exact deliveryToo.repeats answered
  · rw [fewer, more]
    exact answered.length_eq

/-- A script with an interruption before the first byte, two before its end, and one past it. -/
theorem three_offers_interrupted :
    ∃ disturbed,
      deliverScripted [1, 2, 3] [.error .interrupted, .ok 2, .error .interrupted,
        .error .interrupted, .ok 1, .error .interrupted] = (some (.ok ()), disturbed) ∧
      disturbed.bytes = [1, 2, 3] ∧ disturbed.offers.reverse = repeated
        [.error .interrupted, .ok 2, .error .interrupted, .error .interrupted, .ok 1,
          .error .interrupted] [3, 1] ∧ disturbed.offers.reverse = [3, 3, 1, 1, 1] := by
  obtain ⟨result, sink, computed, each⟩ := interruptions_leave_delivery_alone [1, 2, 3] [.ok 2, .ok 1]
  have outcome : deliverScripted [1, 2, 3] (uninterrupted [.ok 2, .ok 1]) =
      (some (.ok ()), ⟨[], [1, 3], [[3], [1, 2]]⟩) := by rfl
  rw [outcome] at computed
  cases computed
  have same : uninterrupted [.error .interrupted, .ok 2, .error .interrupted,
      .error .interrupted, .ok 1, .error .interrupted] = uninterrupted [.ok 2, .ok 1] := by rfl
  obtain ⟨disturbed, computed, bytes, offers, -⟩ := each _ same
  exact ⟨disturbed, computed, bytes, offers, offers⟩

end TerminalRelay
