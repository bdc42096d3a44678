import TerminalRelay.Proofs.Outcomes
import TerminalRelay.Proofs.Relay.Rounds

/-! What the offers of a delivery come to. Each offers just what was not taken before, so what
is taken is always the front of the chunk, and it is the whole chunk just if the delivery
succeeds. Each offer but the last takes something or is interrupted, so that a delivery ends
unless it is interrupted for ever. -/

namespace TerminalRelay

namespace Offer

def isInterruption : Except Errno Nat → Bool
  | .error e => e = .interrupted
  | .ok _ => false

def failure? : Except Errno Nat → Option Errno
  | .ok 0 => some .inputOutput
  | .ok (_ + 1) => none
  | .error e => if e = .interrupted then none else some e

variable {chunk rest : Bytes} {answer : Except Errno Nat} {e : Errno}

theorem failure?_of_fails (fails : afterOffer chunk answer = .inl (.error e)) :
    failure? answer = some e := by
  match answer with
  | .ok 0 =>
    cases fails
    rfl
  | .ok (_ + 1) => cases fails
  | .error other =>
    simp only [afterOffer] at fails
    split at fails
    · cases fails
    · next serious =>
      cases fails
      exact if_neg serious

theorem failure?_of_goesOn (goesOn : afterOffer chunk answer = .inr rest) :
    failure? answer = none := by
  match answer with
  | .ok 0 => cases goesOn
  | .ok (_ + 1) => rfl
  | .error other =>
    simp only [afterOffer] at goesOn
    split at goesOn
    · next interrupted => exact if_pos interrupted
    · cases goesOn

theorem cases_goesOn (goesOn : afterOffer chunk answer = .inr rest) :
    (isInterruption answer ∧ rest = chunk) ∨
      ∃ count, answer = .ok (count + 1) ∧ rest = chunk.drop (count + 1) := by
  match answer with
  | .ok 0 => cases goesOn
  | .ok (count + 1) => exact .inr ⟨count, rfl, (Sum.inr.inj goesOn).symm⟩
  | .error other =>
    simp only [afterOffer] at goesOn
    split at goesOn
    · next interrupted => exact .inl ⟨decide_eq_true interrupted, (Sum.inr.inj goesOn).symm⟩
    · cases goesOn

theorem rest_of_interruption (goesOn : afterOffer chunk answer = .inr rest)
    (again : isInterruption answer) : rest = chunk := by
  rcases cases_goesOn goesOn with ⟨-, same⟩ | ⟨count, rfl, -⟩
  · exact same
  · cases again

theorem not_isInterruption_of_failure? (fails : failure? answer = some e) :
    isInterruption answer = false := by
  match answer with
  | .ok _ => rfl
  | .error other =>
    refine decide_eq_false fun interrupted => ?_
    rw [failure?, if_pos interrupted] at fails
    cases fails

end Offer

namespace Event

def offered : Event → Bytes
  | ⟨.write _ chunk, _⟩ => chunk
  | _ => []

def isInterruption : Event → Bool
  | ⟨.write _ _, answer⟩ => Offer.isInterruption answer
  | _ => false

def failure? : Event → Option Errno
  | ⟨.write _ _, answer⟩ => Offer.failure? answer
  | _ => none

end Event

namespace Delivery
variable {sink : Descriptor} {data : Bytes} {events earlier later : List Event} {event : Event}
  {result : Except Errno Unit} {e : Errno}

theorem of_nothing (delivery : Delivery sink [] events result) : events = [] ∧ result = .ok () := by
  cases delivery with
  | complete => exact ⟨rfl, rfl⟩
  | failed some _ => exact absurd rfl some
  | offered some _ _ => exact absurd rfl some

theorem goesOn (delivery : Delivery sink data (earlier ++ event :: later) result) :
    ∃ rest, bytesTaken sink earlier ++ rest = data ∧
      Delivery sink rest (event :: later) result := by
  generalize whole : earlier ++ event :: later = events at delivery
  induction delivery generalizing earlier with
  | complete => exact absurd whole (List.append_ne_nil_of_right_ne_nil _ (List.cons_ne_nil _ _))
  | @failed chunk answer e some fails =>
    cases earlier with
    | nil =>
      rw [List.nil_append] at whole
      exact ⟨chunk, rfl, whole ▸ .failed some fails⟩
    | cons first others =>
      have none : others ++ event :: later = [] := (List.cons.inj whole).2
      exact absurd none (List.append_ne_nil_of_right_ne_nil _ (List.cons_ne_nil _ _))
  | @offered chunk answer rest events result some goesOn delivery ih =>
    cases earlier with
    | nil =>
      rw [List.nil_append] at whole
      exact ⟨chunk, rfl, whole ▸ .offered some goesOn delivery⟩
    | cons first others =>
      obtain ⟨rfl, onward⟩ := List.cons.inj whole
      obtain ⟨left, split, continues⟩ := ih onward
      refine ⟨left, ?_, continues⟩
      rw [bytesTaken_cons, List.append_assoc, split, Event.taken, if_pos rfl]
      exact accepted_append goesOn

theorem offers_first (delivery : Delivery sink data (event :: later) result) :
    data ≠ [] ∧ ∃ answer, event = ⟨.write sink data, answer⟩ := by
  cases delivery with
  | failed some _ => exact ⟨some, _, rfl⟩
  | offered some _ _ => exact ⟨some, _, rfl⟩

/-- Each offer of a delivery is what was not taken before it, and that is never nothing. -/
theorem offers_rest (delivery : Delivery sink data (earlier ++ event :: later) result) :
    ∃ chunk answer, event = ⟨.write sink chunk, answer⟩ ∧ chunk ≠ [] ∧
      bytesTaken sink earlier ++ chunk = data := by
  obtain ⟨rest, split, continues⟩ := delivery.goesOn
  obtain ⟨some, answer, same⟩ := continues.offers_first
  exact ⟨rest, answer, same, some, split⟩

theorem offers_only (delivery : Delivery sink data events result) (member : event ∈ events) :
    ∃ chunk answer, event = ⟨.write sink chunk, answer⟩ ∧ chunk <:+ data := by
  obtain ⟨earlier, later, rfl⟩ := List.append_of_mem member
  obtain ⟨chunk, answer, same, -, split⟩ := delivery.offers_rest
  exact ⟨chunk, answer, same, _, split⟩

theorem taken_prefix (delivery : Delivery sink data events result) :
    bytesTaken sink events <+: data := by
  induction delivery with
  | complete => exact List.nil_prefix
  | failed some fails =>
    rw [bytesTaken_cons, Event.taken, if_pos rfl, accepted_of_fails fails]
    exact List.nil_prefix
  | @offered chunk answer rest events _ some goesOn _ ih =>
    have front : accepted chunk answer ++ bytesTaken sink events <+: accepted chunk answer ++ rest :=
      (List.prefix_append_right_inj _).mpr ih
    rw [accepted_append goesOn] at front
    rwa [bytesTaken_cons, Event.taken, if_pos rfl]

/-- A delivery succeeds just if all of the chunk was taken. -/
theorem succeeds_iff (delivery : Delivery sink data events result) :
    result = .ok () ↔ bytesTaken sink events = data := by
  induction delivery with
  | complete => exact ⟨fun _ => rfl, fun _ => rfl⟩
  | failed some fails =>
    rw [bytesTaken_cons, Event.taken, if_pos rfl, accepted_of_fails fails]
    refine ⟨fun succeeded => ?_, fun all => absurd all.symm some⟩
    cases succeeded
  | offered some goesOn _ ih =>
    have split := accepted_append goesOn
    rw [ih, bytesTaken_cons, Event.taken, if_pos rfl]
    constructor
    · rintro rfl
      exact split
    · exact fun all => List.append_cancel_left (all.trans split.symm)

theorem fails_last (delivery : Delivery sink data events (.error e)) :
    ∃ earlier last, events = earlier ++ [last] ∧ last.failure? = some e ∧
      ∀ event ∈ earlier, event.failure? = none := by
  generalize failed : Except.error e = result at delivery
  induction delivery with
  | complete => cases failed
  | failed some fails =>
    cases failed
    exact ⟨[], _, rfl, Offer.failure?_of_fails fails, fun _ none => absurd none List.not_mem_nil⟩
  | offered some goesOn _ ih =>
    obtain ⟨earlier, last, rfl, fails, others⟩ := ih failed
    refine ⟨_ :: earlier, last, rfl, fails, List.forall_mem_cons.mpr ⟨?_, others⟩⟩
    exact Offer.failure?_of_goesOn goesOn

theorem ends_of_whole {chunk : Bytes} {count : Nat}
    (delivery : Delivery sink data (earlier ++ ⟨.write sink chunk, .ok count⟩ :: later) result)
    (beyond : chunk.length ≤ count) :
    later = [] ∧ bytesTaken sink earlier ++ accepted chunk (.ok count) = data := by
  obtain ⟨rest, split, continues⟩ := delivery.goesOn
  obtain ⟨some, answer, same⟩ := continues.offers_first
  cases same
  have whole : accepted chunk (.ok count) = chunk := List.take_of_length_le beyond
  refine ⟨?_, by rw [whole, split]⟩
  cases continues with
  | failed _ fails =>
    have nothing : accepted chunk (.ok count) = [] := accepted_of_fails fails
    exact absurd (whole.symm.trans nothing) some
  | offered _ goesOn rest =>
    have left := accepted_append goesOn
    rw [whole] at left
    obtain rfl := List.append_right_eq_self.mp left
    exact rest.of_nothing.1

theorem length_le (delivery : Delivery sink data events result) :
    events.length ≤ data.length + events.countP Event.isInterruption := by
  induction delivery with
  | complete => exact Nat.le_refl _
  | failed some fails =>
    have positive := List.length_pos_iff.mpr some
    rw [List.length_singleton]
    omega
  | @offered chunk answer rest events _ some goesOn _ ih =>
    have positive := List.length_pos_iff.mpr some
    rw [List.length_cons]
    rcases Offer.cases_goesOn goesOn with ⟨interrupted, rfl⟩ | ⟨count, rfl, rfl⟩
    · have again : Event.isInterruption ⟨.write sink rest, answer⟩ := interrupted
      rw [List.countP_cons_of_pos again]
      omega
    · have once : ¬ Event.isInterruption ⟨.write sink chunk, .ok (count + 1)⟩ := nofun
      rw [List.countP_cons_of_neg once]
      rw [List.length_drop] at ih
      omega

end Delivery

/-- A world that answers every write to a sink, and that can interrupt only so many more of them
as a measure of its state says. -/
structure World.Tires {State : Type} (world : World State) (sink : Descriptor)
    (left : State → Nat) : Prop where
  still : ∀ {request before after}, ¬ world.outside request before after
  answered : ∀ state chunk, ∃ answer after, world.answers state (.write sink chunk) answer after
  spends : ∀ {chunk answer before after},
    world.answers before (.write sink chunk) answer after → left after ≤ left before ∧
      (Offer.isInterruption answer → left after < left before)

/-- A delivery comes to its end if the patience covers the chunk and the interruptions to come. -/
theorem deliver_ends {State : Type} {world : World State} {sink : Descriptor} {left : State → Nat}
    (tires : world.Tires sink left) {patience : Nat} {chunk : Bytes} {state : State}
    (enough : chunk.length + left state ≤ patience) :
    world.Brings state (deliver sink patience chunk) fun events _ result =>
      Delivery sink chunk events result := by
  induction patience generalizing chunk state with
  | zero =>
    obtain rfl : chunk = [] := List.length_eq_zero_iff.mp (by omega)
    exact .complete
  | succ patience ih =>
    by_cases none : chunk = []
    · subst none
      exact .complete
    · have positive := List.length_pos_iff.mpr none
      rw [deliver_offer sink patience none]
      apply World.Brings.ask tires.still (tires.answered state chunk)
      intro answer after answers
      obtain ⟨fewer, spent⟩ := tires.spends answers
      cases offered : afterOffer chunk answer with
      | inl result =>
        obtain ⟨e, rfl⟩ := afterOffer_fails offered
        exact Delivery.failed none offered
      | inr rest =>
        have covered : rest.length + left after ≤ patience := by
          rcases Offer.cases_goesOn offered with ⟨interrupted, rfl⟩ | ⟨count, rfl, rfl⟩
          · have less := spent interrupted
            omega
          · rw [List.length_drop]
            omega
        exact (ih covered).mono fun _ _ _ => Delivery.offered none offered

end TerminalRelay
