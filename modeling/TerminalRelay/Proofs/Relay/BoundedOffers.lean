import Mathlib.Data.Set.Finite.Basic
import TerminalRelay.Proofs.Relay.ScriptedDelivery

/-! How much work a delivery is. It makes at most one offer for each byte and one more for each
interruption, and what it offers gets shorter whenever something is taken. So it ends against
every script that interrupts it finitely often, also if the script itself never ends. -/

namespace TerminalRelay

def Event.accepts : Event → Bool
  | ⟨.write _ _, .ok count⟩ => 0 < count
  | _ => false

/-- What some writes of data to a sink come to. -/
structure BoundedWork (sink : Descriptor) (data : Bytes) (events : List Event) : Prop where
  offers : ∀ event ∈ events, ∃ chunk answer, event = ⟨.write sink chunk, answer⟩
  few : events.length ≤ data.length + events.countP Event.isInterruption
  idle : data = [] → events = []
  shrinking : events.Pairwise fun first second =>
    second.offered.length ≤ first.offered.length ∧
      (first.accepts → second.offered.length < first.offered.length)

namespace Delivery
variable {sink : Descriptor} {data : Bytes} {events : List Event} {result : Except Errno Unit}

theorem shrinks (delivery : Delivery sink data events result) :
    events.Pairwise fun first second => second.offered.length ≤ first.offered.length ∧
      (first.accepts → second.offered.length < first.offered.length) := by
  induction delivery with
  | complete => exact .nil
  | failed some fails => exact List.pairwise_singleton ..
  | @offered chunk answer rest events result some goesOn delivery ih =>
    refine List.pairwise_cons.mpr ⟨fun second member => ?_, ih⟩
    obtain ⟨offer, other, rfl, suffix⟩ := delivery.offers_only member
    have shorter : offer.length ≤ rest.length := suffix.length_le
    have positive := List.length_pos_iff.mpr some
    change offer.length ≤ chunk.length ∧ (_ → offer.length < chunk.length)
    rcases Offer.cases_goesOn goesOn with ⟨interrupted, rfl⟩ | ⟨count, rfl, rfl⟩
    · refine ⟨shorter, fun accepts => ?_⟩
      cases answer with
      | ok count => cases interrupted
      | error e => cases accepts
    · rw [List.length_drop] at shorter
      exact ⟨by omega, fun _ => by omega⟩

theorem bounded (delivery : Delivery sink data events result) : BoundedWork sink data events where
  offers event member := by
    obtain ⟨chunk, answer, same, -⟩ := delivery.offers_only member
    exact ⟨chunk, answer, same⟩
  few := delivery.length_le
  idle none := by
    subst none
    exact delivery.of_nothing.1
  shrinking := delivery.shrinks

end Delivery

/-- A host that answers one write after the other by a script without an end. The state says
how many writes were answered. -/
def World.endless (script : Nat → Except Errno Nat) : World Nat where
  outside _ _ _ := False
  answers before request answer after :=
    match request, answer with
    | .write _ _, answer => answer = script before ∧ after = before + 1
    | _, _ => False

theorem World.endless_tires {script : Nat → Except Errno Nat} (sink : Descriptor)
    (finite : {turn | Offer.isInterruption (script turn)}.Finite) :
    (World.endless script).Tires sink fun turn => (finite.toFinset.filter (turn ≤ ·)).card where
  still := id
  answered turn chunk := ⟨script turn, turn + 1, rfl, rfl⟩
  spends := by
    rintro chunk answer turn _ ⟨rfl, rfl⟩
    have fewer : finite.toFinset.filter (turn + 1 ≤ ·) ⊆ finite.toFinset.filter (turn ≤ ·) :=
      Finset.monotone_filter_right _ fun _ _ later => Nat.le_of_succ_le later
    refine ⟨Finset.card_le_card fewer, fun interrupted => Finset.card_lt_card ?_⟩
    refine (Finset.ssubset_iff_of_subset fewer).mpr ⟨turn, ?_, ?_⟩
    · exact Finset.mem_filter.mpr ⟨finite.mem_toFinset.mpr interrupted, Nat.le_refl turn⟩
    · exact fun member => absurd (Finset.mem_filter.mp member).2 (Nat.not_succ_le_self turn)

/-- Every delivery ends against a script that interrupts it finitely often, and with few offers:
against a script that ends, after which everything is taken, and against one that does not. -/
theorem delivery_takes_bounded_work (data : Bytes) :
    (∀ script : List (Except Errno Nat), ∃ events sink result,
      deliverScripted data script = (some result, sink) ∧
      World.scripted.Run (.ofScript script)
        (deliver .output (data.length + script.length) data) events sink (.done result) ∧
      sink.offers.reverse = events.map (·.offered.length) ∧ BoundedWork .output data events) ∧
    ∀ (script : Nat → Except Errno Nat)
      (finite : {turn | Offer.isInterruption (script turn)}.Finite) (sink : Descriptor)
      (patience : Nat), data.length + finite.toFinset.card ≤ patience →
        (World.endless script).Brings 0 (deliver sink patience data) fun events _ _ =>
          BoundedWork sink data events := by
  constructor
  · intro script
    obtain ⟨events, sink, result, computed, run, delivery⟩ := deliverScripted_run data script
    exact ⟨events, sink, result, computed, run, (underway_of_run run).lengths, delivery.bounded⟩
  · intro script finite sink patience enough
    have covered : data.length + (finite.toFinset.filter (0 ≤ ·)).card ≤ patience :=
      Nat.le_trans (Nat.add_le_add_left (Finset.card_filter_le ..) _) enough
    apply (deliver_ends (World.endless_tires sink finite) covered).mono
    exact fun _ _ _ delivery => delivery.bounded

def hesitantScript : Nat → Except Errno Nat
  | 1 => .error .interrupted
  | _ => .ok 1

theorem hesitantScript_finite :
    {turn | Offer.isInterruption (hesitantScript turn)}.Finite := by
  apply (Set.finite_singleton 1).subset
  intro turn interrupted
  match turn with
  | 0 => cases interrupted
  | 1 => rfl
  | _ + 2 => cases interrupted

theorem hesitantScript_bounded :
    (World.endless hesitantScript).Brings 0
      (deliver .output (3 + hesitantScript_finite.toFinset.card) [1, 2, 3])
      fun events _ _ => BoundedWork .output [1, 2, 3] events :=
  (delivery_takes_bounded_work [1, 2, 3]).2 hesitantScript hesitantScript_finite .output _
    (Nat.le_refl _)

end TerminalRelay
