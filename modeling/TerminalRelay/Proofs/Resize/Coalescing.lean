import Mathlib.Logic.Function.Basic
import TerminalRelay.Proofs.Resize.Screens

/-! Resizes become one. A tally beside the screens counts what a flag cannot tell: how many
resizes reached it since it was last taken. It is found raised just if there was one at least. -/

namespace TerminalRelay

/-- The resizes of a terminal: those held back while the signal is blocked, those that reached
each flag since it was last taken, and how many each taking found. -/
structure Tally where
  held : Nat
  reached : Nat → Nat
  found : List Nat

namespace Tally

def settle (signals : Host.Signals) (tally : Tally) : Tally :=
  if signals.pending then tally
  else
    { tally with
      held := 0
      reached := fun flag =>
        tally.reached flag + if signals.flags.any (·.1 = flag) then tally.held else 0 }

def announce (signals : Host.Signals) (tally : Tally) : Tally :=
  settle signals { tally with held := tally.held + 1 }

def lower (flag : Nat) (tally : Tally) : Tally :=
  { tally with reached := Function.update tally.reached flag 0 }

def take (flag : Nat) (tally : Tally) : Tally :=
  { tally.lower flag with found := tally.found ++ [tally.reached flag] }

def answered (signals : Host.Signals) (tally : Tally) : Request → Tally
  | .takeFlag flag => tally.take flag
  | .unwatchResize flag => tally.lower flag
  | _ => tally.settle signals

/-- A signal is pending, or a flag raised, just if it was counted. -/
structure Tells (signals : Host.Signals) (tally : Tally) : Prop where
  pending : signals.pending = true ↔ 0 < tally.held
  raised : ∀ flag, signals.Raised flag ↔ 0 < tally.reached flag

end Tally

theorem Tally.found_settle (signals : Host.Signals) (tally : Tally) :
    (tally.settle signals).found = tally.found := by
  unfold Tally.settle
  split <;> rfl

theorem Tally.found_answered (signals : Host.Signals) (tally : Tally) {request : Request}
    (other : ∀ flag, request ≠ .takeFlag flag) :
    (tally.answered signals request).found = tally.found := by
  cases request with
  | takeFlag flag => exact absurd rfl (other flag)
  | unwatchResize flag => rfl
  | _ => exact found_settle signals tally

/-- A world in which the terminal may be resized at any moment, and that is counted. -/
def World.tallying (target : Descriptor) : World (Screens × Tally) where
  outside request before after :=
    ((calm target).outside request before.1 after.1 ∧
        after.2 = before.2.settle after.1.signals) ∨
      ∃ reported, after.1 = before.1.resize reported ∧
        after.2 = before.2.announce after.1.signals
  answers before request answer after :=
    (calm target).answers before.1 request answer after.1 ∧
      after.2 = before.2.answered after.1.signals request

def Event.taking? : Event → Option Bool
  | ⟨.takeFlag _, raised⟩ => some raised
  | _ => none

def takings (events : List Event) : List Bool :=
  events.filterMap Event.taking?

namespace Tally.Tells
variable {signals : Host.Signals} {tally : Tally} {flag : Nat}

theorem held_eq_zero (tells : tally.Tells signals) (quiet : signals.pending = false) :
    tally.held = 0 := by
  have none : ¬ 0 < tally.held := by
    rw [← tells.pending, quiet]
    exact Bool.false_ne_true
  exact Nat.eq_zero_of_not_pos none

theorem settle_eq {after : Host.Signals} (tells : tally.Tells signals)
    (same : after.pending = signals.pending) : tally.settle after = tally := by
  unfold Tally.settle
  split
  · rfl
  · next quiet =>
    rw [same, Bool.not_eq_true] at quiet
    obtain ⟨held, reached, found⟩ := tally
    obtain rfl : held = 0 := tells.held_eq_zero quiet
    simp

theorem settle (tells : tally.Tells signals) :
    (tally.settle signals.settle).Tells signals.settle := by
  by_cases delivered : (signals.pending && !signals.mask.hasResize) = true
  · have sent : 0 < tally.held := tells.pending.mp (Bool.and_eq_true_iff.mp delivered).1
    rw [Host.Signals.settle, if_pos delivered, Tally.settle, if_neg Bool.false_ne_true]
    refine ⟨by simp, fun flag => ?_⟩
    have kept : (signals.flags.map fun entry => (entry.1, true)).any (·.1 = flag) =
        signals.flags.any (·.1 = flag) := List.any_map
    by_cases registered : signals.flags.any (·.1 = flag) = true
    · have raised : (flag, true) ∈ signals.flags.map fun entry => (entry.1, true) := by
        obtain ⟨entry, member, same⟩ := List.any_eq_true.mp registered
        exact List.mem_map.mpr ⟨entry, member, Prod.ext (of_decide_eq_true same) rfl⟩
      refine ⟨fun _ => ?_, fun _ => raised⟩
      simp only [kept, if_pos registered]
      exact Nat.add_pos_right _ sent
    · have absent (raised : Bool) : (flag, raised) ∉ signals.flags := fun member =>
        registered (List.any_eq_true.mpr ⟨_, member, decide_eq_true rfl⟩)
      have unreached : ¬ 0 < tally.reached flag := mt (tells.raised flag).mpr (absent true)
      simpa [Host.Signals.Raised, kept, registered, absent] using unreached
  · rw [Host.Signals.settle, if_neg delivered, tells.settle_eq rfl]
    exact tells

theorem raise (tells : tally.Tells signals) : (tally.announce signals.raise).Tells signals.raise := by
  have announced : Tells { signals with pending := true } { tally with held := tally.held + 1 } :=
    ⟨by simp, tells.raised⟩
  exact announced.settle

theorem setMask (tells : tally.Tells signals) (mask : SignalSet) :
    (tally.settle (signals.setMask mask)).Tells (signals.setMask mask) := by
  have masked : tally.Tells { signals with mask := mask.without Host.Signals.unblockable } :=
    ⟨tells.pending, tells.raised⟩
  exact masked.settle

theorem during (tells : tally.Tells signals) (mask : SignalSet) :
    (tally.settle (signals.during mask)).Tells (signals.during mask) :=
  ⟨(tells.setMask mask).pending, (tells.setMask mask).raised⟩

theorem still {after : Host.Signals} (tells : tally.Tells signals)
    (pending : after.pending = signals.pending)
    (raised : ∀ flag, after.Raised flag ↔ signals.Raised flag) :
    (tally.settle after).Tells after := by
  rw [tells.settle_eq pending]
  exact ⟨pending ▸ tells.pending, fun flag => (raised flag).trans (tells.raised flag)⟩

theorem lower {after : Host.Signals} (tells : tally.Tells signals)
    (pending : after.pending = signals.pending)
    (raised : ∀ other, after.Raised other ↔ signals.Raised other ∧ other ≠ flag) :
    (tally.lower flag).Tells after := by
  refine ⟨pending ▸ tells.pending, fun other => ?_⟩
  rw [raised, tells.raised]
  by_cases same : other = flag
  · simp [Tally.lower, same]
  · simp [Tally.lower, same]

theorem take (tells : tally.Tells signals) (flag : Nat) :
    (tally.take flag).Tells (signals.take flag).2 := by
  have lowered : (tally.lower flag).Tells (signals.take flag).2 := by
    refine tells.lower rfl fun other => ?_
    simp only [Host.Signals.take, Host.Signals.Raised]
    grind
  exact ⟨lowered.pending, lowered.raised⟩

theorem unwatch (tells : tally.Tells signals) (flag : Nat) :
    (tally.lower flag).Tells (signals.unwatch flag) := by
  refine tells.lower rfl fun other => ?_
  simp [Host.Signals.unwatch, Host.Signals.Raised]

end Tally.Tells

namespace World
variable {α : Type} {target : Descriptor} {before after : Screens × Tally} {request : Request}

theorem tallying_outside (tells : before.2.Tells before.1.signals)
    (happens : (tallying target).outside request before after) :
    after.2.Tells after.1.signals := by
  rcases happens with ⟨⟨near, far, mask, -, waited⟩, told⟩ | ⟨reported, resized, told⟩
  · rw [told, waited]
    exact tells.during mask
  · rw [told, resized]
    exact tells.raise

theorem tallying_answers {answer : request.Answer} (tells : before.2.Tells before.1.signals)
    (answers : (tallying target).answers before request answer after) :
    after.2.Tells after.1.signals := by
  obtain ⟨answered, told⟩ := answers
  have unchanged (same : after.1.signals = before.1.signals) :
      (before.2.settle after.1.signals).Tells after.1.signals := by
    rw [same]
    exact tells.still rfl fun _ => Iff.rfl
  rw [told]
  cases request with
  | readSize device =>
    cases device with
    | terminal => exact unchanged (congrArg Screens.signals answered.2)
    | _ => exact unchanged (congrArg Screens.signals answered)
  | writeSize device size =>
    refine unchanged ?_
    simp only [calm] at answered
    split at answered
    · rw [answered.2]
    · rw [answered]
  | block signals =>
    cases answer with
    | ok previous =>
      rw [answered.2]
      exact tells.setMask _
    | error e => exact unchanged (congrArg Screens.signals answered)
  | setMask mask =>
    cases answer with
    | ok _ =>
      rw [show after.1 = _ from answered]
      exact tells.setMask mask
    | error e => exact unchanged (congrArg Screens.signals answered)
  | watchResize =>
    cases answer with
    | ok flag =>
      rw [answered.2]
      exact tells.still rfl fun other => by simp [Host.Signals.watch, Host.Signals.Raised]
    | error failure => exact unchanged (congrArg Screens.signals answered)
  | unwatchResize flag =>
    rw [show after.1 = _ from answered]
    exact tells.unwatch flag
  | takeFlag flag =>
    rw [answered.2]
    exact tells.take flag
  | wait near far mask =>
    have waited : after.1 = before.1 ∨ after.1 = before.1.deliver mask := by
      cases answer with
      | ok ready => exact answered.2
      | error e => exact answered.symm.imp_left And.right
    rcases waited with same | delivered
    · exact unchanged (congrArg Screens.signals same)
    · rw [delivered]
      exact tells.during mask
  | _ => exact unchanged (congrArg Screens.signals answered)

/-- However a program is answered, a flag that it takes is found raised just if a resize reached
it since it was last taken. Resizes that reached it together are found as one. -/
theorem tallying_run {program rest : Program α} {events : List Event}
    (run : (tallying target).Run before program events after rest)
    (tells : before.2.Tells before.1.signals) :
    after.2.Tells after.1.signals ∧ ∃ found, after.2.found = before.2.found ++ found ∧
      takings events = found.map fun count => decide (0 < count) := by
  induction run with
  | here => exact ⟨tells, [], (List.append_nil _).symm, rfl⟩
  | @outside before between _ _ _ _ _ happens _ ih =>
    have same : between.2.found = before.2.found := by
      rcases happens with ⟨-, told⟩ | ⟨_, -, told⟩
      · rw [told, Tally.found_settle]
      · exact congrArg Tally.found told |>.trans (Tally.found_settle _ _)
    rw [← same]
    exact ih (tallying_outside tells happens)
  | @answered before between _ request _ _ _ answer answers _ ih =>
    obtain ⟨later, found, grown, taken⟩ := ih (tallying_answers tells answers)
    refine ⟨later, ?_⟩
    obtain ⟨answered, told⟩ := answers
    by_cases takes : ∃ flag, request = .takeFlag flag
    · obtain ⟨flag, rfl⟩ := takes
      refine ⟨before.2.reached flag :: found, ?_, ?_⟩
      · rw [grown, told]
        exact (List.append_cons _ _ _).symm
      · have raised : answer = decide (0 < before.2.reached flag) := by
          rw [Bool.eq_iff_iff, decide_eq_true_iff, ← tells.raised, ← Host.Signals.take_iff]
          exact iff_of_eq (congrArg (· = true) answered.1)
        rw [List.map_cons, ← taken, ← raised]
        rfl
    · have same : between.2.found = before.2.found := by
        rw [told]
        exact Tally.found_answered _ _ fun flag taken => takes ⟨flag, taken⟩
      have untaken : Event.taking? ⟨request, answer⟩ = none := by
        cases request with
        | takeFlag flag => exact absurd ⟨flag, rfl⟩ takes
        | _ => rfl
      refine ⟨found, grown.trans (congrArg (· ++ found) same), ?_⟩
      rw [takings, List.filterMap_cons_none untaken]
      exact taken

end World
end TerminalRelay
