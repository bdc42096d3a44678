import TerminalRelay.Proofs.Host.Signals
import TerminalRelay.Proofs.Runs

/-! The near side of a session: the attributes of the user's terminal and the signals of the
thread. Only the program changes them, save that resizes are announced at any moment. -/

namespace TerminalRelay

structure NearSide where
  attributes : Attributes
  signals : Host.Signals

namespace NearSide

/-- The flags that the resize signal raises, the newest first. Each has a handler of its own. -/
def handlers (side : NearSide) : List Nat :=
  side.signals.flags.map (·.1)

def arrangement (side : NearSide) : Attributes × SignalSet × List Nat :=
  (side.attributes, side.signals.mask, side.handlers)

end NearSide

/-- A world in which requests are answered as the near side allows, or refused, and the terminal
may be resized at any moment. Whatever does not belong to the near side gets any answer. -/
def World.nearSide : World NearSide where
  outside request before after :=
    after = { before with signals := before.signals.raise } ∨
      ∃ near far mask, request = .wait near far mask ∧
        after = { before with signals := before.signals.during mask }
  answers before request answer after :=
    match request, answer with
    | .readAttributes .terminal, .ok found => found = before.attributes ∧ after = before
    | .writeAttributes .terminal given, .ok () => after = { before with attributes := given }
    | .block signals, .ok previous =>
      previous = before.signals.mask ∧
        after = { before with signals := before.signals.block signals }
    | .setMask mask, .ok () => after = { before with signals := before.signals.setMask mask }
    | .watchResize, .ok flag =>
      flag = before.signals.watch.1 ∧ after = { before with signals := before.signals.watch.2 }
    | .unwatchResize flag, () => after = { before with signals := before.signals.unwatch flag }
    | .takeFlag flag, raised =>
      raised = (before.signals.take flag).1 ∧
        after = { before with signals := (before.signals.take flag).2 }
    | .wait _ _ mask, _ =>
      after = before ∨ after = { before with signals := before.signals.during mask }
    | _, _ => after = before

namespace Host.Signals

@[simp] theorem settle_mask (signals : Signals) : signals.settle.mask = signals.mask := by
  unfold settle
  split <;> rfl

@[simp] theorem settle_next (signals : Signals) : signals.settle.next = signals.next := by
  unfold settle
  split <;> rfl

@[simp] theorem settle_handlers (signals : Signals) :
    signals.settle.flags.map (·.1) = signals.flags.map (·.1) := by
  unfold settle
  split
  · rw [List.map_map]
    rfl
  · rfl

end Host.Signals

namespace World
variable {request : Request} {before after : NearSide}

theorem nearSide_outside_keeps (happens : nearSide.outside request before after) :
    after.arrangement = before.arrangement := by
  obtain rfl | ⟨near, far, mask, -, rfl⟩ := happens
  · simp [NearSide.arrangement, NearSide.handlers, Host.Signals.raise]
  · simp [NearSide.arrangement, NearSide.handlers, Host.Signals.during, Host.Signals.setMask]

theorem nearSide_drifts_keeps (drifts : nearSide.Drifts request before after) :
    after.arrangement = before.arrangement := by
  induction drifts with
  | refl => rfl
  | tail _ happens ih => exact (nearSide_outside_keeps happens).trans ih

end World
end TerminalRelay
