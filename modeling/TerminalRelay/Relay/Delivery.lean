import TerminalRelay.Program.Basic

/-! Writing a chunk completely. A write may take less than it is offered and may be
interrupted; the rest is offered again until nothing is left or a write fails. -/

namespace TerminalRelay

/-- What one offer of a chunk leads to: the offer was the last one, or the rest is offered
next. An offer of which nothing is taken fails, so that success never leaves bytes over. -/
def afterOffer (chunk : Bytes) : Except Errno Nat → Except Errno Unit ⊕ Bytes
  | .ok 0 => .inl (.error .inputOutput)
  | .ok taken => .inr (chunk.drop taken)
  | .error e => if e = .interrupted then .inr chunk else .inl (.error e)

theorem afterOffer_fails {chunk : Bytes} {answer : Except Errno Nat} {result : Except Errno Unit}
    (last : afterOffer chunk answer = .inl result) : ∃ e, result = .error e := by
  unfold afterOffer at last
  split at last
  · exact ⟨_, (Sum.inl.inj last).symm⟩
  · cases last
  · split at last
    · cases last
    · exact ⟨_, (Sum.inl.inj last).symm⟩

theorem afterOffer_whole {chunk : Bytes} (some : chunk ≠ []) :
    afterOffer chunk (.ok chunk.length) = .inr [] := by
  cases chunk with
  | nil => exact absurd rfl some
  | cons first others => exact congrArg Sum.inr (List.drop_length ..)

/-- Writes a chunk to the sink until all of it is taken, in at most `patience` offers. -/
def deliver (sink : Descriptor) : Nat → Bytes → Program (Except Errno Unit)
  | _, [] => .done (.ok ())
  | 0, _ :: _ => .unfinished
  | patience + 1, chunk => do
    match afterOffer chunk (← .call (.write sink chunk)) with
    | .inl result => return result
    | .inr rest => deliver sink patience rest

theorem deliver_nothing (sink : Descriptor) (patience : Nat) :
    deliver sink patience [] = .done (.ok ()) := by
  cases patience <;> rfl

theorem deliver_offer (sink : Descriptor) (patience : Nat) {chunk : Bytes} (some : chunk ≠ []) :
    deliver sink (patience + 1) chunk =
      .ask (.write sink chunk) fun answer =>
        (afterOffer chunk answer).elim .done (deliver sink patience) := by
  cases chunk with
  | nil => exact absurd rfl some
  | cons first others =>
    refine congrArg (Program.ask (.write sink (first :: others))) (funext fun answer => ?_)
    change (match afterOffer (first :: others) answer with
      | .inl result => Program.done result
      | .inr rest => deliver sink patience rest) = _
    cases afterOffer (first :: others) answer with
    | inl result => rfl
    | inr rest => rfl

end TerminalRelay
