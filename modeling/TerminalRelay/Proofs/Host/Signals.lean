import TerminalRelay.Host.Signals

/-! A resize signal is never lost on a thread that watches for it: once sent it is pending or
has raised the flag, and only taking the flag undoes that. -/

namespace TerminalRelay

namespace SignalSet

@[simp] theorem hasResize_without_unblockable (mask : SignalSet) :
    (mask.without Host.Signals.unblockable).hasResize = mask.hasResize := by
  have absent : Host.Signals.unblockable.getLsbD 27 = false := by decide
  rw [hasResize, without, BitVec.getLsbD_and, BitVec.getLsbD_not, absent]
  simp [hasResize]

@[simp] theorem hasResize_union_resize (mask : SignalSet) :
    (mask.union resize).hasResize = true := by
  have present : resize.getLsbD 27 = true := by decide
  simp [hasResize, union, present]

@[simp] theorem hasResize_without_resize (mask : SignalSet) :
    (mask.without resize).hasResize = false := by
  have present : resize.getLsbD 27 = true := by decide
  simp [hasResize, without, present]

end SignalSet

namespace Host.Signals
variable {flag : Nat} {signals : Signals}

def Raised (flag : Nat) (signals : Signals) : Prop :=
  (flag, true) ∈ signals.flags

instance (flag : Nat) (signals : Signals) : Decidable (signals.Raised flag) :=
  inferInstanceAs (Decidable ((flag, true) ∈ signals.flags))

/-- A resize was announced that the holder of the flag has not taken notice of. -/
def Outstanding (flag : Nat) (signals : Signals) : Prop :=
  signals.pending = true ∨ signals.Raised flag

/-- A thread that holds a flag for the resize signal and blocks that signal. -/
structure Watched (flag : Nat) (signals : Signals) : Prop where
  registered : ∃ raised, (flag, raised) ∈ signals.flags
  blocked : signals.mask.hasResize = true

private theorem registered_settle (registered : ∃ raised, (flag, raised) ∈ signals.flags) :
    ∃ raised, (flag, raised) ∈ signals.settle.flags := by
  obtain ⟨raised, member⟩ := registered
  unfold settle
  split
  · exact ⟨true, List.mem_map.mpr ⟨_, member, rfl⟩⟩
  · exact ⟨raised, member⟩

theorem settle_unblocked (unblocked : signals.mask.hasResize = false)
    (registered : ∃ raised, (flag, raised) ∈ signals.flags)
    (outstanding : signals.Outstanding flag) : signals.settle.Raised flag := by
  obtain ⟨raised, member⟩ := registered
  by_cases pending : signals.pending = true
  · simp only [settle, pending, unblocked, Bool.not_false, Bool.and_self, if_true]
    exact List.mem_map.mpr ⟨_, member, rfl⟩
  · simp only [settle, pending, Bool.false_and]
    exact outstanding.resolve_left pending

theorem settle_blocked (blocked : signals.mask.hasResize = true) :
    signals.settle = signals := by
  simp [settle, blocked]

theorem blocked_raise (blocked : signals.mask.hasResize = true) :
    signals.raise.mask.hasResize = true := by
  rwa [raise, settle_blocked]
  exact blocked

theorem raise_of_watched (watched : signals.Watched flag) :
    signals.raise = { signals with pending := true } :=
  settle_blocked watched.blocked

theorem Watched.raise (watched : signals.Watched flag) : signals.raise.Watched flag := by
  rw [raise_of_watched watched]
  exact ⟨watched.registered, watched.blocked⟩

theorem Watched.outstanding_raise (watched : signals.Watched flag) :
    signals.raise.Outstanding flag := by
  rw [raise_of_watched watched]
  exact .inl rfl

theorem Watched.during (watched : signals.Watched flag) (mask : SignalSet) :
    (signals.during mask).Watched flag :=
  ⟨registered_settle watched.registered, watched.blocked⟩

theorem Watched.outstanding_during (watched : signals.Watched flag)
    (outstanding : signals.Outstanding flag) (mask : SignalSet) :
    (signals.during mask).Outstanding flag := by
  by_cases blocked : mask.hasResize = true
  · simpa [Signals.during, setMask, settle, blocked, Outstanding, Raised] using outstanding
  · refine .inr (settle_unblocked ?_ watched.registered outstanding)
    simpa using blocked

theorem Watched.raised_during (watched : signals.Watched flag)
    (outstanding : signals.Outstanding flag) {mask : SignalSet}
    (through : mask.hasResize = false) : (signals.during mask).Raised flag :=
  settle_unblocked (by simpa using through) watched.registered outstanding

theorem Watched.take (watched : signals.Watched flag) : (signals.take flag).2.Watched flag := by
  obtain ⟨raised, member⟩ := watched.registered
  exact ⟨⟨_, List.mem_map.mpr ⟨_, member, rfl⟩⟩, watched.blocked⟩

theorem take_iff : (signals.take flag).1 = true ↔ signals.Raised flag := by
  simp [Signals.take, Raised]

theorem watched_of_watch (blocked : signals.mask.hasResize = true) :
    signals.watch.2.Watched signals.watch.1 :=
  ⟨⟨false, List.mem_cons_self⟩, blocked⟩

theorem blocked_of_block (signals : Signals) :
    (signals.block .resize).mask.hasResize = true := by
  rw [block, setMask, settle_blocked] <;> simp

end Host.Signals
end TerminalRelay
