import TerminalRelay.Proofs.Allowances
import TerminalRelay.Proofs.Concerns
import TerminalRelay.Proofs.Host.NearSide
import TerminalRelay.Proofs.Moments

/-! The signals of a thread that runs a session. The resize signal is blocked from the moment
that the session is about to watch for it, save in the waits, and what was blocked before is
blocked again once the session is over, whichever way it came to that. -/

namespace TerminalRelay

/-- Signals as a thread can have them: two signals are never blocked, and the number of the next
flag is a new one. -/
structure Host.Signals.Sound (signals : Host.Signals) : Prop where
  blockable : signals.mask.without unblockable = signals.mask
  fresh : ∀ flag ∈ signals.flags.map (·.1), flag < signals.next

namespace SignalSet

theorem without_union (mask other removed : SignalSet) :
    (mask.union other).without removed = (mask.without removed).union (other.without removed) :=
  BitVec.and_or_distrib_right

theorem blockable_union_resize {mask : SignalSet}
    (blockable : mask.without Host.Signals.unblockable = mask) :
    (mask.union resize).without Host.Signals.unblockable = mask.union resize := by
  have resizeBlockable : resize.without Host.Signals.unblockable = resize := by decide
  rw [without_union, blockable, resizeBlockable]

end SignalSet

def Event.holdsBack (held : Bool) : Event → Bool
  | ⟨.block _, .ok _⟩ => true
  | ⟨.setMask _, .ok _⟩ => false
  | _ => held

def holdingBack (events : List Event) : Bool :=
  events.foldl Event.holdsBack false

theorem holdingBack_append (past : List Event) (event : Event) :
    holdingBack (past ++ [event]) = event.holdsBack (holdingBack past) := by
  simp [holdingBack]

/-- A wait lets just the resize signal through that was blocked before. -/
def Request.WaitsWith (mask : SignalSet) (request : Request) : Prop :=
  ∀ near far given, request = .wait near far given → given = mask

def Request.Meddles (mask : SignalSet) (request : Request) : Prop :=
  request.concern = .signals ∨ ¬ request.WaitsWith mask

inductive Guard where
  | off
  | blocking
  | watching (flag : Nat)
  | stuck

namespace Guard

def blocks : Guard → Bool
  | off => false
  | blocking | watching _ | stuck => true

def handlers (caller : NearSide) : Guard → List Nat
  | watching flag => flag :: caller.handlers
  | off | blocking | stuck => caller.handlers

/-- The signals are as the caller left them, but for the guard. -/
structure Governs (caller : NearSide) (guard : Guard) (past : List Event) (side : NearSide) :
    Prop where
  mask : side.signals.mask =
    if guard.blocks then caller.signals.mask.union .resize else caller.signals.mask
  handlers : side.handlers = guard.handlers caller
  fresh : ∀ flag ∈ side.handlers, flag < side.signals.next
  apart : ∀ flag, guard = watching flag → flag ∉ caller.handlers
  heldBack : holdingBack past = guard.blocks
  failed : guard = stuck → ∃ mask e, ⟨.setMask mask, .error e⟩ ∈ past

end Guard

/-- The signals between two requests: the resize signal is blocked besides what the caller
blocked just while it is held back, and as long as there is a handler of the session. -/
structure Tidy (caller : NearSide) (past : List Event) (side : NearSide) : Prop where
  mask : side.signals.mask =
    if holdingBack past then caller.signals.mask.union .resize else caller.signals.mask
  handlers : side.handlers = caller.handlers ∨
    holdingBack past = true ∧ ∃ flag, side.handlers = flag :: caller.handlers
  blocked : side.handlers ≠ caller.handlers → side.signals.mask.hasResize = true

/-- The signals once a session is over: as they were, unless what was blocked could not be
blocked again. -/
structure PutBack (caller : NearSide) (past : List Event) (side : NearSide) : Prop where
  handlers : side.handlers = caller.handlers
  mask : (∀ mask e, ⟨.setMask mask, .error e⟩ ∉ past) → side.signals.mask = caller.signals.mask

variable {α : Type} {caller side before after : NearSide} {guard : Guard} {past : List Event}
  {target : Descriptor}

namespace Guard

theorem Governs.tidy (governs : guard.Governs caller past side) : Tidy caller past side := by
  obtain ⟨mask, handlers, -, -, heldBack, -⟩ := governs
  cases guard with
  | watching flag =>
    refine ⟨heldBack ▸ mask, .inr ⟨heldBack, flag, handlers⟩, fun _ => ?_⟩
    rw [mask]
    exact SignalSet.hasResize_union_resize _
  | _ => exact ⟨heldBack ▸ mask, .inl handlers, fun other => absurd handlers other⟩

def Over (caller : NearSide) (past : List Event) (side : NearSide) : Prop :=
  off.Governs caller past side ∨ stuck.Governs caller past side

theorem Over.tidy (settled : Over caller past side) : Tidy caller past side :=
  settled.elim Governs.tidy Governs.tidy

theorem Over.putBack (settled : Over caller past side) : PutBack caller past side := by
  obtain governs | governs := settled
  · exact ⟨governs.handlers, fun _ => governs.mask⟩
  · obtain ⟨mask, e, failed⟩ := governs.failed rfl
    exact ⟨governs.handlers, fun unfailed => absurd failed (unfailed mask e)⟩

namespace Governs

theorem onSide (governs : guard.Governs caller past before)
    (mask : after.signals.mask = before.signals.mask) (handlers : after.handlers = before.handlers)
    (next : after.signals.next = before.signals.next) : guard.Governs caller past after where
  mask := mask.trans governs.mask
  handlers := handlers.trans governs.handlers
  fresh := by
    rw [handlers, next]
    exact governs.fresh
  apart := governs.apart
  heldBack := governs.heldBack
  failed := governs.failed

theorem onEvent (governs : guard.Governs caller past side) (event : Event)
    (same : event.holdsBack (holdingBack past) = holdingBack past) :
    guard.Governs caller (past ++ [event]) side where
  mask := governs.mask
  handlers := governs.handlers
  fresh := governs.fresh
  apart := governs.apart
  heldBack := by rw [holdingBack_append, same, governs.heldBack]
  failed stuck := by
    obtain ⟨mask, e, member⟩ := governs.failed stuck
    exact ⟨mask, e, List.mem_append_left _ member⟩

theorem outside {request : Request} (governs : guard.Governs caller past before)
    (happens : World.nearSide.outside request before after) :
    guard.Governs caller past after := by
  obtain rfl | ⟨near, far, mask, -, rfl⟩ := happens
  · apply governs.onSide <;> simp [NearSide.handlers, Host.Signals.raise]
  · apply governs.onSide <;>
      simp [NearSide.handlers, Host.Signals.during, Host.Signals.setMask]

theorem drifts {request : Request} (governs : guard.Governs caller past before)
    (drifts : World.nearSide.Drifts request before after) : guard.Governs caller past after := by
  induction drifts with
  | refl => exact governs
  | tail _ happens ih => exact ih.outside happens

theorem answered {request : Request} {answer : request.Answer}
    (other : request.concern ≠ .signals) (governs : guard.Governs caller past before)
    (answers : World.nearSide.answers before request answer after) :
    guard.Governs caller (past ++ [⟨request, answer⟩]) after := by
  have same : Event.holdsBack (holdingBack past) ⟨request, answer⟩ = holdingBack past := by
    cases request <;> first | rfl | exact absurd rfl other
  apply onEvent _ _ same
  cases request with
  | block | setMask | watchResize | unwatchResize => exact absurd rfl other
  | takeFlag flag =>
    obtain ⟨-, rfl⟩ := answers
    apply governs.onSide <;> simp [NearSide.handlers, Host.Signals.take]
  | wait near far mask =>
    obtain rfl | rfl := answers
    · exact governs
    · apply governs.onSide <;>
        simp [NearSide.handlers, Host.Signals.during, Host.Signals.setMask]
  | readAttributes device =>
    have same : after = before := by
      cases device <;> cases answer <;> first | exact answers | exact answers.2
    exact same ▸ governs
  | writeAttributes device given =>
    have same : after.signals = before.signals := by
      cases device <;> cases answer <;> cases answers <;> rfl
    apply governs.onSide <;> simp only [NearSide.handlers, same]
  | _ =>
    obtain rfl : after = before := answers
    exact governs

theorem block (governs : off.Governs caller past side)
    (blockable : caller.signals.mask.without Host.Signals.unblockable = caller.signals.mask)
    (previous : SignalSet) :
    blocking.Governs caller (past ++ [⟨.block .resize, .ok previous⟩])
      { side with signals := side.signals.block .resize } where
  mask := by
    have mask : side.signals.mask = caller.signals.mask := governs.mask
    simp only [Host.Signals.block, Host.Signals.setMask, Host.Signals.settle_mask, mask]
    exact SignalSet.blockable_union_resize blockable
  handlers := (Host.Signals.settle_handlers _).trans governs.handlers
  fresh := by
    simpa [NearSide.handlers, Host.Signals.block, Host.Signals.setMask] using governs.fresh
  apart := nofun
  heldBack := holdingBack_append past _
  failed := nofun

theorem watch (governs : blocking.Governs caller past side) :
    (watching side.signals.watch.1).Governs caller
      (past ++ [⟨.watchResize, .ok side.signals.watch.1⟩])
      { side with signals := side.signals.watch.2 } where
  mask := governs.mask
  handlers := congrArg (side.signals.next :: ·) governs.handlers
  fresh := by
    have fresh := governs.fresh
    simp only [NearSide.handlers, Host.Signals.watch, List.map_cons,
      List.forall_mem_cons] at fresh ⊢
    exact ⟨Nat.lt_succ_self _, fun flag member => Nat.lt_succ_of_lt (fresh flag member)⟩
  apart := by
    rintro _ same member
    cases same
    exact absurd (governs.fresh _ (governs.handlers ▸ member)) (Nat.lt_irrefl _)
  heldBack := (holdingBack_append past _).trans governs.heldBack
  failed := nofun

theorem unwatch {flag : Nat} (governs : (watching flag).Governs caller past side) :
    blocking.Governs caller (past ++ [⟨.unwatchResize flag, ()⟩])
      { side with signals := side.signals.unwatch flag } := by
  have handlers : (side.signals.unwatch flag).flags.map (·.1) = caller.handlers := by
    have watched : side.signals.flags.map (·.1) = flag :: caller.handlers := governs.handlers
    have apart := governs.apart flag rfl
    have kept : caller.handlers.filter (decide <| · ≠ flag) = caller.handlers := by
      refine List.filter_eq_self.mpr fun other member => decide_eq_true ?_
      rintro rfl
      exact apart member
    calc (side.signals.unwatch flag).flags.map (·.1)
      _ = (side.signals.flags.map (·.1)).filter (decide <| · ≠ flag) := by
        rw [List.filter_map]
        rfl
      _ = caller.handlers := by
        rw [watched, List.filter_cons_of_neg (by simp), kept]
  refine ⟨governs.mask, handlers, ?_, nofun, ?_, nofun⟩
  · intro other member
    refine governs.fresh other (governs.handlers ▸ List.mem_cons_of_mem flag ?_)
    exact handlers ▸ member
  · exact (holdingBack_append past _).trans governs.heldBack

theorem giveBack {answer : Except Errno Unit} (governs : blocking.Governs caller past before)
    (blockable : caller.signals.mask.without Host.Signals.unblockable = caller.signals.mask)
    (answers : World.nearSide.answers before (.setMask caller.signals.mask) answer after) :
    Over caller (past ++ [⟨.setMask caller.signals.mask, answer⟩]) after := by
  cases answer with
  | ok _ =>
    obtain rfl := answers
    refine .inl ⟨?_, ?_, ?_, nofun, holdingBack_append past _, nofun⟩
    · exact (Host.Signals.settle_mask _).trans blockable
    · exact (Host.Signals.settle_handlers _).trans governs.handlers
    · simpa [NearSide.handlers, Host.Signals.setMask] using governs.fresh
  | error e =>
    obtain rfl : after = before := answers
    refine .inr ⟨governs.mask, governs.handlers, governs.fresh, fun _ same => ?_, ?_, fun _ => ?_⟩
    · cases same
    · exact (holdingBack_append past _).trans governs.heldBack
    · exact ⟨_, e, List.mem_append_right past List.mem_cons_self⟩

end Governs
end Guard

/-! What the parts of a session do to the guard. -/

def NearSide.waitMask (caller : NearSide) : SignalSet :=
  caller.signals.mask.without .resize

def Hygienic (caller : NearSide) (past : List Event) (side : NearSide) (program : Program α)
    (outcome : List Event → NearSide → α → Prop) : Prop :=
  World.nearSide.Upholds (Tidy caller) (Request.WaitsWith caller.waitMask) past side program outcome

theorem Program.Asks.unmeddling {concerns : List Concern} {program : Program α}
    (asks : program.Asks concerns) (mask : SignalSet)
    (apart : concerns.contains .signals = false ∧ concerns.contains .waiting = false) :
    program.Avoids (Request.Meddles mask) := by
  refine asks.avoids fun request meddles => ?_
  obtain signals | waits := meddles
  · rw [signals]
    exact apart.1
  · cases request with
    | wait near far given => exact apart.2
    | _ => exact absurd nofun waits

theorem log_unmeddling (notice : Notice) (mask : SignalSet) :
    ¬ (Request.log notice).Meddles mask := by
  rintro (signals | waits)
  · cases notice <;> cases signals
  · exact waits nofun

theorem note_unmeddling (notice : Notice) (mask : SignalSet) :
    (note notice).Avoids (Request.Meddles mask) :=
  .note (log_unmeddling notice mask)

theorem relay_unmeddling (patience rounds : Nat) (target : Descriptor) (watcher : ResizeWatcher)
    (buffer : Bytes) :
    (relay patience target watcher rounds buffer).Avoids (Request.Meddles watcher.waitMask) := by
  refine (Stage.relay_follows patience rounds buffer).avoids fun stage request asks => ?_
  cases stage with
  | waiting =>
    cases asks
    refine fun meddles => meddles.elim nofun fun waits => waits fun near far given same => ?_
    cases same
    rfl
  | finished ending => cases asks
  | noting notice next | concluding notice ending =>
    cases asks
    exact log_unmeddling notice _
  | _ =>
    cases asks
    exact fun meddles => meddles.elim nofun fun waits => waits nofun

theorem guard_kept {program : Program α}
    (avoids : program.Avoids (Request.Meddles caller.waitMask))
    (governs : guard.Governs caller past side) :
    Hygienic caller past side program fun past after _ => guard.Governs caller past after := by
  refine World.Upholds.of_avoids _ avoids ?_ ?_ ?_ ?_ governs
  · exact fun governs happens => governs.outside happens
  · intro past request answer before after other governs answers
    exact governs.answered (fun signals => other (.inl signals)) answers
  · exact fun governs => governs.tidy
  · exact fun other => Classical.not_not.mp (not_or.mp other).2

theorem over_kept {program : Program α}
    (avoids : program.Avoids (Request.Meddles caller.waitMask))
    (settled : Guard.Over caller past side) :
    Hygienic caller past side program fun past after _ => Guard.Over caller past after := by
  obtain governs | governs := settled
  · exact (guard_kept avoids governs).mono fun _ _ _ => .inl
  · exact (guard_kept avoids governs).mono fun _ _ _ => .inr

theorem install_hygienic (sound : caller.signals.Sound)
    (governs : Guard.off.Governs caller past side) :
    Hygienic caller past side (ResizeWatcher.install .terminal target)
      fun past after installed => match installed with
        | .error _ => Guard.Over caller past after
        | .ok watcher => watcher.previous = caller.signals.mask ∧
            (Guard.watching watcher.flag).Governs caller past after := by
  refine ⟨nofun, fun opened drifts => ?_⟩
  have loose := governs.drifts drifts
  refine ⟨loose.tidy, fun blocked between answers => ?_⟩
  cases blocked with
  | error e =>
    obtain rfl : between = opened := answers
    have refused := loose.onEvent ⟨.block .resize, .error e⟩ rfl
    exact ⟨refused.tidy, .inl refused⟩
  | ok previous =>
    obtain ⟨rfl, rfl⟩ : previous = opened.signals.mask ∧ _ := answers
    have caught := loose.block sound.blockable opened.signals.mask
    have mask : opened.signals.mask = caller.signals.mask := loose.mask
    rw [mask] at caught ⊢
    refine ⟨nofun, fun opened drifts => ?_⟩
    have blocking := caught.drifts drifts
    refine ⟨blocking.tidy, fun watched between answers => ?_⟩
    cases watched with
    | error failure =>
      obtain rfl : between = opened := answers
      have refused := blocking.onEvent ⟨.watchResize, .error failure⟩ rfl
      refine ⟨nofun, fun opened drifts => ⟨(refused.drifts drifts).tidy, ?_⟩⟩
      intro answer after answers
      have settled := (refused.drifts drifts).giveBack sound.blockable answers
      exact ⟨settled.tidy, settled⟩
    | ok flag =>
      obtain ⟨rfl, rfl⟩ : flag = opened.signals.watch.1 ∧ _ := answers
      have unmeddling := (copySize_asks .terminal target).unmeddling caller.waitMask ⟨rfl, rfl⟩
      apply (guard_kept unmeddling blocking.watch).bind
      exact fun past after _ watching => ⟨watching.tidy, rfl, watching⟩

theorem remove_hygienic (sound : caller.signals.Sound) {watcher : ResizeWatcher}
    (same : watcher.previous = caller.signals.mask)
    (governs : (Guard.watching watcher.flag).Governs caller past side) :
    Hygienic caller past side watcher.remove fun past after _ => Guard.Over caller past after := by
  refine ⟨nofun, fun opened drifts => ?_⟩
  have watching := governs.drifts drifts
  refine ⟨watching.tidy, fun _ between answers => ?_⟩
  obtain rfl := answers
  refine ⟨nofun, fun opened drifts => ?_⟩
  have blocking := watching.unwatch.drifts drifts
  refine ⟨blocking.tidy, fun answer after answers => ?_⟩
  rw [same] at answers ⊢
  have settled := blocking.giveBack sound.blockable answers
  cases answer with
  | ok _ => exact ⟨settled.tidy, settled⟩
  | error e => exact over_kept (note_unmeddling _ _) settled

theorem relaySession_hygienic (sound : caller.signals.Sound)
    (governs : Guard.off.Governs caller past side) (allowance : Allowance) :
    Hygienic caller past side (relaySession allowance target)
      fun past after _ => Guard.Over caller past after := by
  apply (install_hygienic sound governs).bind
  intro past between installed holds
  cases installed with
  | error fault =>
    apply (over_kept (note_unmeddling _ _) holds).bind
    exact fun past after _ settled => ⟨settled.tidy, settled⟩
  | ok watcher =>
    obtain ⟨same, governs⟩ := holds
    have unmeddling :=
      relay_unmeddling allowance.patience allowance.rounds target watcher blankBuffer
    have mask : watcher.waitMask = caller.waitMask := congrArg (·.without .resize) same
    apply (guard_kept (mask ▸ unmeddling) governs).bind
    intro past between ending governs
    apply (remove_hygienic sound same governs).bind
    exact fun past after _ settled => ⟨settled.tidy, settled⟩

theorem runSession_hygienic (sound : caller.signals.Sound) (allowance : Allowance)
    (target : Descriptor) (governs : Guard.off.Governs caller past side) :
    Hygienic caller past side (runSession allowance target)
      fun past after _ => Guard.Over caller past after := by
  apply (guard_kept ((acquire_asks .terminal).unmeddling _ ⟨rfl, rfl⟩) governs).bind
  intro past between acquired governs
  cases acquired with
  | error fault => exact ⟨governs.tidy, .inl governs⟩
  | ok held =>
    apply (guard_kept (note_unmeddling _ _) governs).bind
    intro past between _ governs
    apply (relaySession_hygienic sound governs allowance).bind
    intro past between ending settled
    apply (over_kept ((release_asks allowance.patience held).unmeddling _ ⟨rfl, rfl⟩) settled).bind
    intro past between released settled
    cases released with
    | error fault => exact ⟨settled.tidy, settled⟩
    | ok _ =>
      apply (over_kept (note_unmeddling _ _) settled).bind
      exact fun past after _ settled => ⟨settled.tidy, settled⟩

theorem Host.Signals.Sound.unguarded (sound : caller.signals.Sound) :
    Guard.off.Governs caller [] caller :=
  ⟨rfl, rfl, sound.fresh, nofun, rfl, nofun⟩

/-- Whatever the caller blocks and however a session goes, the resize signal is blocked just
while it is held back, at every request; the waits block what the caller blocks, save the
resize signal; and once the session is over there is no handler of its own left, and what the
caller blocked is blocked again unless that was refused. It stops before that only when it has
spent its allowance. -/
theorem session_keeps_signals_tidy {allowance : Allowance} {events : List Event}
    {rest : Program (Except Fault Ending)} (sound : before.signals.Sound)
    (run : World.nearSide.Run before (runSession allowance target) events after rest) :
    Tidy before events after ∧
      (∀ event ∈ events, event.request.WaitsWith (before.signals.mask.without .resize)) ∧
      (∀ request next, rest = .ask request next →
        request.WaitsWith (before.signals.mask.without .resize)) ∧
      (rest = .unfinished → SessionSpent allowance events) ∧
      ∀ result, rest = .done result → PutBack before events after := by
  have hygienic := runSession_hygienic sound allowance target sound.unguarded
  obtain ⟨now, waits⟩ := hygienic.after_run run
  rw [List.nil_append] at now
  refine ⟨now.now, waits, ?_, ?_, ?_⟩
  · rintro request next rfl
    exact now.1
  · rintro rfl
    exact (runSession_exhausts allowance target).run run
  · rintro result rfl
    exact now.2.putBack

def busySide : NearSide :=
  ⟨.initial, .quiet ((SignalSet.single 2).union .resize)⟩

def briefSession : List Event :=
  [⟨.readAttributes .terminal, .error .notPermitted⟩,
    ⟨.log (.attributesUnreadable .notPermitted), ()⟩, ⟨.log (.rawMode false), ()⟩,
    ⟨.block .resize, .ok ((SignalSet.single 2).union .resize)⟩, ⟨.watchResize, .ok 0⟩,
    ⟨.readSize .terminal, .ok .fallback⟩, ⟨.writeSize (.opened 3) .fallback, .ok ()⟩,
    ⟨.log (.resized .fallback), ()⟩, ⟨.takeFlag 0, false⟩,
    ⟨.wait .input (.opened 3) (.single 2), .ok ⟨true, false⟩⟩, ⟨.read .input chunkSize, .ok []⟩,
    ⟨.unwatchResize 0, ()⟩, ⟨.setMask ((SignalSet.single 2).union .resize), .ok ()⟩,
    ⟨.log (.relayEnded .localClosed), ()⟩]

theorem Host.Signals.quiet_sound (mask : SignalSet) : (quiet mask).Sound := by
  refine ⟨?_, by simp [quiet]⟩
  rw [quiet, SignalSet.without, SignalSet.without, BitVec.and_assoc, BitVec.and_self]

theorem briefSession_run :
    World.nearSide.Run busySide (runSession ⟨1, 1⟩ (.opened 3)) briefSession
      { busySide with signals := { busySide.signals with next := 1 } }
      (.done (.ok .localClosed)) :=
  .inPlace _ rfl <| .inPlace _ rfl <| .inPlace _ rfl <| .answered _ ⟨rfl, rfl⟩ <|
  .answered _ ⟨rfl, rfl⟩ <| .inPlace _ rfl <| .inPlace _ rfl <| .inPlace _ rfl <|
  .inPlace _ ⟨rfl, rfl⟩ <| .inPlace _ (.inl rfl) <| .inPlace _ rfl <| .answered _ rfl <|
  .answered _ rfl <| .inPlace _ rfl .here

theorem briefSession_puts_back :
    World.nearSide.Run busySide (runSession ⟨1, 1⟩ (.opened 3)) briefSession
        { busySide with signals := { busySide.signals with next := 1 } }
        (.done (.ok .localClosed)) ∧
      PutBack busySide briefSession
        { busySide with signals := { busySide.signals with next := 1 } } := by
  obtain ⟨-, -, -, -, ends⟩ :=
    session_keeps_signals_tidy (Host.Signals.quiet_sound _) briefSession_run
  exact ⟨briefSession_run, ends _ rfl⟩

end TerminalRelay
