import TerminalRelay.Proofs.Host.Signals
import TerminalRelay.Proofs.Runs
import TerminalRelay.Terminal.ResizeWatcher

/-! The terminal and the target as the resize watcher sees them, and what installing the
watcher leaves: a flag that is watched, and the current size on the target unless a resize
is outstanding. -/

namespace TerminalRelay

/-- What the terminal reports as its size, the size last set on the target, and the signals
of the thread that relays. -/
structure Screens where
  reported : Except Errno WindowSize
  applied : WindowSize
  signals : Host.Signals

namespace Screens

def resize (screens : Screens) (reported : Except Errno WindowSize) : Screens :=
  { screens with reported, signals := screens.signals.raise }

def deliver (screens : Screens) (mask : SignalSet) : Screens :=
  { screens with signals := screens.signals.during mask }

def InStep (screens : Screens) : Prop :=
  screens.applied = WindowSize.effective screens.reported

instance (screens : Screens) : Decidable screens.InStep :=
  inferInstanceAs (Decidable (screens.applied = WindowSize.effective screens.reported))

/-- This is the size for the target, unless a resize is outstanding. -/
def Current (flag : Nat) (size : WindowSize) (screens : Screens) : Prop :=
  screens.signals.Outstanding flag ∨ size = WindowSize.effective screens.reported

end Screens

/-- A world in which the terminal keeps its size, and the target accepts every size. A wait
ends when a side is ready, which may leave a signal pending, or after signals were handled. -/
def World.calm (target : Descriptor) : World Screens where
  outside request before after :=
    ∃ near far mask, request = .wait near far mask ∧ after = before.deliver mask
  answers before request answer after :=
    match request, answer with
    | .readSize .terminal, reported => reported = before.reported ∧ after = before
    | .writeSize device size, answer =>
      if device = target then answer = .ok () ∧ after = { before with applied := size }
      else after = before
    | .block signals, .ok previous =>
      previous = before.signals.mask ∧
        after = { before with signals := before.signals.block signals }
    | .setMask mask, .ok () => after = { before with signals := before.signals.setMask mask }
    | .watchResize, .ok flag =>
      flag = before.signals.watch.1 ∧ after = { before with signals := before.signals.watch.2 }
    | .unwatchResize flag, () =>
      after = { before with signals := before.signals.unwatch flag }
    | .takeFlag flag, raised =>
      raised = (before.signals.take flag).1 ∧
        after = { before with signals := (before.signals.take flag).2 }
    | .wait _ _ mask, .ok ready =>
      (ready.input || ready.target) ∧ (after = before ∨ after = before.deliver mask)
    | .wait _ _ mask, .error e =>
      after = before.deliver mask ∨ e ≠ .interrupted ∧ after = before
    | _, _ => after = before

/-- A world in which the terminal may be resized at any moment. -/
def World.resizing (target : Descriptor) : World Screens where
  outside request before after :=
    (World.calm target).outside request before after ∨ ∃ reported, after = before.resize reported
  answers := (World.calm target).answers

def Event.measurement? : Event → Option WindowSize
  | ⟨.readSize .terminal, reported⟩ => some (WindowSize.effective reported)
  | _ => none

/-- The size that the target should have by the last reading of the terminal. -/
def measured (events : List Event) : Option WindowSize :=
  (events.filterMap Event.measurement?).getLast?

namespace World
variable {target : Descriptor} {flag : Nat} {request : Request} {before after : Screens}

theorem resizing_outside_keeps (happens : (resizing target).outside request before after)
    (watched : before.signals.Watched flag) :
    after.signals.Watched flag ∧ after.applied = before.applied ∧
      ∀ size, before.Current flag size → after.Current flag size := by
  rcases happens with ⟨near, far, mask, -, rfl⟩ | ⟨reported, rfl⟩
  · refine ⟨watched.during mask, rfl, fun size current => ?_⟩
    exact current.imp_left fun outstanding => watched.outstanding_during outstanding mask
  · exact ⟨watched.raise, rfl, fun size _ => .inl watched.outstanding_raise⟩

theorem resizing_drifts_keeps (drifts : (resizing target).Drifts request before after)
    (watched : before.signals.Watched flag) :
    after.signals.Watched flag ∧ after.applied = before.applied ∧
      ∀ size, before.Current flag size → after.Current flag size := by
  induction drifts with
  | refl => exact ⟨watched, rfl, fun _ current => current⟩
  | tail _ happens ih =>
    obtain ⟨watched, same, current⟩ := ih
    obtain ⟨watched, kept, later⟩ := resizing_outside_keeps happens watched
    exact ⟨watched, kept.trans same, fun size held => later size (current size held)⟩

theorem resizing_drifts_blocked (drifts : (resizing target).Drifts request before after)
    (blocked : before.signals.mask.hasResize = true) :
    after.signals.mask.hasResize = true := by
  induction drifts with
  | refl => exact blocked
  | tail _ happens ih =>
    rcases happens with ⟨near, far, mask, -, rfl⟩ | ⟨reported, rfl⟩
    · exact ih
    · exact (Host.Signals.blocked_raise ih)

private theorem note_keeps {notice : Notice} {events : List Event}
    (watched : before.signals.Watched flag)
    (run : (resizing target).Run before (note notice) events after (.done ())) :
    after.signals.Watched flag ∧ after.applied = before.applied ∧
      (∀ size, before.Current flag size → after.Current flag size) ∧
      events.filterMap Event.measurement? = [] := by
  obtain ⟨opened, _, _, _, drifts, same, rfl, rest⟩ := run.of_ask
  obtain ⟨rfl, rfl, _⟩ := rest.of_done
  obtain rfl : after = opened := same
  obtain ⟨watched, applied, current⟩ := resizing_drifts_keeps drifts watched
  exact ⟨watched, applied, current, rfl⟩

private theorem applySize_current {size : WindowSize} {events : List Event}
    (watched : before.signals.Watched flag) (current : before.Current flag size)
    (run : (resizing target).Run before (applySize target size) events after (.done ())) :
    after.signals.Watched flag ∧ after.Current flag size ∧ after.applied = size ∧
      events.filterMap Event.measurement? = [] := by
  obtain ⟨opened, answer, set, later, drifts, answers, rfl, rest⟩ := run.of_ask
  obtain ⟨watched, -, drifted⟩ := resizing_drifts_keeps drifts watched
  simp only [resizing, calm, if_true] at answers
  obtain ⟨rfl, rfl⟩ := answers
  have watched : ({ opened with applied := size } : Screens).signals.Watched flag := watched
  obtain ⟨watched, applied, kept, unread⟩ := note_keeps watched rest
  exact ⟨watched, kept size (drifted size current), applied, unread⟩

theorem copySize_current {events : List Event} (watched : before.signals.Watched flag)
    (run : (resizing target).Run before (copySize .terminal target) events after (.done ())) :
    after.signals.Watched flag ∧ after.Current flag after.applied ∧
      measured events = some after.applied := by
  obtain ⟨_, reported, read, later, drifts, ⟨rfl, rfl⟩, rfl, rest⟩ := run.of_ask
  obtain ⟨watched, -, -⟩ := resizing_drifts_keeps drifts watched
  have current : read.Current flag (WindowSize.effective read.reported) := .inr rfl
  generalize read.reported = reported at rest current
  cases reported with
  | ok size =>
    obtain ⟨watched, current, applied, unread⟩ := applySize_current watched current rest
    refine ⟨watched, applied ▸ current, ?_⟩
    simp [measured, Event.measurement?, unread, applied]
  | error e =>
    change (resizing target).Run read (note (.sizeUnreadable e) >>= fun _ => _) _ _ _ at rest
    obtain ⟨_, first, noted, last, rfl, noting, setting⟩ := rest.of_bind
    obtain ⟨watched, -, kept, unnoted⟩ := note_keeps watched noting
    obtain ⟨watched, current, applied, unread⟩ :=
      applySize_current watched (kept _ current) setting
    refine ⟨watched, applied ▸ current, ?_⟩
    simp [measured, Event.measurement?, unnoted, unread, applied]

theorem install_current {watcher : ResizeWatcher} {events : List Event}
    (run : (resizing target).Run before (ResizeWatcher.install .terminal target) events after
      (.done (.ok watcher))) :
    watcher.source = .terminal ∧ watcher.target = target ∧
      after.signals.Watched watcher.flag ∧ after.Current watcher.flag after.applied ∧
      measured events = some after.applied := by
  obtain ⟨opened, answer, blocking, _, _, answers, rfl, rest⟩ := run.of_ask
  cases answer with
  | error e => cases rest.of_done.2.2
  | ok previous =>
    obtain ⟨-, rfl⟩ := answers
    obtain ⟨unwatched, answer, watching, later, drifts, answers, rfl, routed⟩ := rest.of_ask
    have blocked := resizing_drifts_blocked drifts (Host.Signals.blocked_of_block opened.signals)
    cases answer with
    | error failure =>
      obtain ⟨_, _, _, _, _, _, rfl, failed⟩ := routed.of_ask
      cases failed.of_done.2.2
    | ok flag =>
      obtain ⟨rfl, rfl⟩ := answers
      change (resizing target).Run _ (copySize .terminal target >>= fun _ => _) _ _ _ at routed
      obtain ⟨_, copied, between, last, rfl, copying, ended⟩ := routed.of_bind
      obtain ⟨rfl, rfl, done⟩ := ended.of_done
      cases done
      have watched := Host.Signals.watched_of_watch blocked
      obtain ⟨watched, current, reading⟩ := copySize_current watched copying
      refine ⟨rfl, rfl, watched, current, ?_⟩
      rw [List.append_nil]
      exact reading

end World

/-! A watcher that is installed on a terminal of 24 lines. -/

def sampleStart : Screens :=
  ⟨.ok (.ofCells 80 24), .unset, .quiet .empty⟩

def sampleWatcher : ResizeWatcher :=
  ⟨.terminal, .opened 3, 0, .empty⟩

def sampleInstalled : Screens :=
  ⟨.ok (.ofCells 80 24), .ofCells 80 24, ⟨.resize, false, [(0, false)], 1⟩⟩

def sampleOpening : List Event :=
  [⟨.block .resize, .ok .empty⟩, ⟨.watchResize, .ok 0⟩,
    ⟨.readSize .terminal, .ok (.ofCells 80 24)⟩,
    ⟨.writeSize (.opened 3) (.ofCells 80 24), .ok ()⟩, ⟨.log (.resized (.ofCells 80 24)), ()⟩]

theorem sample_install : (World.resizing (.opened 3)).Run sampleStart
    (ResizeWatcher.install .terminal (.opened 3)) sampleOpening sampleInstalled
    (.done (.ok sampleWatcher)) :=
  .answered _ ⟨rfl, rfl⟩ <| .answered _ ⟨rfl, rfl⟩ <| .answered _ ⟨rfl, rfl⟩ <|
  .answered _ ⟨rfl, rfl⟩ <| .answered _ rfl .here

end TerminalRelay
