import TerminalRelay.Proofs.Relay.Stages
import TerminalRelay.Proofs.Resize.Screens

/-! No resize is lost. Whenever the watcher is not attending to a resize, the target has the
size of the terminal or a resize is outstanding, wherever the terminal was resized and
however many resizes became one signal. -/

namespace TerminalRelay

def Event.serves (serving : Bool) : Event → Bool
  | ⟨.takeFlag _, raised⟩ => raised
  | ⟨.writeSize _ _, _⟩ => false
  | _ => serving

def serving (events : List Event) : Bool :=
  events.foldl Event.serves false

theorem serving_append (past : List Event) (event : Event) :
    serving (past ++ [event]) = event.serves (serving past) := by
  simp [serving]

namespace Stage
variable {target : Descriptor} {watcher : ResizeWatcher} {flag : Nat} {screens : Screens}

def serving : Stage → Bool
  | noticed | sized _ => true
  | noting _ next => next.serving
  | _ => false

def due (applied : WindowSize) : Stage → WindowSize
  | sized size => size
  | noting _ next => next.due applied
  | _ => applied

def Informed : Stage → Prop
  | noticed => False
  | noting _ next => next.Informed
  | _ => True

theorem due_of_not_serving {stage : Stage} (idle : stage.serving = false)
    (applied : WindowSize) : stage.due applied = applied := by
  induction stage with
  | sized size => cases idle
  | noting notice next ih => exact ih idle
  | _ => rfl

theorem informed_of_not_serving {stage : Stage} (idle : stage.serving = false) :
    stage.Informed := by
  induction stage with
  | noticed => cases idle
  | noting notice next ih => exact ih idle
  | _ => exact trivial

theorem next_serving (side : Side) (farToo : Bool) : (side.next farToo).serving = false := by
  cases side <;> cases farToo <;> rfl

theorem readiness_serving (ready : Readiness) : ready.stage.serving = false := by
  unfold Readiness.stage
  split
  · rfl
  · split <;> rfl

/-- What a relay keeps up from the installation of its watcher on. -/
structure Attentive (flag : Nat) (stage : Stage) (past : List Event) (screens : Screens) :
    Prop where
  watched : screens.signals.Watched flag
  current : stage.Informed → screens.Current flag (stage.due screens.applied)
  serving : TerminalRelay.serving past = stage.serving

namespace Attentive
variable {stage next : Stage} {past : List Event} {before after : Screens}

theorem outside {request : Request} (attentive : Attentive flag stage past before)
    (happens : (World.resizing target).outside request before after) :
    Attentive flag stage past after := by
  obtain ⟨watched, same, current⟩ := World.resizing_outside_keeps happens attentive.watched
  exact ⟨watched, fun informed => current _ (same ▸ attentive.current informed), attentive.serving⟩

theorem settled (attentive : Attentive flag stage past screens) (idle : stage.serving = false) :
    screens.signals.Outstanding flag ∨ screens.InStep := by
  have current := attentive.current (informed_of_not_serving idle)
  rwa [due_of_not_serving idle] at current

private theorem current_take {size : WindowSize} (lowered : (screens.signals.take flag).1 = false)
    (current : screens.Current flag size) :
    Screens.Current flag size { screens with signals := (screens.signals.take flag).2 } := by
  refine current.imp_left fun outstanding => .inl (outstanding.resolve_right fun raised => ?_)
  rw [Host.Signals.take_iff.mpr raised] at lowered
  cases lowered

private theorem pass {event : Event} (attentive : Attentive flag stage past screens)
    (same : event.serves (TerminalRelay.serving past) = TerminalRelay.serving past)
    (idle : stage.serving = false) (goesOn : next.serving = false) :
    Attentive flag next (past ++ [event]) screens := by
  refine ⟨attentive.watched, ?_, ?_⟩
  · rw [due_of_not_serving goesOn]
    exact fun _ => attentive.settled idle
  · rw [serving_append, same, attentive.serving, idle, goesOn]

private theorem wake {near far : Descriptor} {mask : SignalSet}
    {answer : Except Errno Readiness} (attentive : Attentive flag stage past before)
    (answers : (World.resizing target).answers before (.wait near far mask) answer after) :
    Attentive flag stage past after := by
  have happens : (World.resizing target).outside (.wait near far mask) before
      (before.deliver mask) := .inl ⟨near, far, mask, rfl, rfl⟩
  have delivered := attentive.outside happens
  cases answer with
  | ok ready =>
    obtain ⟨-, rfl | rfl⟩ := answers
    · exact attentive
    · exact delivered
  | error e =>
    obtain rfl | ⟨-, rfl⟩ := answers
    · exact delivered
    · exact attentive

theorem step {previous : SignalSet} {request : Request} {answer : request.Answer}
    (attentive : Attentive flag stage past before)
    (step : Step target ⟨.terminal, target, flag, previous⟩ stage ⟨request, answer⟩ next)
    (answers : (World.resizing target).answers before request answer after) :
    Attentive flag next (past ++ [⟨request, answer⟩]) after := by
  cases step with
  | raised =>
    obtain ⟨-, rfl⟩ := answers
    exact ⟨attentive.watched.take, False.elim, serving_append past _⟩
  | lowered =>
    obtain ⟨lowered, rfl⟩ := answers
    exact ⟨attentive.watched.take,
      fun _ => current_take lowered.symm (attentive.current trivial), serving_append past _⟩
  | measured size =>
    obtain ⟨read, rfl⟩ := answers
    exact ⟨attentive.watched, fun _ => .inr (congrArg WindowSize.effective read),
      (serving_append past _).trans attentive.serving⟩
  | unmeasured e =>
    obtain ⟨read, rfl⟩ := answers
    exact ⟨attentive.watched, fun _ => .inr (congrArg WindowSize.effective read),
      (serving_append past _).trans attentive.serving⟩
  | copied size =>
    simp only [World.resizing, World.calm, if_true] at answers
    obtain ⟨-, rfl⟩ := answers
    exact ⟨attentive.watched, attentive.current, serving_append past _⟩
  | refusedSize size e =>
    simp only [World.resizing, World.calm, if_true] at answers
    cases answers.1
  | interrupted => exact (attentive.wake answers).pass rfl rfl rfl
  | waitFailed e other => exact (attentive.wake answers).pass rfl rfl rfl
  | woken ready => exact (attentive.wake answers).pass rfl rfl (readiness_serving ready)
  | taken side farToo count left rest answer goesOn =>
    obtain rfl : after = before := answers
    refine attentive.pass rfl rfl ?_
    split
    · exact next_serving side farToo
    · rfl
  | refused side farToo count left e answer fails =>
    obtain rfl : after = before := answers
    exact attentive.pass rfl rfl (next_serving side farToo)
  | noted notice next idle =>
    obtain rfl : after = before := answers
    exact ⟨attentive.watched, attentive.current, (serving_append past _).trans attentive.serving⟩
  | _ =>
    obtain rfl : after = before := answers
    exact attentive.pass rfl rfl rfl

theorem passage {previous : SignalSet} {events : List Event}
    (attentive : Attentive flag stage past before)
    (passage : Passage target ⟨.terminal, target, flag, previous⟩ (World.resizing target) stage
      before events next after) : Attentive flag next (past ++ events) after :=
  passage.keeps (Attentive flag) (fun _ happens held => held.outside happens)
    (fun step answers held => held.step step answers) attentive

end Attentive
end Stage

variable {target : Descriptor} {watcher : ResizeWatcher} {patience rounds : Nat} {buffer : Bytes}
  {start installed after : Screens} {opening events : List Event} {rest : Program Ending}

/-- A relay is attentive from the installation of its watcher on. -/
theorem relay_attentive
    (install : (World.resizing target).Run start (ResizeWatcher.install .terminal target) opening
      installed (.done (.ok watcher)))
    (run : (World.resizing target).Run installed (relay patience target watcher rounds buffer)
      events after rest) :
    ∃ stage, stage.Attentive watcher.flag events after ∧
      Stage.Follows target watcher rest stage := by
  obtain ⟨source, sink, flag, previous⟩ := watcher
  obtain ⟨rfl, rfl, watched, current, -⟩ := World.install_current install
  obtain ⟨stage, passage, follows⟩ := Stage.relay_passage run
  have attentive : Stage.Attentive flag .heading [] installed := ⟨watched, fun _ => current, rfl⟩
  exact ⟨stage, attentive.passage passage, follows⟩

/-- No resize is lost, from the installation of the watcher on: unless it is attending to a
resize, one is outstanding or the target has the size of the terminal. So it is at every
wait. -/
theorem no_resize_lost
    (install : (World.resizing target).Run start (ResizeWatcher.install .terminal target) opening
      installed (.done (.ok watcher)))
    (run : (World.resizing target).Run installed (relay patience target watcher rounds buffer)
      events after rest) :
    (serving events = false → after.signals.Outstanding watcher.flag ∨ after.InStep) ∧
      ∀ near far mask next, rest = .ask (.wait near far mask) next →
        after.signals.Outstanding watcher.flag ∨ after.InStep := by
  obtain ⟨stage, attentive, follows⟩ := relay_attentive install run
  refine ⟨fun idle => attentive.settled (attentive.serving ▸ idle), ?_⟩
  rintro near far mask next rfl
  have asks := follows.1
  cases stage with
  | waiting => exact attentive.settled rfl
  | _ => cases asks

def sampleResized : Screens :=
  sampleInstalled.resize (.ok (.ofCells 100 40))

theorem sample_resized : (World.resizing (.opened 3)).Run sampleInstalled
    (relay 1 (.opened 3) sampleWatcher 1 blankBuffer) [] sampleResized
    (relay 1 (.opened 3) sampleWatcher 1 blankBuffer) :=
  .outside (.inr ⟨.ok (.ofCells 100 40), rfl⟩) .here

theorem sample_wait : ∃ next, (World.resizing (.opened 3)).Run sampleResized
    (relay 1 (.opened 3) sampleWatcher 1 blankBuffer) [⟨.takeFlag 0, false⟩] sampleResized
    (.ask (.wait .input (.opened 3) .empty) next) :=
  ⟨_, .answered _ ⟨rfl, rfl⟩ .here⟩

/-- The flag is lowered and the target has the old size, but the signal is pending. -/
theorem resize_before_wait_outstanding :
    ∃ next, (World.resizing (.opened 3)).Run sampleInstalled
        (relay 1 (.opened 3) sampleWatcher 1 blankBuffer) [⟨.takeFlag 0, false⟩] sampleResized
        (.ask (.wait .input (.opened 3) .empty) next) ∧
      (sampleResized.signals.Outstanding 0 ∨ sampleResized.InStep) := by
  obtain ⟨next, run⟩ := sample_wait
  have run := sample_resized.trans run
  exact ⟨next, run, (no_resize_lost sample_install run).2 _ _ _ _ rfl⟩

end TerminalRelay
