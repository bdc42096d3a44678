import TerminalRelay.Proofs.Resize.NeverLost

/-! When a resize reaches the target before further data. The size that the next chunk finds is
the one read last, so it is current exactly if the terminal was read after its resize. A
resize that waits to be delivered is attended to only if it interrupts the wait. One that
finds a side ready waits for a chunk of data to pass. -/

namespace TerminalRelay

def Event.reads : Event → Bool
  | ⟨.read _ _, _⟩ => true
  | _ => false

def Event.interrupts : Event → Bool
  | ⟨.wait _ _ _, .error e⟩ => e = .interrupted
  | _ => false

theorem measured_append (first second : List Event) :
    measured (first ++ second) = (measured second).or (measured first) := by
  rw [measured, List.filterMap_append, List.getLast?_append]
  rfl

theorem measured_append_of_none {past : List Event} {event : Event}
    (unread : event.measurement? = none) : measured (past ++ [event]) = measured past := by
  simp [measured, unread]

theorem measured_append_of_some {past : List Event} {event : Event} {size : WindowSize}
    (read : event.measurement? = some size) : measured (past ++ [event]) = some size := by
  simp [measured, read]

theorem isSome_measured_append (past : List Event) (event : Event) :
    (measured (past ++ [event])).isSome =
      ((measured past).isSome || event.measurement?.isSome) := by
  cases read : event.measurement? with
  | none => simp [measured_append_of_none read]
  | some size => simp [measured_append_of_some read]

def Unread (events : List Event) : Prop :=
  ∀ event ∈ events, event.reads = false

theorem Screens.inStep_iff_measured {screens : Screens} {earlier later : List Event}
    (shown : measured (earlier ++ later) = some screens.applied)
    (reading : ∀ size, measured later = some size →
      size = WindowSize.effective screens.reported) :
    screens.InStep ↔ (measured later).isSome ∨
      measured earlier = some (WindowSize.effective screens.reported) := by
  rw [measured_append] at shown
  cases last : measured later with
  | none =>
    rw [last, Option.none_or] at shown
    simp [shown, Screens.InStep]
  | some size =>
    rw [last, Option.some_or] at shown
    cases shown
    simp [Screens.InStep, reading _ last]

namespace World
variable {target near far : Descriptor} {mask : SignalSet} {request : Request}
  {answer : Except Errno Readiness} {before after : Screens}

theorem calm_outside_same (happens : (calm target).outside request before after) :
    after.applied = before.applied ∧ after.reported = before.reported := by
  obtain ⟨near, far, mask, -, rfl⟩ := happens
  exact ⟨rfl, rfl⟩

theorem resizing_outside_applied (happens : (resizing target).outside request before after) :
    after.applied = before.applied := by
  rcases happens with happens | ⟨reported, rfl⟩
  · exact (calm_outside_same happens).1
  · rfl

theorem calm_wait_same (answers : (calm target).answers before (.wait near far mask) answer after) :
    after.applied = before.applied ∧ after.reported = before.reported := by
  cases answer with
  | ok ready => obtain ⟨-, rfl | rfl⟩ := answers <;> exact ⟨rfl, rfl⟩
  | error e => obtain rfl | ⟨-, rfl⟩ := answers <;> exact ⟨rfl, rfl⟩

theorem calm_answers_reported {answer : request.Answer}
    (answers : (calm target).answers before request answer after) :
    after.reported = before.reported := by
  simp only [calm] at answers
  split at answers
  · rw [answers.2]
  · split at answers
    · rw [answers.2]
    · rw [answers]
  · rw [answers.2]
  · rw [answers]
  · rw [answers.2]
  · rw [answers]
  · rw [answers.2]
  · rcases answers.2 with rfl | rfl <;> rfl
  · obtain rfl | ⟨-, rfl⟩ := answers <;> rfl
  · rw [answers]

theorem calm_answers_measurement {answer : request.Answer} {size : WindowSize}
    (answers : (calm target).answers before request answer after)
    (read : (⟨request, answer⟩ : Event).measurement? = some size) :
    size = WindowSize.effective before.reported := by
  unfold Event.measurement? at read
  split at read
  · next reported same =>
    cases same
    cases read
    exact congrArg WindowSize.effective answers.1
  · cases read

end World

namespace Stage
variable {target : Descriptor} {flag : Nat} {previous : SignalSet} {stage next : Stage}
  {past : List Event} {before after : Screens} {request : Request} {answer : request.Answer}

theorem measured_step
    (step : Step target ⟨.terminal, target, flag, previous⟩ stage ⟨request, answer⟩ next)
    (answers : (World.calm target).answers before request answer after)
    (holds : measured past = some (stage.due before.applied)) :
    measured (past ++ [⟨request, answer⟩]) = some (next.due after.applied) := by
  cases step with
  | raised =>
    obtain ⟨-, rfl⟩ := answers
    exact (measured_append_of_none rfl).trans holds
  | lowered =>
    obtain ⟨-, rfl⟩ := answers
    exact (measured_append_of_none rfl).trans holds
  | measured size => exact measured_append_of_some rfl
  | unmeasured e => exact measured_append_of_some rfl
  | copied size =>
    simp only [World.calm, if_true] at answers
    obtain ⟨-, rfl⟩ := answers
    exact (measured_append_of_none rfl).trans holds
  | refusedSize size e =>
    simp only [World.calm, if_true] at answers
    cases answers.1
  | interrupted =>
    rw [measured_append_of_none rfl, holds]
    exact congrArg some (World.calm_wait_same answers).1.symm
  | waitFailed e other =>
    rw [measured_append_of_none rfl, holds]
    exact congrArg some (World.calm_wait_same answers).1.symm
  | woken ready =>
    rw [measured_append_of_none rfl, holds, due_of_not_serving (readiness_serving ready)]
    exact congrArg some (World.calm_wait_same answers).1.symm
  | taken side farToo count left rest answer goesOn =>
    obtain rfl : after = before := answers
    rw [measured_append_of_none rfl, holds]
    split
    · rw [due_of_not_serving (next_serving side farToo)]
      rfl
    · rfl
  | refused side farToo count left e answer fails =>
    obtain rfl : after = before := answers
    rw [measured_append_of_none rfl, holds]
    exact congrArg some (due_of_not_serving (next_serving side farToo) _).symm
  | _ =>
    obtain rfl : after = before := answers
    exact (measured_append_of_none rfl).trans holds

/-- Where the flag is not looked at before the next read, if there is one. -/
def PastFlag : Stage → Prop
  | waiting | reading _ _ | concluding _ _ | finished _ => True
  | _ => False

theorem readiness_pastFlag {ready : Readiness} (some : ready.input || ready.target) :
    ready.stage.PastFlag := by
  unfold Readiness.stage
  split
  · trivial
  · next off =>
    have target : ready.target = true := by simpa [off] using some
    rw [if_pos target]
    trivial

/-- How far a resize has come that is pending at first: whether it has interrupted a wait and
whether the terminal was read since. -/
inductive Progress (flag : Nat) : Stage → Bool → Bool → Screens → Prop
  | unaware {stage screens} (outstanding : screens.signals.Outstanding flag)
      (idle : stage.serving = false)
      (late : screens.signals.Raised flag → stage.PastFlag) :
      Progress flag stage false false screens
  | alerted {screens} (raised : screens.signals.Raised flag) :
      Progress flag heading true false screens
  | noticed {screens} : Progress flag noticed true false screens
  | served {stage screens} : Progress flag stage true true screens

namespace Progress
variable {interrupted read : Bool}

theorem outside (progress : Progress flag stage interrupted read before)
    (watched : before.signals.Watched flag)
    (asks : stage.request target ⟨.terminal, target, flag, previous⟩ = some request)
    (happens : (World.calm target).outside request before after) :
    Progress flag stage interrupted read after := by
  obtain ⟨near, far, mask, rfl, rfl⟩ := happens
  cases progress with
  | unaware outstanding idle late =>
    refine .unaware (watched.outstanding_during outstanding mask) idle fun _ => ?_
    cases stage <;> cases asks
    trivial
  | alerted raised => cases asks
  | noticed => cases asks
  | served => exact .served

theorem step (progress : Progress flag stage interrupted read before)
    (watched : before.signals.Watched flag)
    (step : Step target ⟨.terminal, target, flag, previous⟩ stage ⟨request, answer⟩ next)
    (answers : (World.calm target).answers before request answer after)
    (unread : (⟨request, answer⟩ : Event).reads = false) :
    Progress flag next (interrupted || (⟨request, answer⟩ : Event).interrupts)
      (read || (⟨request, answer⟩ : Event).measurement?.isSome) after := by
  cases progress with
  | served => simpa using served
  | alerted raised =>
    cases step with
    | raised => exact noticed
    | lowered =>
      have lowered := answers.1
      rw [Host.Signals.take_iff.mpr raised] at lowered
      cases lowered
  | noticed =>
    cases step with
    | measured size => exact served
    | unmeasured e => exact served
  | unaware outstanding idle late =>
    have waited {mask : SignalSet} (woken : after = before ∨ after = before.deliver mask) :
        after.signals.Outstanding flag := by
      rcases woken with rfl | rfl
      · exact outstanding
      · exact watched.outstanding_during outstanding mask
    cases step with
    | raised => exact (late (Host.Signals.take_iff.mp answers.1.symm)).elim
    | lowered =>
      obtain ⟨-, rfl⟩ := answers
      exact .unaware (.inl (outstanding.resolve_right late)) rfl fun _ => trivial
    | measured size => cases idle
    | unmeasured e => cases idle
    | copied size => cases idle
    | refusedSize size e => cases idle
    | interrupted =>
      obtain rfl | ⟨other, -⟩ := answers
      · refine .alerted (watched.raised_during outstanding ?_)
        exact SignalSet.hasResize_without_resize previous
      · exact absurd rfl other
    | waitFailed e other =>
      have failed : Progress flag (concluding (.waitFailed e) (.waitFailed e)) false false after :=
        .unaware (waited (answers.symm.imp_left And.right)) rfl fun _ => trivial
      simpa [Event.interrupts, Event.measurement?, other] using failed
    | woken ready =>
      exact .unaware (waited answers.2) (readiness_serving ready)
        fun _ => readiness_pastFlag answers.1
    | taken side farToo count left rest answer goesOn =>
      obtain rfl : after = before := answers
      refine .unaware outstanding ?_ fun raised => (late raised).elim
      split
      · exact next_serving side farToo
      · rfl
    | refused side farToo count left e answer fails =>
      obtain rfl : after = before := answers
      exact .unaware outstanding (next_serving side farToo) fun raised => (late raised).elim
    | noted notice next quiet =>
      obtain rfl : after = before := answers
      exact .unaware outstanding idle fun raised => (late raised).elim
    | concluded notice ending =>
      obtain rfl : after = before := answers
      exact .unaware outstanding rfl fun _ => trivial
    | _ => cases unread

/-- At the next read the terminal was read if a wait was interrupted, and not otherwise. -/
theorem read_iff_interrupted {source : Descriptor} {limit : Nat}
    (progress : Progress flag stage interrupted read before)
    (asks : stage.request target ⟨.terminal, target, flag, previous⟩ =
      some (.read source limit)) : read = interrupted := by
  cases progress with
  | alerted raised => cases asks
  | noticed => cases asks
  | _ => rfl

end Progress
end Stage

namespace Stage.Passage
variable {target : Descriptor} {flag : Nat} {previous : SignalSet} {stage final : Stage}
  {world : World Screens} {before after : Screens} {past events : List Event}

theorem measured
    (passage : Passage target ⟨.terminal, target, flag, previous⟩ world stage before events final
      after)
    (outside : ∀ {request before after}, world.outside request before after →
      after.applied = before.applied)
    (answers : world.answers = (World.calm target).answers)
    (holds : measured past = some (stage.due before.applied)) :
    measured (past ++ events) = some (final.due after.applied) := by
  refine passage.keeps (fun stage past screens =>
    TerminalRelay.measured past = some (stage.due screens.applied)) ?_ ?_ holds
  · intro _ _ _ _ _ _ happens held
    rwa [outside happens]
  · intro _ _ _ _ _ _ _ step answered held
    rw [answers] at answered
    exact measured_step step answered held

theorem calm_measured
    (passage : Passage target ⟨.terminal, target, flag, previous⟩ (World.calm target) stage before
      events final after) :
    after.reported = before.reported ∧
      ∀ size, TerminalRelay.measured events = some size →
        size = WindowSize.effective before.reported := by
  have unmeasured (size : WindowSize) (read : TerminalRelay.measured [] = some size) :
      size = WindowSize.effective before.reported := by cases read
  refine passage.keeps (fun _ past screens => screens.reported = before.reported ∧
    ∀ size, TerminalRelay.measured past = some size →
      size = WindowSize.effective before.reported) ?_ ?_ ⟨rfl, unmeasured⟩
  · intro _ _ _ _ _ _ happens held
    exact ⟨(World.calm_outside_same happens).2.trans held.1, held.2⟩
  · intro _ past _ _ _ request answer _ answers held
    refine ⟨(World.calm_answers_reported answers).trans held.1, fun size last => ?_⟩
    cases read : (⟨request, answer⟩ : Event).measurement? with
    | none => exact held.2 size (measured_append_of_none read ▸ last)
    | some found =>
      rw [measured_append_of_some read] at last
      cases last
      exact held.1 ▸ World.calm_answers_measurement answers read

theorem progress
    (passage : Passage target ⟨.terminal, target, flag, previous⟩ (World.calm target) stage before
      events final after)
    (attentive : Attentive flag stage past before) (unread : Unread events)
    (progress : Progress flag stage false false before) :
    Progress flag final (events.any Event.interrupts) (TerminalRelay.measured events).isSome
      after := by
  have start : Attentive flag stage (past ++ []) before ∧ (Unread [] →
      Progress flag stage ([].any Event.interrupts) (TerminalRelay.measured []).isSome before) :=
    ⟨by rwa [List.append_nil], fun _ => progress⟩
  refine (passage.keeps (fun stage later screens => Attentive flag stage (past ++ later) screens ∧
    (Unread later → Progress flag stage (later.any Event.interrupts)
      (TerminalRelay.measured later).isSome screens)) ?_ ?_ start).2 unread
  · intro _ _ _ _ _ asks happens held
    exact ⟨held.1.outside (.inl happens),
      fun unread => (held.2 unread).outside held.1.watched asks happens⟩
  · intro _ later _ _ _ request answer step answers held
    rw [← List.append_assoc, isSome_measured_append, List.any_append]
    refine ⟨held.1.step step answers, fun unread => ?_⟩
    have first := held.2 fun event member => unread event (List.mem_append_left _ member)
    have last := unread _ (List.mem_append_right _ List.mem_cons_self)
    simpa using first.step held.1.watched step answers last

end Stage.Passage

variable {target source : Descriptor} {watcher : ResizeWatcher} {patience rounds limit : Nat}
  {buffer : Bytes} {start installed moment now : Screens} {opening earlier later : List Event}
  {left : Program Ending} {next : Except Errno Bytes → Program Ending}

/-- From any moment on at which the terminal is resized no more, the next chunk from either
side is read with the current size on the target exactly if the terminal is read before it,
or the size read last was already that one. Where the resize is not being attended to
and the flag is lowered, the terminal is read exactly if the resize interrupts a wait. -/
theorem size_before_data_iff
    (install : (World.resizing target).Run start (ResizeWatcher.install .terminal target) opening
      installed (.done (.ok watcher)))
    (run : (World.resizing target).Run installed (relay patience target watcher rounds buffer)
      earlier moment left)
    (onward : (World.calm target).Run moment left later now (.ask (.read source limit) next))
    (unread : Unread later) :
    (now.InStep ↔ (measured later).isSome ∨
      measured (opening ++ earlier) = some (WindowSize.effective now.reported)) ∧
    (serving earlier = false → ¬ moment.signals.Raised watcher.flag → ¬ moment.InStep →
      (now.InStep ↔ ∃ event ∈ later, event.interrupts)) := by
  obtain ⟨source, sink, flag, previous⟩ := watcher
  obtain ⟨rfl, rfl, watched, current, shown⟩ := World.install_current install
  obtain ⟨stage, arriving, follows⟩ := Stage.relay_passage run
  obtain ⟨final, leaving, asks, -⟩ := follows.passage onward
  have opened : Stage.Attentive flag .heading [] installed := ⟨watched, fun _ => current, rfl⟩
  have attentive := opened.passage arriving
  have shownThen := arriving.measured World.resizing_outside_applied rfl shown
  have shownNow := leaving.measured (fun happens => (World.calm_outside_same happens).1) rfl
    shownThen
  obtain ⟨same, reading⟩ := leaving.calm_measured
  have arrived : final.due now.applied = now.applied := by
    cases final <;> cases asks
    rfl
  rw [arrived] at shownNow
  have exactly := Screens.inStep_iff_measured shownNow (same ▸ reading)
  refine ⟨exactly, fun idle lowered stale => ?_⟩
  have idle : stage.serving = false := attentive.serving ▸ idle
  have outstanding := (attentive.settled idle).resolve_right stale
  have progress := leaving.progress attentive unread
    (.unaware outstanding idle fun raised => absurd raised lowered)
  have outdated : measured (opening ++ earlier) ≠ some (WindowSize.effective now.reported) := by
    intro known
    rw [Stage.due_of_not_serving idle] at shownThen
    have shown := shownThen.symm.trans known
    rw [same] at shown
    exact stale (Option.some.inj shown)
  rw [exactly, or_iff_left outdated, progress.read_iff_interrupted asks, List.any_eq_true]

def sampleLater : List Event :=
  [⟨.takeFlag 0, false⟩, ⟨.wait .input (.opened 3) .empty, .ok ⟨true, false⟩⟩]

theorem sample_read : ∃ next, (World.calm (.opened 3)).Run sampleResized
    (relay 1 (.opened 3) sampleWatcher 1 blankBuffer) sampleLater sampleResized
    (.ask (.read .input chunkSize) next) :=
  ⟨_, .answered _ ⟨rfl, rfl⟩ (.answered _ ⟨rfl, .inl rfl⟩ .here)⟩

theorem sample_size_before_data :
    ∃ next, (World.calm (.opened 3)).Run sampleResized
        (relay 1 (.opened 3) sampleWatcher 1 blankBuffer) sampleLater sampleResized
        (.ask (.read .input chunkSize) next) ∧
      (sampleResized.InStep ↔ ∃ event ∈ sampleLater, event.interrupts) := by
  obtain ⟨next, onward⟩ := sample_read
  have unread : Unread sampleLater := by
    unfold Unread
    decide
  refine ⟨next, onward, ?_⟩
  exact (size_before_data_iff sample_install sample_resized onward unread).2 rfl (by decide)
    (by decide)

/-- The terminal is resized right after the installation, and a chunk is read from the input
while the target still has the old size. -/
theorem chunk_read_before_resize :
    (World.resizing (.opened 3)).Run sampleStart (ResizeWatcher.install .terminal (.opened 3))
      sampleOpening sampleInstalled (.done (.ok sampleWatcher)) ∧
    (World.resizing (.opened 3)).Run sampleInstalled
      (relay 1 (.opened 3) sampleWatcher 1 blankBuffer) [] sampleResized
      (relay 1 (.opened 3) sampleWatcher 1 blankBuffer) ∧
    (∃ next, (World.calm (.opened 3)).Run sampleResized
      (relay 1 (.opened 3) sampleWatcher 1 blankBuffer) sampleLater sampleResized
      (.ask (.read .input chunkSize) next)) ∧
    ¬ sampleResized.InStep :=
  ⟨sample_install, sample_resized, sample_read, by decide⟩

end TerminalRelay
