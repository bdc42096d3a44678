import TerminalRelay.Proofs.Moments
import TerminalRelay.Proofs.Resize.BeforeData
import TerminalRelay.Proofs.Resize.Coalescing
import TerminalRelay.Proofs.Resize.Settings

/-! The sizes that a session gives its target: how many, which ones, and that a target which
accepts sizes has rows and columns as long as the session is installed. -/

namespace TerminalRelay

section
variable {target : Descriptor} {flag : Nat} {events later : List Event}

theorem WindowSize.usable_of_due {size : WindowSize}
    {reported : Except Errno (UInt16 × UInt16 × UInt16 × UInt16)}
    (given : size.toRecord = due reported) : size.rows ≠ 0 ∧ size.columns ≠ 0 := by
  have rows : size.rows = (due reported).1 := congrArg Prod.fst given
  have columns : size.columns = (due reported).2.1 := congrArg (·.2.1) given
  rw [rows, columns]
  unfold due
  split
  · split
    · assumption
    · decide
  · decide

theorem Setting.writes {device : Descriptor} {size : WindowSize} {answer : Except Errno Unit}
    (setting : Setting target events) (member : ⟨.writeSize device size, answer⟩ ∈ events) :
    device = target ∧ size.rows ≠ 0 ∧ size.columns ≠ 0 := by
  cases setting with
  | set reported answer due =>
    obtain read | later := List.mem_cons.mp member
    · cases read
    · obtain noted | set := List.mem_append.mp later
      · cases reported <;> simp [sizeNotices] at noted
      · obtain same | noted := List.mem_cons.mp set
        · cases same
          exact ⟨rfl, WindowSize.usable_of_due due⟩
        · cases List.mem_singleton.mp noted

theorem Followed.writes {device : Descriptor} {size : WindowSize} {answer : Except Errno Unit}
    (followed : Followed target flag events)
    (member : ⟨.writeSize device size, answer⟩ ∈ events) :
    device = target ∧ size.rows ≠ 0 ∧ size.columns ≠ 0 := by
  induction followed with
  | none => cases member
  | lowered _ ih => exact ih (by simpa using member)
  | raised setting _ ih =>
    have somewhere := List.mem_append.mp (by simpa using member)
    exact somewhere.elim setting.writes ih

theorem Watching.writes {device : Descriptor} {size : WindowSize} {answer : Except Errno Unit}
    {ending : Ending} (watching : Watching target events ending)
    (member : ⟨.writeSize device size, answer⟩ ∈ events) :
    device = target ∧ size.rows ≠ 0 ∧ size.columns ≠ 0 := by
  cases watching with
  | unblocked => simp at member
  | unwatched => simp at member
  | watched relayed setting followed =>
    have somewhere := List.mem_append.mp (by simpa using member)
    exact somewhere.elim setting.writes followed.writes

theorem Kept.writes {device : Descriptor} {size : WindowSize} {answer : Except Errno Unit}
    {outcome : Except Fault Ending} (kept : Kept target events outcome)
    (member : ⟨.writeSize device size, answer⟩ ∈ events) :
    device = target ∧ size.rows ≠ 0 ∧ size.columns ≠ 0 := by
  cases kept with
  | refused => cases member
  | restored watching | unrestored _ watching => exact watching.writes member

theorem Setting.untaken (setting : Setting target events) {flag : Nat} {raised : Bool} :
    ⟨.takeFlag flag, raised⟩ ∉ events := by
  cases setting with
  | set reported answer due => cases reported <;> simp [sizeNotices]

theorem Setting.sets (setting : Setting target events) :
    ∃ size answer, ⟨.writeSize target size, answer⟩ ∈ events := by
  cases setting with
  | @set size reported answer due => exact ⟨size, answer, by simp⟩

theorem Watching.set_before {earlier : List Event} {raised : Bool} {ending : Ending}
    (watching : Watching target (earlier ++ ⟨.takeFlag flag, raised⟩ :: later) ending) :
    ∃ size answer, ⟨.writeSize target size, answer⟩ ∈ earlier := by
  generalize whole : earlier ++ ⟨.takeFlag flag, raised⟩ :: later = events at watching
  have taken : ⟨.takeFlag flag, raised⟩ ∈ events := by simp [← whole]
  cases watching with
  | unblocked => simp at taken
  | unwatched => simp at taken
  | @watched previous _ set others _ relayed setting followed =>
    obtain ⟨size, answer, sets⟩ := setting.sets
    refine ⟨size, answer, ?_⟩
    rw [← List.cons_append, ← List.cons_append, List.append_eq_append_iff] at whole
    rcases whole with ⟨rest, opening, taking⟩ | ⟨rest, rfl, -⟩
    · cases rest with
      | nil =>
        rw [List.append_nil] at opening
        simp [← opening, sets]
      | cons first rest =>
        obtain ⟨rfl, -⟩ := List.cons.inj taking
        have inside : ⟨.takeFlag flag, raised⟩ ∈ earlier ++ ⟨.takeFlag flag, raised⟩ :: rest :=
          by simp
        rw [← opening] at inside
        simp [setting.untaken] at inside
    · simp [sets]

theorem Kept.set_before {earlier : List Event} {raised : Bool} {outcome : Except Fault Ending}
    (kept : Kept target (earlier ++ ⟨.takeFlag flag, raised⟩ :: later) outcome) :
    ∃ size answer, ⟨.writeSize target size, answer⟩ ∈ earlier := by
  generalize whole : earlier ++ ⟨.takeFlag flag, raised⟩ :: later = events at kept
  cases kept with
  | refused => simp at whole
  | restored watching | unrestored _ watching =>
    subst whole
    exact watching.set_before

end

/-! How many sizes are set. -/

def Event.sets (target : Descriptor) : Event → Bool
  | ⟨.writeSize device _, _⟩ => device = target
  | _ => false

def Event.watches : Event → Bool
  | ⟨.watchResize, .ok _⟩ => true
  | _ => false

section
variable {target : Descriptor} {flag : Nat} {events : List Event}

theorem takings_cons (event : Event) (events : List Event) :
    takings (event :: events) = event.taking?.toList ++ takings events := by
  cases taken : event.taking? with
  | none => exact List.filterMap_cons_none taken
  | some raised => exact List.filterMap_cons_some taken

theorem takings_append (events later : List Event) :
    takings (events ++ later) = takings events ++ takings later :=
  List.filterMap_append

theorem Setting.counts (setting : Setting target events) :
    events.countP (Event.sets target) = 1 ∧ events.countP Event.watches = 0 ∧
      takings events = [] := by
  cases setting with
  | set reported answer due =>
    cases reported <;>
      simp [sizeNotices, Event.sets, Event.watches, takings, Event.taking?]

theorem Followed.counts (followed : Followed target flag events) :
    events.countP (Event.sets target) = (takings events).count true ∧
      events.countP Event.watches = 0 := by
  induction followed with
  | none => exact ⟨rfl, rfl⟩
  | lowered _ ih => simpa [takings_cons, Event.sets, Event.watches, Event.taking?] using ih
  | raised setting _ ih =>
    obtain ⟨one, none, untaken⟩ := setting.counts
    obtain ⟨each, unwatched⟩ := ih
    constructor
    · simp [takings_cons, takings_append, Event.sets, Event.taking?, one, untaken, each,
        Nat.add_comm]
    · simp [Event.watches, none, unwatched]

/-- A size is set for the watcher that is granted, and for each time that the flag was raised. -/
theorem Kept.counts {outcome : Except Fault Ending} (kept : Kept target events outcome) :
    events.countP (Event.sets target) =
      events.countP Event.watches + (takings events).count true := by
  have watching {ending : Ending} (watching : Watching target events ending) :
      events.countP (Event.sets target) =
        events.countP Event.watches + (takings events).count true := by
    cases watching with
    | unblocked => rfl
    | unwatched => rfl
    | @watched previous flag set later _ relayed setting followed =>
      obtain ⟨one, none, untaken⟩ := setting.counts
      obtain ⟨each, unwatched⟩ := followed.counts
      have watches : List.countP Event.watches (⟨.block .resize, .ok previous⟩ ::
          ⟨.watchResize, .ok flag⟩ :: (set ++ later)) = 1 := by
        rw [List.countP_cons_of_neg Bool.false_ne_true, List.countP_cons_of_pos rfl,
          List.countP_append, none, unwatched]
      rw [watches]
      simp [takings_cons, takings_append, Event.sets, Event.taking?, one, untaken, each]
  cases kept with
  | refused => rfl
  | restored watched | unrestored _ watched => exact watching watched

theorem Event.sizes_of_sets {target : Descriptor} (event : Event)
    (sets : event.sets target = true) : event.request.sizes = true := by
  obtain ⟨request, answer⟩ := event
  cases request with
  | writeSize device size => rfl
  | _ => cases sets

theorem Event.sizes_of_watches (event : Event) (watches : event.watches = true) :
    event.request.sizes = true := by
  obtain ⟨request, answer⟩ := event
  cases request with
  | watchResize => rfl
  | _ => cases watches

theorem countP_sizing {kind : Event → Bool}
    (sizes : ∀ event, kind event = true → event.request.sizes = true) (events : List Event) :
    (sizing events).countP kind = events.countP kind := by
  rw [sizing, List.countP_filter]
  refine List.countP_congr fun event _ => ?_
  simpa using sizes event

theorem takings_sizing (events : List Event) : takings (sizing events) = takings events := by
  have unsized (event : Event) (other : ¬ event.request.sizes = true) : event.taking? = none := by
    obtain ⟨request, answer⟩ := event
    cases request with
    | takeFlag flag => exact absurd rfl other
    | _ => rfl
  induction events with
  | nil => rfl
  | cons event events ih =>
    rw [sizing_cons]
    split
    · rw [takings_cons, takings_cons, ih]
    · next other => rw [takings_cons, unsized event other, ih, Option.toList_none, List.nil_append]

end

/-- A target that accepts every size and holds the last one. Nobody else sets one on it. -/
structure World.Shows {State : Type} (world : World State) (target : Descriptor)
    (held : State → WindowSize) : Prop where
  outside : ∀ {request before after}, world.outside request before after →
    held after = held before
  accepts : ∀ {size answer before after},
    world.answers before (.writeSize target size) answer after → answer = .ok () ∧ held after = size
  keeps : ∀ {request answer before after}, (∀ size, request ≠ .writeSize target size) →
    world.answers before request answer after → held after = held before

theorem World.Shows.run {State α : Type} {world : World State} {target : Descriptor}
    {held : State → WindowSize} {program rest : Program α} {before after : State}
    {events : List Event} (shows : world.Shows target held) (fits : WindowSize → Prop)
    (run : world.Run before program events after rest)
    (fitting : ∀ size answer, ⟨.writeSize target size, answer⟩ ∈ events → fits size)
    (set : fits (held before) ∨ ∃ size answer, ⟨.writeSize target size, answer⟩ ∈ events) :
    fits (held after) := by
  induction run with
  | here => exact set.resolve_right (by simp)
  | outside happens _ ih => exact ih fitting (by rwa [shows.outside happens])
  | @answered _ _ _ request _ _ _ answer answers _ ih =>
    have later := fun size answer member => fitting size answer (List.mem_cons_of_mem _ member)
    by_cases sets : ∃ size, request = .writeSize target size
    · obtain ⟨size, rfl⟩ := sets
      refine ih later (.inl ?_)
      rw [(shows.accepts answers).2]
      exact fitting size answer List.mem_cons_self
    · have other := not_exists.mp sets
      refine ih later ?_
      rw [shows.keeps other answers]
      refine set.imp_right ?_
      rintro ⟨size, given, member⟩
      refine ⟨size, given, (List.mem_cons.mp member).resolve_left ?_⟩
      rintro ⟨⟩
      exact other size rfl

theorem runSession_refused (allowance : Allowance) (target : Descriptor) :
    (runSession allowance target).Concludes fun events outcome =>
      ∀ e, outcome = .error (.rawMode e) → ∃ found, events =
        [⟨.readAttributes .terminal, .ok found⟩,
          ⟨.writeAttributes .terminal found.snapshot.raw, .error e⟩] := by
  have held (hold : RawMode) (opening : List Event) :
      (runHeld allowance target hold).Concludes fun events outcome =>
        ∀ e, outcome = .error (.rawMode e) → ∃ found, opening ++ events =
          [⟨.readAttributes .terminal, .ok found⟩,
            ⟨.writeAttributes .terminal found.snapshot.raw, .error e⟩] := by
    apply (runHeld_blames allowance target hold).mono
    rintro events _ blames e rfl
    obtain ⟨other, same⟩ := blames _ rfl
    cases same
  intro found
  cases found with
  | error e => exact fun _ => held ⟨.terminal, none⟩ [_, _]
  | ok attributes =>
    intro entered
    cases entered with
    | error e =>
      rintro _ ⟨⟩
      exact ⟨attributes, rfl⟩
    | ok _ => exact held ⟨.terminal, some attributes.snapshot⟩ [_, _]

theorem sizes_set {State : Type} {world : World State} {before after : State}
    {allowance : Allowance} {target : Descriptor} {events : List Event}
    {outcome : Except Fault Ending}
    (run : world.Run before (runSession allowance target) events after (.done outcome)) :
    events.countP (Event.sets target) =
      events.countP Event.watches + (takings events).count true := by
  have counts := ((runSession_sized allowance target).concludes.run run).counts
  rwa [countP_sizing Event.sizes_of_sets, countP_sizing Event.sizes_of_watches,
    takings_sizing] at counts

theorem set_before_taking {State : Type} {world : World State} {before after : State}
    {allowance : Allowance} {target : Descriptor} {flag : Nat} {events : List Event}
    {rest : Program (Except Fault Ending)}
    (run : world.Run before (runSession allowance target) events after rest)
    (taking : .takeFlag flag ∈ requested events rest.asked) :
    ∃ size answer, ⟨.writeSize target size, answer⟩ ∈ events := by
  have sized := runSession_sized allowance target
  have split : ∃ earlier raised later outcome, (∀ event ∈ earlier, event ∈ events) ∧
      Kept target (sizing earlier ++ ⟨.takeFlag flag, raised⟩ :: later) outcome := by
    rcases List.mem_append.mp taking with taken | asked
    · obtain ⟨⟨_, raised⟩, member, rfl⟩ := List.mem_map.mp taken
      obtain ⟨earlier, others, rfl⟩ := List.append_of_mem member
      obtain ⟨more, outcome, kept⟩ := Program.Shaped.run sized run
      rw [List.append_assoc, sizing_append] at kept
      exact ⟨earlier, raised, _, outcome, fun _ => List.mem_append_left _, kept⟩
    · cases rest with
      | ask request next =>
        obtain rfl := List.mem_singleton.mp asked
        obtain ⟨more, outcome, kept⟩ := (Program.Shaped.after_run sized run false).inhabited
        rw [sizing_append] at kept
        exact ⟨events, false, _, outcome, fun _ => id, kept⟩
      | done | unfinished => cases asked
  obtain ⟨earlier, raised, later, outcome, included, kept⟩ := split
  obtain ⟨size, answer, member⟩ := kept.set_before
  exact ⟨size, answer, included _ (List.mem_filter.mp member).1⟩

/-- A session sets a size when its watcher is installed and each time that it finds the flag
raised, and never otherwise: the one that the terminal reports just then, or the fallback. It
finds the flag raised just if a resize reached it since it last looked. -/
theorem session_sizes_target {State : Type} {world : World State} {before after : State}
    {allowance : Allowance} {target : Descriptor} {events : List Event}
    {rest : Program (Except Fault Ending)}
    (run : world.Run before (runSession allowance target) events after rest) :
    (∃ more outcome, Kept target (sizing events ++ more) outcome) ∧
      (rest = .unfinished → SessionSpent allowance events) ∧
      (∀ outcome, rest = .done outcome →
        Kept target (sizing events) outcome ∧
          (∀ e, outcome = .error (.rawMode e) → ∃ found, events =
            [⟨.readAttributes .terminal, .ok found⟩,
              ⟨.writeAttributes .terminal found.snapshot.raw, .error e⟩]) ∧
          events.countP (Event.sets target) =
            events.countP Event.watches + (takings events).count true ∧
          World.replaying.Brings (apartFromResizes events) (runSession allowance target)
            fun _ left again => left = [] ∧ again = outcome) ∧
      (∀ held, world.Shows target held →
        (∃ size answer, ⟨.writeSize target size, answer⟩ ∈ events) ∨
          (∃ flag, .takeFlag flag ∈ requested events rest.asked) →
        (held after).rows ≠ 0 ∧ (held after).columns ≠ 0) ∧
      ∀ (counted final : Screens × Tally) (course : List Event)
        (left : Program (Except Fault Ending)),
        counted.2.Tells counted.1.signals →
        (World.tallying target).Run counted (runSession allowance target) course final left →
        ∃ found, final.2.found = counted.2.found ++ found ∧
          takings course = (found.map fun count => decide (0 < count)) ∧
          ∀ outcome, left = .done outcome → course.countP (Event.sets target) =
            course.countP Event.watches + found.countP fun count => decide (0 < count) := by
  have sized := runSession_sized allowance target
  obtain ⟨more, outcome, whole⟩ := Program.Shaped.run sized run
  refine ⟨⟨sizing more, outcome, sizing_append events more ▸ whole⟩, ?_, ?_, ?_, ?_⟩
  · rintro rfl
    exact (runSession_exhausts allowance target).run run
  · rintro outcome rfl
    exact ⟨(Program.Shaped.concludes sized).run run, (runSession_refused allowance target).run run,
      sizes_set run, (runSession_indifferent _ _).replays run⟩
  · intro held shows installed
    have fits (size : WindowSize) (answer : Except Errno Unit)
        (member : ⟨.writeSize target size, answer⟩ ∈ events) : size.rows ≠ 0 ∧ size.columns ≠ 0 :=
      (whole.writes (List.mem_filter.mpr ⟨List.mem_append_left _ member, rfl⟩)).2
    refine shows.run (fun size => size.rows ≠ 0 ∧ size.columns ≠ 0) run fits (.inr ?_)
    obtain set | ⟨flag, taking⟩ := installed
    · exact set
    · exact set_before_taking run taking
  · intro counted final course left tells counting
    obtain ⟨-, found, grown, taken⟩ := World.tallying_run counting tells
    refine ⟨found, grown, taken, ?_⟩
    rintro outcome rfl
    rw [sizes_set counting, taken, List.count_eq_countP, List.countP_map]
    simp [Function.comp_def]

theorem World.resizing_shows (target : Descriptor) :
    (resizing target).Shows target Screens.applied where
  outside := resizing_outside_applied
  accepts answers := by
    simp only [resizing, calm, if_true] at answers
    exact ⟨answers.1, congrArg Screens.applied answers.2⟩
  keeps other answers := by
    simp only [resizing, calm] at answers
    split at answers
    · rw [answers.2]
    · split at answers
      · next same =>
        obtain rfl := same
        exact absurd rfl (other _)
      · rw [answers]
    · rw [answers.2]
    · rw [answers]
    · rw [answers.2]
    · rw [answers]
    · rw [answers.2]
    · rcases answers.2 with rfl | rfl <;> rfl
    · obtain rfl | ⟨-, rfl⟩ := answers <;> rfl
    · rw [answers]

def resizedTwice : List Event :=
  [⟨.readAttributes .terminal, .error .notTerminal⟩,
    ⟨.log (.attributesUnreadable .notTerminal), ()⟩, ⟨.log (.rawMode false), ()⟩,
    ⟨.block .resize, .ok .empty⟩, ⟨.watchResize, .ok 0⟩,
    ⟨.readSize .terminal, .ok (.ofCells 0 24)⟩, ⟨.writeSize (.opened 3) .fallback, .ok ()⟩,
    ⟨.log (.resized .fallback), ()⟩, ⟨.takeFlag 0, false⟩,
    ⟨.wait .input (.opened 3) .empty, .error .interrupted⟩, ⟨.takeFlag 0, true⟩,
    ⟨.readSize .terminal, .ok (.ofCells 132 43)⟩,
    ⟨.writeSize (.opened 3) (.ofCells 132 43), .ok ()⟩, ⟨.log (.resized (.ofCells 132 43)), ()⟩,
    ⟨.wait .input (.opened 3) .empty, .error .badDescriptor⟩,
    ⟨.log (.waitFailed .badDescriptor), ()⟩, ⟨.unwatchResize 0, ()⟩, ⟨.setMask .empty, .ok ()⟩,
    ⟨.log (.relayEnded (.waitFailed .badDescriptor)), ()⟩]

theorem resizedTwice_run : (World.resizing (.opened 3)).Run
    ⟨.ok (.ofCells 0 24), .unset, .quiet .empty⟩ (runSession ⟨2, 1⟩ (.opened 3)) resizedTwice
    ⟨.ok (.ofCells 132 43), .ofCells 132 43, ⟨.empty, false, [], 1⟩⟩
    (.done (.ok (.waitFailed .badDescriptor))) :=
  .answered _ rfl <| .answered _ rfl <| .answered _ rfl <| .answered _ ⟨rfl, rfl⟩ <|
  .answered _ ⟨rfl, rfl⟩ <| .answered _ ⟨rfl, rfl⟩ <| .answered _ ⟨rfl, rfl⟩ <|
  .answered _ rfl <| .answered _ ⟨rfl, rfl⟩ <|
  .outside (.inr ⟨.ok (.ofCells 90 35), rfl⟩) <|
  .outside (.inr ⟨.ok (.ofCells 132 43), rfl⟩) <|
  .answered _ (.inl rfl) <| .answered _ ⟨rfl, rfl⟩ <| .answered _ ⟨rfl, rfl⟩ <|
  .answered _ ⟨rfl, rfl⟩ <| .answered _ rfl <| .answered _ (.inr ⟨by decide, rfl⟩) <|
  .answered _ rfl <| .answered _ rfl <| .answered _ rfl <| .answered _ rfl .here

/-- The terminal is resized twice while a session waits, and its flag is found raised once. -/
theorem resized_twice_followed_once :
    (World.resizing (.opened 3)).Run ⟨.ok (.ofCells 0 24), .unset, .quiet .empty⟩
        (runSession ⟨2, 1⟩ (.opened 3)) resizedTwice
        ⟨.ok (.ofCells 132 43), .ofCells 132 43, ⟨.empty, false, [], 1⟩⟩
        (.done (.ok (.waitFailed .badDescriptor))) ∧
      Kept (.opened 3) (sizing resizedTwice) (.ok (.waitFailed .badDescriptor)) ∧
      resizedTwice.countP (Event.sets (.opened 3)) = 2 ∧
      (WindowSize.ofCells 132 43).rows ≠ 0 ∧ (WindowSize.ofCells 132 43).columns ≠ 0 := by
  obtain ⟨-, -, done, shown, -⟩ := session_sizes_target resizedTwice_run
  obtain ⟨kept, -, counted, -⟩ := done _ rfl
  refine ⟨resizedTwice_run, kept, counted.trans rfl, ?_⟩
  exact shown Screens.applied (World.resizing_shows _) (.inr ⟨0, by simp [requested, resizedTwice]⟩)

end TerminalRelay
