import TerminalRelay.Proofs.Allowances
import TerminalRelay.Proofs.Concerns

/-! What a session leaves of the attributes of its terminal. Raw mode is entered at most once,
and the snapshot is put back once if it was and never otherwise. The terminal is as before
if the snapshot kept all of its attributes. -/

namespace TerminalRelay

/-- A terminal that stores the attributes that it is given, unless the write fails. Nobody
else sets them while the session lasts. -/
def World.settled : World Attributes where
  outside _ _ _ := False
  answers before request answer after :=
    match request, answer with
    | .writeAttributes .terminal given, .ok () => after = given
    | .readAttributes .terminal, .ok found => found = before ∧ after = before
    | _, _ => after = before

def Request.setsAttributes : Request → Bool
  | .writeAttributes _ _ => true
  | _ => false

def settings (events : List Event) : List Event :=
  events.filter fun event => event.request.setsAttributes

def setting (attributes : Attributes) (answer : Except Errno Unit) : Event :=
  ⟨.writeAttributes .terminal attributes, answer⟩

namespace Attributes

def Known (a : Attributes) : Prop :=
  a.input &&& ~~~inputFlags = 0 ∧ a.output &&& ~~~outputFlags = 0 ∧
    a.localFlags &&& ~~~localKept = 0

private theorem and_eq_self_iff (word kept : BitVec 32) :
    word &&& kept = word ↔ word &&& ~~~kept = 0 := by
  constructor
  · intro same
    rw [← same, BitVec.and_assoc, BitVec.and_not_self]
    exact BitVec.and_zero
  · intro nothing
    ext i bound
    have bit := congrArg (·[i]) nothing
    simp at bit ⊢
    exact bit

theorem snapshot_eq_iff (a : Attributes) : a.snapshot = a ↔ a.Known := by
  cases a
  simp [snapshot, Known, and_eq_self_iff]

end Attributes

/-- What a session did to the attributes of its terminal: the attempts to set them, what they
are afterwards, and its result. -/
inductive Teardown (before : Attributes) :
    List Event → Attributes → Except Fault Ending → Prop
  | leftAlone (ending : Ending) : Teardown before [] before (.ok ending)
  | refused (e : Errno) :
      Teardown before [setting before.snapshot.raw (.error e)] before (.error (.rawMode e))
  | restored (interruptions : Nat) (ending : Ending) :
      Teardown before
        (setting before.snapshot.raw (.ok ()) ::
          (List.replicate interruptions (setting before.snapshot (.error .interrupted)) ++
            [setting before.snapshot (.ok ())]))
        before.snapshot (.ok ending)
  | stuck (interruptions : Nat) (e : Errno) (other : e ≠ .interrupted) :
      Teardown before
        (setting before.snapshot.raw (.ok ()) ::
          (List.replicate interruptions (setting before.snapshot (.error .interrupted)) ++
            [setting before.snapshot (.error e)]))
        before.snapshot.raw (.error (.restoreTerminal e))

variable {State : Type} {world : World State}

private theorem relaySession_avoids (allowance : Allowance) (target : Descriptor) :
    (relaySession allowance target).Avoids (·.setsAttributes) := by
  refine (relaySession_asks allowance target).avoids fun request sets => ?_
  cases request <;> first | rfl | cases sets

/-! What becomes of the attributes, one function at a time. -/

private theorem run_of_ask {α : Type} {before after : Attributes} {request : Request}
    {next : request.Answer → Program α} {events : List Event} {value : α}
    (run : World.settled.Run before (.ask request next) events after (.done value)) :
    ∃ answer between later, World.settled.answers before request answer between ∧
      events = ⟨request, answer⟩ :: later ∧
      World.settled.Run between (next answer) later after (.done value) := by
  obtain ⟨opened, answer, between, later, drifts, answers, split, rest⟩ := run.of_ask
  cases drifts.cases_head with
  | inl same => exact ⟨answer, between, later, same ▸ answers, split, rest⟩
  | inr moved =>
    obtain ⟨_, happens, _⟩ := moved
    exact happens.elim

private theorem run_keeps {α : Type} {program rest : Program α} {before after : Attributes}
    {events : List Event} (avoids : program.Avoids (·.setsAttributes))
    (run : World.settled.Run before program events after rest) :
    settings events = [] ∧ after = before := by
  refine ⟨List.filter_eq_nil_iff.mpr (avoids.run run), ?_⟩
  refine avoids.keeps id run (fun happens => happens.elim) ?_
  intro request answer before after unset answers
  simp only [World.settled] at answers
  split at answers
  · exact absurd rfl unset
  · exact answers.2
  · exact answers

private theorem restore_run {saved : Attributes} {patience : Nat} {before after : Attributes}
    {events : List Event} {result : Except Fault Unit}
    (run : World.settled.Run before (restore .terminal saved patience) events after
      (.done result)) :
    ∃ interruptions settled,
      events = List.replicate interruptions (setting saved (.error .interrupted)) ++
        [setting saved settled] ∧
      (settled = .ok () ∧ after = saved ∧ result = .ok () ∨
        ∃ e, e ≠ .interrupted ∧ settled = .error e ∧ after = before ∧
          result = .error (.restoreTerminal e)) := by
  induction patience generalizing events with
  | zero => cases run
  | succ patience ih =>
    obtain ⟨answer, between, later, answers, rfl, rest⟩ := run_of_ask run
    cases answer with
    | ok stored =>
      obtain ⟨rfl, rfl, done⟩ := rest.of_done
      cases done
      exact ⟨0, .ok (), rfl, .inl ⟨rfl, answers, rfl⟩⟩
    | error e =>
      obtain rfl : between = before := answers
      by_cases interrupted : e = .interrupted
      · subst interrupted
        obtain ⟨interruptions, settled, rfl, outcome⟩ := ih rest
        exact ⟨interruptions + 1, settled, rfl, outcome⟩
      · change World.settled.Run _ (if e = .interrupted then _ else _) _ _ _ at rest
        rw [if_neg interrupted] at rest
        obtain ⟨rfl, rfl, done⟩ := rest.of_done
        cases done
        exact ⟨0, .error e, rfl, .inr ⟨e, interrupted, rfl, rfl, rfl⟩⟩

private theorem acquire_run {before after : Attributes} {events : List Event}
    {result : Except Fault RawMode}
    (run : World.settled.Run before (RawMode.acquire .terminal) events after (.done result)) :
    settings events = [] ∧ after = before ∧ result = .ok ⟨.terminal, none⟩ ∨
    (∃ e, settings events = [setting before.snapshot.raw (.error e)] ∧ after = before ∧
      result = .error (.rawMode e)) ∨
    settings events = [setting before.snapshot.raw (.ok ())] ∧ after = before.snapshot.raw ∧
      result = .ok ⟨.terminal, some before.snapshot⟩ := by
  obtain ⟨answer, between, later, answers, rfl, rest⟩ := run_of_ask run
  cases answer with
  | error e =>
    obtain rfl : between = before := answers
    obtain ⟨_, _, _, same, rfl, noted⟩ := run_of_ask rest
    obtain rfl : _ = between := same
    obtain ⟨rfl, rfl, done⟩ := noted.of_done
    cases done
    exact .inl ⟨rfl, rfl, rfl⟩
  | ok found =>
    obtain ⟨rfl, rfl⟩ : found = before ∧ between = before := answers
    obtain ⟨answer, entered, later, answers, rfl, entering⟩ := run_of_ask rest
    cases answer with
    | error e =>
      obtain rfl : entered = _ := answers
      obtain ⟨rfl, rfl, done⟩ := entering.of_done
      cases done
      exact .inr (.inl ⟨e, rfl, rfl, rfl⟩)
    | ok stored =>
      obtain rfl : entered = _ := answers
      obtain ⟨rfl, rfl, done⟩ := entering.of_done
      cases done
      exact .inr (.inr ⟨rfl, rfl, rfl⟩)

private theorem settings_append (first second : List Event) :
    settings (first ++ second) = settings first ++ settings second :=
  List.filter_append first second

private theorem settings_interruptions (saved : Attributes) (interruptions : Nat)
    (answer : Except Errno Unit) :
    settings (List.replicate interruptions (setting saved (.error .interrupted)) ++
      [setting saved answer]) =
    List.replicate interruptions (setting saved (.error .interrupted)) ++
      [setting saved answer] := by
  refine List.filter_eq_self.mpr fun event member => ?_
  rcases List.mem_append.mp member with repeated | last
  · rw [List.eq_of_mem_replicate repeated]
    rfl
  · rw [List.mem_singleton.mp last]
    rfl

private theorem runHeld_run {allowance : Allowance} {target : Descriptor} {held : RawMode}
    {before after : Attributes} {events : List Event} {result : Except Fault Ending}
    (run : World.settled.Run before (runHeld allowance target held) events after
      (.done result)) :
    ∃ ending released releasing, settings events = settings releasing ∧
      World.settled.Run before (held.release allowance.patience) releasing after
        (.done released) ∧
      result = released.map fun _ => ending := by
  obtain ⟨_, relaying, _, same, rfl, noted⟩ := run_of_ask run
  obtain rfl : relaying = before := same
  change World.settled.Run relaying (relaySession allowance target >>= _) _ _ _ at noted
  obtain ⟨ending, relayed, restoring, _, rfl, relayRun, left⟩ := noted.of_bind
  obtain ⟨unset, rfl⟩ := run_keeps (relaySession_avoids allowance target) relayRun
  obtain ⟨released, releasing, restored, last, rfl, releaseRun, ended⟩ := left.of_bind
  have split : settings (relayed ++ (releasing ++ last)) =
      settings releasing ++ settings last := by
    rw [settings_append, settings_append, unset, List.nil_append]
  cases released with
  | error fault =>
    obtain ⟨rfl, rfl, done⟩ := ended.of_done
    cases done
    exact ⟨ending, .error fault, releasing, split.trans (List.append_nil _), releaseRun, rfl⟩
  | ok settled =>
    obtain ⟨_, told, _, same, rfl, last⟩ := run_of_ask ended
    obtain rfl : told = restored := same
    obtain ⟨rfl, rfl, done⟩ := last.of_done
    cases done
    exact ⟨ending, .ok (), releasing, split.trans (List.append_nil _), releaseRun, rfl⟩

theorem runSession_teardown {allowance : Allowance} {target : Descriptor}
    {before after : Attributes} {events : List Event} {result : Except Fault Ending}
    (run : World.settled.Run before (runSession allowance target) events after (.done result)) :
    Teardown before (settings events) after result := by
  obtain ⟨acquired, first, held, later, rfl, acquiring, session⟩ := run.of_bind
  rw [settings_append]
  rcases acquire_run acquiring with
    ⟨unset, rfl, rfl⟩ | ⟨e, refused, rfl, rfl⟩ | ⟨entered, rfl, rfl⟩
  · obtain ⟨ending, released, releasing, same, releaseRun, rfl⟩ := runHeld_run session
    rw [RawMode.release_cooked] at releaseRun
    obtain ⟨rfl, rfl, done⟩ := releaseRun.of_done
    cases done
    rw [unset, same]
    exact .leftAlone ending
  · obtain ⟨rfl, rfl, done⟩ := session.of_done
    cases done
    rw [refused]
    exact .refused e
  · obtain ⟨ending, released, releasing, same, releaseRun, rfl⟩ := runHeld_run session
    rw [RawMode.release_raw] at releaseRun
    obtain ⟨interruptions, settled, rfl, outcome⟩ := restore_run releaseRun
    rw [entered, same, settings_interruptions]
    rcases outcome with ⟨rfl, rfl, rfl⟩ | ⟨e, other, rfl, rfl, rfl⟩
    · exact .restored interruptions ending
    · exact .stuck interruptions e other

/-- A session leaves the terminal as it found it exactly if raw mode was not entered or the
snapshot kept everything, unless the snapshot cannot be put back, which is then the result. It
stops without a result only when it has spent its allowance. -/
theorem session_restores_terminal {allowance : Allowance} {target : Descriptor}
    {before after : Attributes} {events : List Event} {rest : Program (Except Fault Ending)}
    (run : World.settled.Run before (runSession allowance target) events after rest) :
    (rest = .unfinished → SessionSpent allowance events) ∧
      ∀ result, rest = .done result →
        Teardown before (settings events) after result ∧
          ((∀ e, result ≠ .error (.restoreTerminal e)) →
            (after = before ↔
              setting before.snapshot.raw (.ok ()) ∉ settings events ∨ before.Known)) := by
  constructor
  · rintro rfl
    exact (runSession_exhausts allowance target).run run
  rintro result rfl
  have teardown := runSession_teardown run
  refine ⟨teardown, fun settled => ?_⟩
  generalize settings events = attempts at teardown
  cases teardown with
  | leftAlone ending => exact ⟨fun _ => .inl List.not_mem_nil, fun _ => rfl⟩
  | refused e =>
    refine ⟨fun _ => .inl fun entered => ?_, fun _ => rfl⟩
    cases List.mem_singleton.mp entered
  | restored interruptions ending =>
    rw [Attributes.snapshot_eq_iff]
    exact ⟨.inr, fun kept => kept.resolve_left fun absent => absent List.mem_cons_self⟩
  | stuck interruptions e other => exact absurd rfl (settled e)

def shortSession (before : Attributes) : List Event :=
  [⟨.readAttributes .terminal, .ok before⟩, setting before.snapshot.raw (.ok ()),
    ⟨.log (.rawMode true), ()⟩, ⟨.block .resize, .ok .empty⟩, ⟨.watchResize, .ok 0⟩,
    ⟨.readSize .terminal, .ok .fallback⟩, ⟨.writeSize (.opened 3) .fallback, .ok ()⟩,
    ⟨.log (.resized .fallback), ()⟩, ⟨.takeFlag 0, false⟩,
    ⟨.wait .input (.opened 3) .empty, .ok ⟨true, false⟩⟩, ⟨.read .input chunkSize, .ok []⟩,
    ⟨.unwatchResize 0, ()⟩, ⟨.setMask .empty, .ok ()⟩, setting before.snapshot (.ok ()),
    ⟨.log (.relayEnded .localClosed), ()⟩]

theorem shortSession_run (before : Attributes) :
    World.settled.Run before (runSession ⟨1, 1⟩ (.opened 3)) (shortSession before) before.snapshot
      (.done (.ok .localClosed)) :=
  .answered _ ⟨rfl, rfl⟩ <| .answered _ rfl <| .answered _ rfl <| .answered _ rfl <|
  .answered _ rfl <| .answered _ rfl <| .answered _ rfl <| .answered _ rfl <|
  .answered _ rfl <| .answered _ rfl <| .answered _ rfl <| .answered _ rfl <|
  .answered _ rfl <| .answered _ rfl <| .answered _ rfl .here

/-- A terminal with the attributes of a new one is restored. -/
theorem initial_terminal_restored :
    World.settled.Run .initial (runSession ⟨1, 1⟩ (.opened 3)) (shortSession .initial) .initial
        (.done (.ok .localClosed)) ∧
      Teardown .initial (settings (shortSession .initial)) .initial (.ok .localClosed) :=
  ⟨shortSession_run .initial, ((session_restores_terminal (shortSession_run .initial)).2 _ rfl).1⟩

/-- A terminal that maps upper case to lower case no longer does so after a session. -/
theorem case_mapping_lost :
    ∃ before events after, World.settled.Run before (runSession ⟨1, 1⟩ (.opened 3)) events after
      (.done (.ok .localClosed)) ∧ before.input = 0x700 ∧ after.input = 0x500 :=
  ⟨{ Attributes.initial with input := 0x700 }, _, _, shortSession_run _, rfl, rfl⟩

end TerminalRelay
