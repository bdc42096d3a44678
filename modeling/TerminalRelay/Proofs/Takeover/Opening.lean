import TerminalRelay.Proofs.Concerns
import TerminalRelay.Proofs.Faults
import TerminalRelay.Proofs.Takeover.Launching

/-! Opening a pty, read off the answers of the host. It goes well just if each part of making
the pty did, its name was printed and flushed, and the command was started if there is one. -/

namespace TerminalRelay

/-- A pty was made, its name was printed and flushed, and the command, if there is one, was
started and told the name. -/
def PtyOpened (command : List Bytes) (events : List Event) : Prop :=
  ∃ opening pty, Allocation opening (.ok pty) ∧ opening ⊆ events ∧
    printedBy events = announcement pty.slave ∧ ⟨.flush, .ok ()⟩ ∈ events ∧
    ∀ program arguments, command = program :: arguments →
      ∃ streams child, ⟨.start ⟨program, arguments, pty.slave, streams⟩, .ok child⟩ ∈ events

def WithinSaveLog (events whole : List Event) : Prop :=
  ∀ event ∈ events, [Concern.log, .report].contains event.request.concern = false → event ∈ whole

theorem PtyOpened.cons {command : List Bytes} {events : List Event} {event : Event}
    (opened : PtyOpened command events) (silent : event.printed = []) :
    PtyOpened command (event :: events) := by
  obtain ⟨opening, pty, made, within, printed, flushed, started⟩ := opened
  refine ⟨opening, pty, made, List.subset_cons_of_subset event within, ?_,
    List.mem_cons_of_mem event flushed, ?_⟩
  · rw [printedBy_cons, silent, printed, List.nil_append]
  · intro program arguments same
    obtain ⟨streams, child, member⟩ := started program arguments same
    exact ⟨streams, child, List.mem_cons_of_mem event member⟩

theorem Allocation.closes {opening : List Event} {pty : Pty}
    (made : Allocation opening (.ok pty)) : ⟨.closeOnExec pty.master, .ok ()⟩ ∈ opening := by
  cases made
  simp

theorem Allocation.unclosed {opening : List Event} {fault : Fault}
    (failed : Allocation opening (.error fault)) (master : Descriptor) :
    ⟨.closeOnExec master, .ok ()⟩ ∉ opening := by
  cases failed <;> simp

/-! Printing -/

theorem printPiece_concludes (patience : Nat) (text : Bytes) :
    (printPiece patience text).Concludes fun events result =>
      result = .ok () → printedBy events = text := by
  induction patience generalizing text with
  | zero =>
    cases text with
    | nil => exact fun _ => rfl
    | cons first others => exact trivial
  | succ patience ih =>
    cases text with
    | nil => exact fun _ => rfl
    | cons first others =>
      intro answer
      match answer with
      | .ok 0 =>
        intro ok
        cases ok
      | .ok (taken + 1) =>
        apply (ih ((first :: others).drop (taken + 1))).mono
        intro events result printed ok
        rw [printedBy_cons, printed ok]
        exact List.take_append_drop (taken + 1) (first :: others)
      | .error failure =>
        change Program.Concludes (if failure.isInterruption then
          printPiece patience (first :: others) else _) _
        split
        · exact ih (first :: others)
        · intro ok
          cases ok

theorem printPieces_concludes (patience : Nat) (pieces : List String) :
    (printPieces patience pieces).Concludes fun events result =>
      result = .ok () → printedBy events = pieces.flatMap Text.encode := by
  induction pieces with
  | nil => exact fun _ => rfl
  | cons piece pieces ih =>
    rw [printPieces]
    apply (printPiece_concludes patience (Text.encode piece)).bind
    intro events result printed
    cases result with
    | error failure =>
      intro ok
      cases ok
    | ok _ =>
      apply ih.mono
      intro later result others ok
      rw [printedBy_append, printed rfl, others ok, List.flatMap_cons]

theorem announce_concludes (patience : Nat) (slave : String) :
    (announce patience slave).Concludes fun events result => match result with
      | .ok _ => printedBy events = announcement slave ∧ ⟨.flush, .ok ()⟩ ∈ events
      | .error _ => ⟨.flush, .ok ()⟩ ∉ events := by
  rw [announce]
  have prints := (printPieces_avoids patience ["Opened a new pty: ", slave, "\n"]).concludes
  apply ((printPieces_concludes patience _).and prints).bind
  rintro events result ⟨printed, only⟩
  have unflushed : ⟨.flush, .ok ()⟩ ∉ events := by
    intro member
    refine only _ member fun piece same => ?_
    cases same
  cases result with
  | error failure => exact List.not_mem_append unflushed List.not_mem_nil
  | ok _ =>
    intro flushed
    cases flushed with
    | error failure => exact List.not_mem_append unflushed (by simp)
    | ok _ =>
      refine ⟨?_, by simp⟩
      rw [printedBy_append, printed rfl]
      simp [announcement, Event.printed]

theorem streamsFor_starts_nothing (slave : String) (redirect : Bool) :
    (streamsFor slave redirect).Avoids fun request => ∃ launch, request = .start launch := by
  cases redirect with
  | false => exact trivial
  | true =>
    have openStreams : (openStreams slave).Avoids fun request =>
        ∃ launch, request = .start launch := by
      refine ⟨nofun, fun reader => ?_⟩
      cases reader with
      | error failure => exact trivial
      | ok _ =>
        refine ⟨nofun, fun writer => ?_⟩
        cases writer with
        | error failure => exact trivial
        | ok _ =>
          refine ⟨nofun, fun copy => ?_⟩
          cases copy <;> exact trivial
    apply openStreams.bind
    intro streams
    cases streams <;> exact trivial

theorem spawn_concludes (slave : String) (redirect : Bool) (program : Bytes)
    (arguments : List Bytes) :
    (spawn slave redirect (program :: arguments)).Concludes fun events result => match result with
      | .ok child => ∃ streams, ⟨.start ⟨program, arguments, slave, streams⟩, .ok child⟩ ∈ events
      | .error _ => ∀ launch child, ⟨.start launch, .ok child⟩ ∉ events := by
  have unstarted := (streamsFor_starts_nothing slave redirect).concludes
  apply unstarted.bind
  intro events streams unstarted
  have absent : ∀ launch child, ⟨.start launch, .ok child⟩ ∉ events :=
    fun launch child member => unstarted _ member ⟨launch, rfl⟩
  cases streams with
  | error failure =>
    exact fun launch child => List.not_mem_append (absent launch child) List.not_mem_nil
  | ok streams =>
    intro started
    cases started with
    | error failure =>
      exact fun launch child => List.not_mem_append (absent launch child) (by simp)
    | ok child => exact fun _ => ⟨streams, List.mem_append_right events (by simp)⟩

theorem printedBy_eq_nil {concerns : List Concern} {events : List Event}
    (business : ∀ event ∈ events, concerns.contains event.request.concern = true)
    (apart : concerns.contains .output = false) : printedBy events = [] := by
  refine List.flatMap_eq_nil_iff.mpr fun event member => ?_
  obtain ⟨request, answer⟩ := event
  cases request with
  | print text => exact absurd member (not_mem_of_concern business apart)
  | _ => rfl

/-- A mode that opens a pty goes well just if that was opened. -/
theorem executeCreate_concludes (allowance : Allowance) (redirect : Bool) (command : List Bytes) :
    (execute allowance .system (.create redirect command)).Concludes
      fun events outcome => match outcome with
        | .ok completion => PtyOpened command events ∧ ∀ ending, completion ≠ .relayed ending
        | .error fault => ¬ fault.Denied ∧
            ∀ whole, WithinSaveLog whole events → ¬ PtyOpened command whole := by
  apply (allocate_concludes.and allocate_asks.concludes).bind
  rintro opening made ⟨allocation, business⟩
  cases made with
  | error fault =>
    refine ⟨?_, ?_⟩
    · cases allocation <;> exact Fault.not_denied rfl
    · rintro whole within ⟨other, pty, made, inside, -⟩
      have closed := within _ (inside made.closes) rfl
      rw [List.append_nil] at closed
      exact allocation.unclosed pty.master closed
  | ok pty =>
    apply ((announce_concludes allowance.patience pty.slave).and
      (announce_asks allowance.patience pty.slave).concludes).bind
    rintro announcing result ⟨announced, talk⟩
    cases result with
    | error failure =>
      refine ⟨Fault.not_denied rfl, ?_⟩
      rintro whole within ⟨_, _, _, _, _, flushed, _⟩
      have somewhere := within _ flushed rfl
      simp only [List.mem_append, List.not_mem_nil, or_false] at somewhere
      obtain early | late := somewhere
      · exact not_mem_of_concern business rfl early
      · exact announced late
    | ok _ =>
      obtain ⟨printed, flushed⟩ := announced
      cases command with
      | nil =>
        refine ⟨⟨opening, pty, allocation, List.subset_append_left _ _, ?_, ?_, nofun⟩, nofun⟩
        · simp [printedBy_eq_nil business rfl, printed]
        · simp [flushed]
      | cons program arguments =>
        have spawns := spawn_concludes pty.slave redirect program arguments
        have blames := spawn_blames pty.slave redirect program arguments
        have quiet := (spawn_asks pty.slave redirect (program :: arguments)).concludes
        apply ((spawns.and blames).and quiet).bind
        rintro starting result ⟨⟨started, blames⟩, quiet⟩
        cases result with
        | error fault =>
          obtain ⟨failure, rfl⟩ := blames fault rfl
          refine ⟨Fault.not_denied rfl, ?_⟩
          rintro whole within ⟨_, other, _, _, _, _, starts⟩
          obtain ⟨streams, child, member⟩ := starts program arguments rfl
          have somewhere := within _ member rfl
          simp only [List.mem_append, List.not_mem_nil, or_false] at somewhere
          obtain early | middle | late := somewhere
          · exact not_mem_of_concern business rfl early
          · exact not_mem_of_concern talk rfl middle
          · exact started _ child late
        | ok child =>
          obtain ⟨streams, started⟩ := started
          refine ⟨⟨opening, pty, allocation, List.subset_append_left _ _, ?_, ?_, ?_⟩, nofun⟩
          · simp [printedBy_eq_nil business rfl, printed, printedBy_eq_nil quiet rfl]
          · simp [flushed]
          · rintro _ _ ⟨rfl, rfl⟩
            exact ⟨streams, child, by simp [started]⟩

end TerminalRelay
