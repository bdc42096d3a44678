import TerminalRelay.Proofs.Resize.Attending
import TerminalRelay.Session

/-! Programs that stop without a result. They do so only for want of allowance: a relay has then
waited in all its rounds or offered one chunk as often as it may, and a session may also have
been interrupted that often while it put the terminal back. -/

namespace TerminalRelay

def Program.Finishes {α : Type} : Program α → Prop
  | .done _ => True
  | .unfinished => False
  | .ask _ next => ∀ answer, (next answer).Finishes

/-- However a program is answered, if it stops without a result then what it did is of this
kind. -/
def Program.Exhausts {α : Type} : Program α → (List Event → Prop) → Prop
  | .done _, _ => True
  | .unfinished, spent => spent []
  | .ask request next, spent =>
    ∀ answer, (next answer).Exhausts fun events => spent (⟨request, answer⟩ :: events)

section
variable {State α β : Type} {world : World State} {program : Program α}
  {spent : List Event → Prop}

namespace Program.Finishes

theorem bind {next : α → Program β} {kind : List Event → α → Prop} (first : program.Finishes)
    (concludes : program.Concludes kind)
    (rest : ∀ events value, kind events value → (next value).Finishes) :
    (program >>= next).Finishes := by
  induction program generalizing kind with
  | done value => exact rest [] value concludes
  | ask request following ih =>
    exact fun answer => ih answer (first answer) (concludes answer) fun events => rest (_ :: events)
  | unfinished => exact first

theorem exhausts (finishes : program.Finishes) : program.Exhausts spent := by
  induction program generalizing spent with
  | done value => exact trivial
  | ask request next ih => exact fun answer => ih answer (finishes answer)
  | unfinished => exact finishes.elim

end Program.Finishes

theorem Program.Resizes.finishes (resizes : program.Resizes) : program.Finishes := by
  induction program with
  | done value => exact trivial
  | ask request next ih => exact fun answer => ih answer (resizes.2 answer)
  | unfinished => exact resizes

namespace Program.Exhausts

theorem mono {weaker : List Event → Prop} (exhausts : program.Exhausts spent)
    (implies : ∀ events, spent events → weaker events) : program.Exhausts weaker := by
  induction program generalizing spent weaker with
  | done value => exact trivial
  | ask request next ih => exact fun answer => ih answer (exhausts answer) fun _ => implies _
  | unfinished => exact implies [] exhausts

theorem bind {next : α → Program β} (first : program.Exhausts spent)
    (rest : ∀ events value, (next value).Exhausts fun later => spent (events ++ later)) :
    (program >>= next).Exhausts spent := by
  induction program generalizing spent with
  | done value => exact rest [] value
  | ask request following ih =>
    exact fun answer => ih answer (first answer) fun events => rest (_ :: events)
  | unfinished => exact first

theorem run {before after : State} {events : List Event} (exhausts : program.Exhausts spent)
    (run : world.Run before program events after .unfinished) : spent events := by
  generalize stopped : Program.unfinished = rest at run
  induction run generalizing spent with
  | here =>
    subst stopped
    exact exhausts
  | outside _ _ ih => exact ih exhausts stopped
  | answered answer _ _ ih => exact ih (exhausts answer) stopped

end Program.Exhausts
end

def Event.Offers (sink : Descriptor) (event : Event) : Prop :=
  ∃ chunk answer rest, event = ⟨.write sink chunk, answer⟩ ∧ afterOffer chunk answer = .inr rest

def Event.Restores (saved : Attributes) (event : Event) : Prop :=
  event = ⟨.writeAttributes .terminal saved, .error .interrupted⟩

def Event.waits : Event → Bool
  | ⟨.wait _ _ _, _⟩ => true
  | _ => false

/-- The last events, as many as told, are all of one kind. -/
def Insisted (kind : Event → Prop) (count : Nat) (events : List Event) : Prop :=
  ∃ earlier last, events = earlier ++ last ∧ last.length = count ∧ ∀ event ∈ last, kind event

/-- All rounds of a relay began, or a chunk was offered as often as it may be. -/
inductive RelaySpent (patience rounds : Nat) (events : List Event) : Prop
  | rounds (begun : rounds ≤ events.countP Event.waits)
  | offers (sink : Descriptor) (insisted : Insisted (Event.Offers sink) patience events)

/-- A session has spent what its relay may spend, or its patience on the terminal. -/
inductive SessionSpent (allowance : Allowance) (events : List Event) : Prop
  | relay (spent : RelaySpent allowance.patience allowance.rounds events)
  | restoring (saved : Attributes)
      (insisted : Insisted (Event.Restores saved) allowance.patience events)

section
variable {patience rounds : Nat} {events : List Event}

theorem Insisted.later {kind : Event → Prop} (insisted : Insisted kind patience events)
    (before : List Event) : Insisted kind patience (before ++ events) := by
  obtain ⟨earlier, last, rfl, counted, all⟩ := insisted
  exact ⟨before ++ earlier, last, (List.append_assoc before earlier last).symm, counted, all⟩

theorem RelaySpent.later (spent : RelaySpent patience rounds events) (before : List Event) :
    RelaySpent patience rounds (before ++ events) := by
  cases spent with
  | rounds begun =>
    refine .rounds (Nat.le_trans begun ?_)
    rw [List.countP_append]
    exact Nat.le_add_left _ _
  | offers sink insisted => exact .offers sink (insisted.later before)

theorem RelaySpent.waited {event : Event} (spent : RelaySpent patience rounds events)
    (waits : event.waits = true) : RelaySpent patience (rounds + 1) (event :: events) := by
  cases spent with
  | rounds begun =>
    refine .rounds ?_
    rw [List.countP_cons_of_pos waits]
    exact Nat.succ_le_succ begun
  | offers sink insisted => exact .offers sink (insisted.later [event])

theorem SessionSpent.later {allowance : Allowance} (spent : SessionSpent allowance events)
    (before : List Event) : SessionSpent allowance (before ++ events) := by
  cases spent with
  | relay spent => exact .relay (spent.later before)
  | restoring saved insisted => exact .restoring saved (insisted.later before)

theorem deliver_exhausts (sink : Descriptor) (chunk : Bytes) :
    (deliver sink patience chunk).Exhausts fun events =>
      events.length = patience ∧ ∀ event ∈ events, event.Offers sink := by
  induction patience generalizing chunk with
  | zero =>
    cases chunk with
    | nil => exact trivial
    | cons first others => exact ⟨rfl, fun _ member => absurd member List.not_mem_nil⟩
  | succ patience ih =>
    by_cases none : chunk = []
    · subst none
      exact trivial
    · rw [deliver_offer sink patience none]
      intro answer
      change Program.Exhausts ((afterOffer chunk answer).elim .done (deliver sink patience)) _
      cases offered : afterOffer chunk answer with
      | inl result => exact trivial
      | inr rest =>
        apply (ih rest).mono
        rintro events ⟨counted, all⟩
        have offer : Event.Offers sink ⟨.write sink chunk, answer⟩ :=
          ⟨chunk, answer, rest, rfl, offered⟩
        exact ⟨congrArg Nat.succ counted, List.forall_mem_cons.mpr ⟨offer, all⟩⟩

theorem pumpIf_exhausts (ready : Bool) (source sink : Descriptor) (buffer : Bytes) :
    (pumpIf patience ready source sink buffer).Exhausts (RelaySpent patience rounds) := by
  cases ready with
  | false => exact trivial
  | true =>
    intro answer
    match answer with
    | .error e => exact fun _ => trivial
    | .ok [] => exact trivial
    | .ok (first :: others) =>
      have delivers (chunk : Bytes) : (deliver sink patience chunk).Exhausts fun events =>
          RelaySpent patience rounds (⟨.read source chunkSize, .ok (first :: others)⟩ :: events) := by
        apply (deliver_exhausts sink chunk).mono
        rintro events ⟨counted, all⟩
        exact .offers sink ⟨[_], events, rfl, counted, all⟩
      apply (delivers _).bind
      intro events result
      cases result with
      | ok _ => exact trivial
      | error e => exact fun _ => trivial

theorem exchange_exhausts (target : Descriptor) (ready : Readiness) (buffer : Bytes) :
    (exchange patience target ready buffer).Exhausts (RelaySpent patience rounds) := by
  apply (pumpIf_exhausts ready.input .input target buffer).bind
  intro near left
  cases left with
  | none => exact trivial
  | some buffer =>
    have far : (pumpIf patience ready.target target .output buffer).Exhausts fun events =>
        RelaySpent patience rounds (near ++ events) :=
      (pumpIf_exhausts ready.target target .output buffer).mono fun _ spent => spent.later near
    apply far.bind
    intro events left
    cases left <;> exact trivial

/-- Only a relay that has spent its allowance stops without an ending. -/
theorem relay_exhausts_allowance (target : Descriptor) (watcher : ResizeWatcher) (buffer : Bytes) :
    (relay patience target watcher rounds buffer).Exhausts (RelaySpent patience rounds) := by
  induction rounds generalizing buffer with
  | zero => exact .rounds (Nat.zero_le _)
  | succ rounds ih =>
    apply (service_resizes watcher).finishes.exhausts.bind
    intro served _ answer
    have round {program : Program Ending} (goesOn : program.Exhausts (RelaySpent patience rounds)) :
        program.Exhausts fun events => RelaySpent patience (rounds + 1)
          (served ++ ⟨.wait .input target watcher.waitMask, answer⟩ :: events) :=
      goesOn.mono fun _ spent => (spent.waited rfl).later served
    match answer with
    | .error e =>
      change Program.Exhausts (if e = .interrupted then _ else _) _
      split
      · exact round (ih buffer)
      · exact fun _ => trivial
    | .ok ready =>
      apply round
      apply (exchange_exhausts target ready buffer).bind
      intro moved result
      cases result with
      | error ending => exact trivial
      | ok buffer => exact (ih buffer).mono fun _ spent => spent.later moved

theorem restore_exhausts (saved : Attributes) :
    (restore .terminal saved patience).Exhausts fun events =>
      events.length = patience ∧ ∀ event ∈ events, event.Restores saved := by
  induction patience with
  | zero => exact ⟨rfl, fun _ member => absurd member List.not_mem_nil⟩
  | succ patience ih =>
    intro answer
    cases answer with
    | ok _ => exact trivial
    | error e =>
      change Program.Exhausts (if e = .interrupted then _ else _) _
      split
      · next interrupted =>
        subst interrupted
        apply ih.mono
        rintro events ⟨counted, all⟩
        exact ⟨congrArg Nat.succ counted, List.forall_mem_cons.mpr ⟨rfl, all⟩⟩
      · exact trivial

end

theorem install_finishes (source target : Descriptor) :
    (ResizeWatcher.install source target).Finishes := by
  intro blocked
  cases blocked with
  | error e => exact trivial
  | ok previous =>
    intro watched
    cases watched with
    | error failure => exact fun _ => trivial
    | ok flag =>
      exact (copySize_resizes source target).finishes.bind (.any _) fun _ _ _ => trivial

theorem remove_finishes (watcher : ResizeWatcher) : watcher.remove.Finishes := by
  intro _ answer
  cases answer with
  | ok _ => exact trivial
  | error e => exact fun _ => trivial

theorem relaySession_exhausts (allowance : Allowance) (target : Descriptor) :
    (relaySession allowance target).Exhausts
      (RelaySpent allowance.patience allowance.rounds) := by
  apply (install_finishes .terminal target).exhausts.bind
  intro installing installed
  cases installed with
  | error fault => exact fun _ => trivial
  | ok watcher =>
    have relays : (relay allowance.patience target watcher allowance.rounds blankBuffer).Exhausts
        fun events => RelaySpent allowance.patience allowance.rounds (installing ++ events) :=
      (relay_exhausts_allowance target watcher _).mono fun _ spent => spent.later installing
    apply relays.bind
    intro relaying ending
    have ends : (watcher.remove >>= fun _ => .done ending).Finishes :=
      (remove_finishes watcher).bind (.any _) fun _ _ _ => trivial
    exact ends.exhausts

theorem runHeld_exhausts (allowance : Allowance) (target : Descriptor)
    (saved : Option Attributes) :
    (runHeld allowance target ⟨.terminal, saved⟩).Exhausts (SessionSpent allowance) := by
  intro _
  have session : (relaySession allowance target).Exhausts fun events =>
      SessionSpent allowance (⟨.log (.rawMode saved.isSome), ()⟩ :: events) :=
    (relaySession_exhausts allowance target).mono fun _ spent => .relay (spent.later [_])
  apply session.bind
  intro relaying ending
  cases saved with
  | none => exact fun _ => trivial
  | some saved =>
    rw [RawMode.release_raw]
    have restores : (restore .terminal saved allowance.patience).Exhausts fun events =>
        SessionSpent allowance (⟨.log (.rawMode true), ()⟩ :: (relaying ++ events)) := by
      apply (restore_exhausts saved).mono
      rintro events ⟨counted, all⟩
      exact .restoring saved ⟨_ :: relaying, events, rfl, counted, all⟩
    apply restores.bind
    intro restoring released
    cases released with
    | error fault => exact trivial
    | ok _ => exact fun _ => trivial

/-- Only a session that has spent its allowance stops without an outcome. -/
theorem runSession_exhausts (allowance : Allowance) (target : Descriptor) :
    (runSession allowance target).Exhausts (SessionSpent allowance) := by
  intro found
  cases found with
  | error e =>
    intro _
    exact (runHeld_exhausts allowance target none).mono fun _ spent => spent.later [_, _]
  | ok attributes =>
    intro entered
    cases entered with
    | error e => exact trivial
    | ok _ =>
      exact (runHeld_exhausts allowance target _).mono fun _ spent => spent.later [_, _]

end TerminalRelay
