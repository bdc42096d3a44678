import TerminalRelay.Proofs.Relay.Endings
import TerminalRelay.Proofs.Resize.Attending
import TerminalRelay.Session

/-! What a session is answered about sizes, and whether it finds its flag raised, makes no other
difference to it. Taking out all that is about resizes leaves one and the same program, so a
size that cannot be read or set neither ends a session nor changes how it ends. -/

namespace TerminalRelay

/-- What was asked and answered apart from resizes. -/
def apartFromResizes (events : List Event) : List Event :=
  events.filter fun event => !event.request.resizes

theorem apartFromResizes_cons (event : Event) (events : List Event) :
    apartFromResizes (event :: events) =
      if event.request.resizes then apartFromResizes events
      else event :: apartFromResizes events := by
  rw [apartFromResizes, List.filter_cons]
  cases event.request.resizes <;> rfl

/-- Taking out what is about resizes leaves this program, whatever that is answered. -/
def Program.Leaves {α : Type} : Program α → Program α → Prop
  | .done value, core => core = .done value
  | .unfinished, core => core = .unfinished
  | .ask request next, core =>
    if request.resizes then ∀ answer, (next answer).Leaves core
    else ∃ others, core = .ask request others ∧ ∀ answer, (next answer).Leaves (others answer)

def Program.Indifferent {α : Type} (program : Program α) : Prop :=
  ∃ core, program.Leaves core

/-- A world that answers as these events tell, in their order, and about resizes anything. -/
def World.replaying : World (List Event) where
  outside _ _ _ := False
  answers script request answer after :=
    if request.resizes then after = script else script = ⟨request, answer⟩ :: after

namespace Program
variable {State α β : Type} {world : World State} {program core : Program α}

namespace Leaves

theorem ask_resizing {request : Request} {next : request.Answer → Program α}
    (resizes : request.resizes = true) :
    (Program.ask request next).Leaves core ↔ ∀ answer, (next answer).Leaves core := by
  rw [Leaves, if_pos resizes]

theorem ask_other {request : Request} {next : request.Answer → Program α}
    (other : request.resizes = false) :
    (Program.ask request next).Leaves core ↔ ∃ others, core = .ask request others ∧
      ∀ answer, (next answer).Leaves (others answer) := by
  rw [Leaves, if_neg (by simp [other])]

theorem bind {next others : α → Program β} (first : program.Leaves core)
    (rest : ∀ value, (next value).Leaves (others value)) :
    (program >>= next).Leaves (core >>= others) := by
  induction program generalizing core with
  | done value =>
    obtain rfl := first
    exact rest value
  | unfinished =>
    obtain rfl := first
    exact rfl
  | ask request following ih =>
    rw [ask_bind]
    cases kind : request.resizes with
    | true =>
      refine (ask_resizing kind).mpr fun answer => ih answer ?_
      exact (ask_resizing kind).mp first answer
    | false =>
      obtain ⟨left, rfl, leaves⟩ := (ask_other kind).mp first
      exact (ask_other kind).mpr ⟨_, rfl, fun answer => ih answer (leaves answer)⟩

theorem run {before after : State} {events : List Event} {value : α} (leaves : program.Leaves core)
    (run : world.Run before program events after (.done value)) :
    World.unruly.Run () core (apartFromResizes events) () (.done value) := by
  generalize finished : Program.done value = rest at run
  induction run generalizing core with
  | here =>
    subst finished
    obtain rfl := leaves
    exact .here
  | outside _ _ ih => exact ih leaves finished
  | @answered _ _ _ request _ _ _ answer _ _ ih =>
    -- what is about resizes leaves the core where it is, and all else is asked by the core too
    rw [apartFromResizes_cons]
    cases kind : request.resizes with
    | true => exact ih ((ask_resizing kind).mp leaves answer) finished
    | false =>
      obtain ⟨others, rfl, continues⟩ := (ask_other kind).mp leaves
      exact .freely answer (ih (continues answer) finished)

theorem replays {script : List Event} {value : α} (leaves : program.Leaves core)
    (run : World.unruly.Run () core script () (.done value)) :
    World.replaying.Brings script program fun _ left again => left = [] ∧ again = value := by
  induction program generalizing core script with
  | done result =>
    obtain rfl := leaves
    obtain ⟨rfl, -, same⟩ := run.of_done
    cases same
    exact ⟨rfl, rfl⟩
  | unfinished =>
    obtain rfl := leaves
    cases run
  | ask request next ih =>
    cases kind : request.resizes with
    | true =>
      obtain ⟨answer⟩ := request.answerable
      apply World.Brings.ask id ⟨answer, script, by simp [World.replaying, kind]⟩
      intro answer after answers
      obtain rfl : after = script := by simpa [World.replaying, kind] using answers
      exact ih answer ((ask_resizing kind).mp leaves answer) run
    | false =>
      obtain ⟨others, rfl, continues⟩ := (ask_other kind).mp leaves
      obtain ⟨_, answer, _, later, _, _, rfl, rest⟩ := run.of_ask
      apply World.Brings.ask id ⟨answer, later, by simp [World.replaying, kind]⟩
      intro other after answers
      simp only [World.replaying, kind] at answers
      cases answers
      exact ih answer (continues answer) rest

end Leaves

namespace Indifferent

theorem of_avoids (avoids : program.Avoids fun request => request.resizes = true) :
    program.Indifferent := by
  refine ⟨program, ?_⟩
  induction program with
  | done value => exact rfl
  | unfinished => exact rfl
  | ask request next ih =>
    refine (Leaves.ask_other (Bool.eq_false_iff.mpr avoids.1)).mpr ⟨next, rfl, fun answer => ?_⟩
    exact ih answer (avoids.2 answer)

theorem bind {next : α → Program β} (first : program.Indifferent)
    (rest : ∀ value, (next value).Indifferent) : (program >>= next).Indifferent := by
  obtain ⟨core, leaves⟩ := first
  obtain ⟨others, continues⟩ := Classical.axiomOfChoice rest
  exact ⟨core >>= others, leaves.bind continues⟩

theorem ask {request : Request} {next : request.Answer → Program α}
    (other : request.resizes = false) (rest : ∀ answer, (next answer).Indifferent) :
    (Program.ask request next).Indifferent := by
  obtain ⟨others, continues⟩ := Classical.axiomOfChoice rest
  exact ⟨.ask request others, (Leaves.ask_other other).mpr ⟨others, rfl, continues⟩⟩

theorem after_resizes {next : Program β} (resizes : program.Resizes) (rest : next.Indifferent) :
    (program >>= fun _ => next).Indifferent := by
  obtain ⟨core, leaves⟩ := rest
  refine ⟨core, ?_⟩
  induction program with
  | done value => exact leaves
  | unfinished => exact resizes.elim
  | ask request following ih =>
    exact (Leaves.ask_resizing resizes.1).mpr fun answer => ih answer (resizes.2 answer)

/-- However the resizes are answered another time, a program comes to the same. -/
theorem replays {before after : State} {events : List Event} {value : α}
    (indifferent : program.Indifferent)
    (run : world.Run before program events after (.done value)) :
    World.replaying.Brings (apartFromResizes events) program
      fun _ left again => left = [] ∧ again = value := by
  obtain ⟨core, leaves⟩ := indifferent
  exact leaves.replays (leaves.run run)

end Indifferent
end Program

/-! The parts of a session. -/

def Request.sizes : Request → Bool
  | .block _ | .watchResize => true
  | request => request.resizes

theorem Request.sizes_of_resizes {request : Request} (resizes : request.resizes = true) :
    request.sizes = true := by
  cases request <;> first | exact resizes | cases resizes

theorem acquire_unsized (device : Descriptor) :
    (RawMode.acquire device).Avoids fun request => request.sizes = true := by
  refine ⟨nofun, fun found => ?_⟩
  cases found with
  | error e => exact ⟨nofun, fun _ => trivial⟩
  | ok _ =>
    refine ⟨nofun, fun entered => ?_⟩
    cases entered <;> exact trivial

theorem restore_unsized (device : Descriptor) (saved : Attributes) (patience : Nat) :
    (restore device saved patience).Avoids fun request => request.sizes = true := by
  induction patience with
  | zero => exact trivial
  | succ patience ih =>
    refine ⟨nofun, fun answer => ?_⟩
    cases answer with
    | ok _ => exact trivial
    | error e =>
      change Program.Avoids _ (if e = .interrupted then _ else _)
      split
      · exact ih
      · exact trivial

theorem release_unsized (patience : Nat) (held : RawMode) :
    (held.release patience).Avoids fun request => request.sizes = true := by
  obtain ⟨device, _ | saved⟩ := held
  · rw [RawMode.release_cooked]
    exact trivial
  · rw [RawMode.release_raw]
    exact restore_unsized device saved patience

theorem remove_unsized (watcher : ResizeWatcher) :
    watcher.remove.Avoids fun request => request.sizes = true := by
  refine ⟨nofun, fun _ => ⟨nofun, fun answer => ?_⟩⟩
  cases answer with
  | ok _ => exact trivial
  | error e => exact ⟨nofun, fun _ => trivial⟩

theorem pumpIf_unsized (patience : Nat) (ready : Bool) (source sink : Descriptor)
    (buffer : Bytes) :
    (pumpIf patience ready source sink buffer).Avoids fun request => request.sizes = true := by
  cases ready with
  | false => exact trivial
  | true =>
    refine ⟨nofun, fun answer => ?_⟩
    match answer with
    | .error e => exact ⟨nofun, fun _ => trivial⟩
    | .ok [] => exact trivial
    | .ok (first :: others) =>
      have writes (chunk : Bytes) :
          (deliver sink patience chunk).Avoids fun request => request.sizes = true := by
        apply (deliver_avoids sink patience chunk).mono
        rintro _ sizes offer rfl
        cases sizes
      apply (writes _).bind
      intro result
      cases result with
      | ok _ => exact trivial
      | error e => exact ⟨nofun, fun _ => trivial⟩

theorem exchange_unsized (patience : Nat) (target : Descriptor) (ready : Readiness)
    (buffer : Bytes) :
    (exchange patience target ready buffer).Avoids fun request => request.sizes = true := by
  apply (pumpIf_unsized patience ready.input .input target buffer).bind
  intro left
  cases left with
  | none => exact trivial
  | some buffer =>
    apply (pumpIf_unsized patience ready.target target .output buffer).bind
    intro left
    cases left <;> exact trivial

theorem Program.Avoids.indifferent {α : Type} {program : Program α}
    (unsized : program.Avoids fun request => request.sizes = true) : program.Indifferent :=
  .of_avoids (unsized.mono fun _ => Request.sizes_of_resizes)

theorem install_indifferent (source target : Descriptor) :
    (ResizeWatcher.install source target).Indifferent := by
  refine .ask rfl fun blocked => ?_
  cases blocked with
  | error e => exact ⟨.done _, rfl⟩
  | ok previous =>
    refine .ask rfl fun watched => ?_
    cases watched with
    | error failure => exact .ask rfl fun _ => ⟨.done _, rfl⟩
    | ok flag => exact .after_resizes (copySize_resizes source target) ⟨.done _, rfl⟩

theorem relay_indifferent (patience rounds : Nat) (target : Descriptor)
    (watcher : ResizeWatcher) (buffer : Bytes) :
    (relay patience target watcher rounds buffer).Indifferent := by
  induction rounds generalizing buffer with
  | zero => exact ⟨.unfinished, rfl⟩
  | succ rounds ih =>
    refine .after_resizes (service_resizes watcher) (.ask rfl fun answer => ?_)
    match answer with
    | .error e =>
      change Program.Indifferent (if e = .interrupted then _ else _)
      split
      · exact ih buffer
      · exact .ask rfl fun _ => ⟨.done _, rfl⟩
    | .ok ready =>
      apply (exchange_unsized patience target ready buffer).indifferent.bind
      intro result
      cases result with
      | error ending => exact ⟨.done ending, rfl⟩
      | ok buffer => exact ih buffer

theorem runSession_indifferent (allowance : Allowance) (target : Descriptor) :
    (runSession allowance target).Indifferent := by
  apply (acquire_unsized .terminal).indifferent.bind
  intro acquired
  cases acquired with
  | error fault => exact ⟨.done _, rfl⟩
  | ok held =>
    refine .ask rfl fun _ => ?_
    have relays : (relaySession allowance target).Indifferent := by
      apply (install_indifferent .terminal target).bind
      intro installed
      cases installed with
      | error fault => exact .ask rfl fun _ => ⟨.done _, rfl⟩
      | ok watcher =>
        apply (relay_indifferent allowance.patience allowance.rounds target watcher _).bind
        intro ending
        exact (remove_unsized watcher).indifferent.bind fun _ => ⟨.done ending, rfl⟩
    apply relays.bind
    intro ending
    apply (release_unsized allowance.patience held).indifferent.bind
    intro released
    cases released with
    | error fault => exact ⟨.done _, rfl⟩
    | ok _ => exact .ask rfl fun _ => ⟨.done _, rfl⟩

end TerminalRelay
