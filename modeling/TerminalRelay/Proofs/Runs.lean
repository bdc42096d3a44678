import Mathlib.Logic.Relation
import TerminalRelay.Program.Basic

/-! Runs of a program in a world that answers it. A world says which answers a request may
get and what may happen before it gets one; a run keeps the requests with their answers. -/

namespace TerminalRelay

structure Event where
  request : Request
  answer : request.Answer

/-- What a program may meet. -/
structure World (State : Type) where
  /-- What may happen by itself while a request waits for its answer. -/
  outside : Request → State → State → Prop
  /-- Which answers a request may get, and the state after each. -/
  answers : State → (request : Request) → request.Answer → State → Prop

namespace World
variable {State α β : Type} {world : World State}

/-- A world in which every request may get every answer. -/
def unruly : World Unit where
  outside _ _ _ := False
  answers _ _ _ _ := True

/-- A run leads from a state and a program to a later state and what is then left of the
program. It may stop anywhere, so whatever holds of all runs holds at every moment. -/
inductive Run (world : World State) : State → Program α → List Event → State → Program α → Prop
  | here {state program} : Run world state program [] state program
  | outside {before between after request next events rest}
      (happens : world.outside request before between)
      (run : Run world between (.ask request next) events after rest) :
      Run world before (.ask request next) events after rest
  | answered {before between after request next events rest} (answer : request.Answer)
      (answers : world.answers before request answer between)
      (run : Run world between (next answer) events after rest) :
      Run world before (.ask request next) (⟨request, answer⟩ :: events) after rest

theorem Run.inPlace {before after : State} {request : Request} {next : request.Answer → Program α}
    {events : List Event} {rest : Program α} (answer : request.Answer)
    (answers : world.answers before request answer before)
    (run : world.Run before (next answer) events after rest) :
    world.Run before (.ask request next) (⟨request, answer⟩ :: events) after rest :=
  .answered answer answers run

theorem Run.freely {request : Request} {next : request.Answer → Program α} {events : List Event}
    {rest : Program α} (answer : request.Answer)
    (run : unruly.Run () (next answer) events () rest) :
    unruly.Run () (.ask request next) (⟨request, answer⟩ :: events) () rest :=
  .answered answer trivial run

def Drifts (world : World State) (request : Request) : State → State → Prop :=
  Relation.ReflTransGen (world.outside request)

theorem Run.trans {before between after : State} {program middle rest : Program α}
    {events later : List Event} (first : world.Run before program events between middle)
    (second : world.Run between middle later after rest) :
    world.Run before program (events ++ later) after rest := by
  induction first with
  | here => exact second
  | outside happens _ ih => exact .outside happens (ih second)
  | answered answer answers _ ih => exact .answered answer answers (ih second)

theorem Run.of_done {before after : State} {value : α} {events : List Event} {rest : Program α}
    (run : world.Run before (.done value) events after rest) :
    events = [] ∧ after = before ∧ rest = .done value := by
  cases run
  exact ⟨rfl, rfl, rfl⟩

theorem Run.cases_ask {before after : State} {request : Request}
    {next : request.Answer → Program α} {events : List Event} {rest : Program α}
    (run : world.Run before (.ask request next) events after rest) :
    (events = [] ∧ world.Drifts request before after ∧ rest = .ask request next) ∨
      ∃ opened answer between later, world.Drifts request before opened ∧
        world.answers opened request answer between ∧ events = ⟨request, answer⟩ :: later ∧
        world.Run between (next answer) later after rest := by
  generalize started : Program.ask request next = program at run
  induction run with
  | here =>
    subst started
    exact .inl ⟨rfl, .refl, rfl⟩
  | outside happens run ih =>
    cases started
    obtain ⟨none, drifts, same⟩ | ⟨opened, answer, between, later, drifts, answered⟩ := ih rfl
    · exact .inl ⟨none, .head happens drifts, same⟩
    · exact .inr ⟨opened, answer, between, later, .head happens drifts, answered⟩
  | answered answer answers run =>
    cases started
    exact .inr ⟨_, answer, _, _, .refl, answers, rfl, run⟩

theorem Run.of_ask {before after : State} {request : Request} {next : request.Answer → Program α}
    {events : List Event} {value : α}
    (run : world.Run before (.ask request next) events after (.done value)) :
    ∃ opened answer between later, world.Drifts request before opened ∧
      world.answers opened request answer between ∧ events = ⟨request, answer⟩ :: later ∧
      world.Run between (next answer) later after (.done value) := by
  obtain ⟨-, -, still⟩ | answered := run.cases_ask
  · cases still
  · exact answered

/-- A run of two programs one after the other is still in the first, or has been through it. -/
theorem Run.cases_bind {before after : State} {program : Program α} {next : α → Program β}
    {events : List Event} {rest : Program β}
    (whole : world.Run before (program >>= next) events after rest) :
    (∃ left, (∀ middle, left ≠ .done middle) ∧ world.Run before program events after left ∧
      rest = left >>= next) ∨
      ∃ middle first between later, events = first ++ later ∧
        world.Run before program first between (.done middle) ∧
        world.Run between (next middle) later after rest := by
  generalize started : program >>= next = both at whole
  induction whole generalizing program with
  | here =>
    subst started
    cases program with
    | done middle => exact .inr ⟨middle, [], _, [], rfl, .here, .here⟩
    | ask request following => exact .inl ⟨.ask request following, nofun, .here, rfl⟩
    | unfinished => exact .inl ⟨.unfinished, nofun, .here, rfl⟩
  | outside happens run ih =>
    cases program with
    | done middle =>
      have continued : next middle = _ := started
      exact .inr ⟨middle, [], _, _, rfl, .here, continued ▸ .outside happens run⟩
    | ask request following =>
      obtain ⟨left, going, one, rfl⟩ | ⟨middle, first, between, later, rfl, one, two⟩ := ih started
      all_goals cases started
      · exact .inl ⟨left, going, .outside happens one, rfl⟩
      · exact .inr ⟨middle, first, between, later, rfl, .outside happens one, two⟩
    | unfinished => cases started
  | answered answer answers run ih =>
    cases program with
    | done middle =>
      have continued : next middle = _ := started
      exact .inr ⟨middle, [], _, _, rfl, .here, continued ▸ .answered answer answers run⟩
    | ask request following =>
      cases started
      obtain ⟨left, going, one, rfl⟩ | ⟨middle, first, between, later, rfl, one, two⟩ := ih rfl
      · exact .inl ⟨left, going, .answered answer answers one, rfl⟩
      · exact .inr ⟨middle, _, between, later, rfl, .answered answer answers one, two⟩
    | unfinished => cases started

theorem Run.of_bind {before after : State} {program : Program α} {next : α → Program β}
    {events : List Event} {value : β}
    (run : world.Run before (program >>= next) events after (.done value)) :
    ∃ middle first between later, events = first ++ later ∧
      world.Run before program first between (.done middle) ∧
      world.Run between (next middle) later after (.done value) := by
  obtain ⟨left, going, -, finished⟩ | through := run.cases_bind
  · cases left with
    | done middle => exact absurd rfl (going middle)
    | ask request rest => cases finished
    | unfinished => cases finished
  · exact through

end World

def Program.Avoids {α : Type} (avoided : Request → Prop) : Program α → Prop
  | .done _ => True
  | .unfinished => True
  | .ask request next => ¬ avoided request ∧ ∀ answer, (next answer).Avoids avoided

namespace Program.Avoids
variable {State α β : Type} {world : World State} {avoided : Request → Prop}

theorem bind {program : Program α} {next : α → Program β} (first : program.Avoids avoided)
    (rest : ∀ value, (next value).Avoids avoided) : (program >>= next).Avoids avoided := by
  induction program with
  | done value => exact rest value
  | ask request following ih => exact ⟨first.1, fun answer => ih answer (first.2 answer)⟩
  | unfinished => exact trivial

theorem mono {fewer : Request → Prop} {program : Program α} (avoids : program.Avoids avoided)
    (included : ∀ request, fewer request → avoided request) : program.Avoids fewer := by
  induction program with
  | done value => exact trivial
  | ask request next ih =>
    refine ⟨fun avoided => avoids.1 (included request avoided), fun answer => ?_⟩
    exact ih answer (avoids.2 answer)
  | unfinished => exact trivial

theorem note {notice : Notice} (avoids : ¬ avoided (.log notice)) :
    (note notice).Avoids avoided :=
  ⟨avoids, fun _ => trivial⟩

theorem run {program rest : Program α} {before after : State} {events : List Event}
    (avoids : program.Avoids avoided) (run : world.Run before program events after rest) :
    ∀ event ∈ events, ¬ avoided event.request := by
  induction run with
  | here => exact fun _ member => absurd member List.not_mem_nil
  | outside _ _ ih => exact ih avoids
  | answered answer _ _ ih => exact List.forall_mem_cons.mpr ⟨avoids.1, ih (avoids.2 answer)⟩

theorem keeps {Value : Type} (part : State → Value) {program rest : Program α}
    {before after : State} {events : List Event} (avoids : program.Avoids avoided)
    (run : world.Run before program events after rest)
    (outside : ∀ {request before after}, world.outside request before after →
      part after = part before)
    (answers : ∀ {request answer before after}, ¬ avoided request →
      world.answers before request answer after → part after = part before) :
    part after = part before := by
  induction run with
  | here => rfl
  | outside happens _ ih => exact (ih avoids).trans (outside happens)
  | answered answer answered _ ih => exact (ih (avoids.2 answer)).trans (answers avoids.1 answered)

end Program.Avoids

/-- Whatever a program is answered, if it comes to a result then that is of this kind, with the
events that led to it. -/
def Program.Concludes {α : Type} : Program α → (List Event → α → Prop) → Prop
  | .done value, kind => kind [] value
  | .unfinished, _ => True
  | .ask request next, kind =>
    ∀ answer, (next answer).Concludes fun events value => kind (⟨request, answer⟩ :: events) value

namespace Program.Concludes
variable {State α β : Type} {world : World State} {kind : List Event → α → Prop}
  {program : Program α}

theorem mono {weaker : List Event → α → Prop} (concludes : program.Concludes kind)
    (implies : ∀ events value, kind events value → weaker events value) :
    program.Concludes weaker := by
  induction program generalizing kind weaker with
  | done value => exact implies [] value concludes
  | ask request next ih =>
    exact fun answer => ih answer (concludes answer) fun events => implies (_ :: events)
  | unfinished => exact trivial

theorem any (program : Program α) : program.Concludes fun _ _ => True := by
  induction program with
  | done value => exact trivial
  | ask request next ih => exact ih
  | unfinished => exact trivial

theorem and {other : List Event → α → Prop} (concludes : program.Concludes kind)
    (too : program.Concludes other) :
    program.Concludes fun events value => kind events value ∧ other events value := by
  induction program generalizing kind other with
  | done value => exact ⟨concludes, too⟩
  | ask request next ih => exact fun answer => ih answer (concludes answer) (too answer)
  | unfinished => exact trivial

theorem bind {next : α → Program β} {final : List Event → β → Prop}
    (first : program.Concludes kind)
    (rest : ∀ events value, kind events value →
      (next value).Concludes fun later result => final (events ++ later) result) :
    (program >>= next).Concludes final := by
  induction program generalizing kind final with
  | done value => exact rest [] value first
  | ask request following ih =>
    exact fun answer => ih answer (first answer) fun events => rest (_ :: events)
  | unfinished => exact trivial

theorem run {value : α} {before after : State} {events : List Event}
    (concludes : program.Concludes kind)
    (run : world.Run before program events after (.done value)) : kind events value := by
  generalize finished : Program.done value = rest at run
  induction run generalizing kind with
  | here =>
    subst finished
    exact concludes
  | outside _ _ ih => exact ih concludes finished
  | answered answer _ _ ih => exact ih (concludes answer) finished

end Program.Concludes

theorem Program.Avoids.concludes {α : Type} {avoided : Request → Prop} {program : Program α}
    (avoids : program.Avoids avoided) :
    program.Concludes fun events _ => ∀ event ∈ events, ¬ avoided event.request := by
  induction program with
  | done value => exact fun _ member => absurd member List.not_mem_nil
  | ask request next ih =>
    intro answer
    apply (ih answer (avoids.2 answer)).mono
    exact fun events value others => List.forall_mem_cons.mpr ⟨avoids.1, others⟩
  | unfinished => exact trivial

end TerminalRelay
