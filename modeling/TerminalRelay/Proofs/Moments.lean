import TerminalRelay.Proofs.Runs

/-! What a program upholds at every moment, also in runs that stop before the program is done.
A statement is made of each moment and of each request, with what happened so far, and of the
result where there is one. -/

namespace TerminalRelay.World
variable {State α β : Type} {world : World State} {moment : List Event → State → Prop}
  {asked : Request → Prop}

/-- However a program is answered from a state on, each moment is as told, it asks nothing but
what it is said to, and so is its result if it comes to one. -/
def Upholds (world : World State) (moment : List Event → State → Prop) (asked : Request → Prop) :
    List Event → State → Program α → (List Event → State → α → Prop) → Prop
  | past, state, .done value, outcome => moment past state ∧ outcome past state value
  | past, state, .unfinished, _ => moment past state
  | past, state, .ask request next, outcome =>
    asked request ∧ ∀ opened, world.Drifts request state opened →
      moment past opened ∧ ∀ answer between, world.answers opened request answer between →
        world.Upholds moment asked (past ++ [⟨request, answer⟩]) between (next answer) outcome

namespace Upholds
variable {past : List Event} {state : State} {program : Program α}
  {outcome : List Event → State → α → Prop}

theorem now (upholds : world.Upholds moment asked past state program outcome) :
    moment past state := by
  cases program with
  | done value => exact upholds.1
  | unfinished => exact upholds
  | ask request next => exact (upholds.2 state .refl).1

theorem mono {weaker : List Event → State → α → Prop}
    (upholds : world.Upholds moment asked past state program outcome)
    (implies : ∀ past state value, outcome past state value → weaker past state value) :
    world.Upholds moment asked past state program weaker := by
  induction program generalizing past state with
  | done value => exact ⟨upholds.1, implies past state value upholds.2⟩
  | unfinished => exact upholds
  | ask request next ih =>
    refine ⟨upholds.1, fun opened drifts => ?_⟩
    obtain ⟨held, each⟩ := upholds.2 opened drifts
    exact ⟨held, fun answer between answers => ih answer (each answer between answers)⟩

theorem bind {next : α → Program β} {final : List Event → State → β → Prop}
    (first : world.Upholds moment asked past state program outcome)
    (rest : ∀ past between value, outcome past between value →
      world.Upholds moment asked past between (next value) final) :
    world.Upholds moment asked past state (program >>= next) final := by
  induction program generalizing past state with
  | done value => exact rest past state value first.2
  | unfinished => exact first
  | ask request following ih =>
    refine ⟨first.1, fun opened drifts => ?_⟩
    obtain ⟨held, each⟩ := first.2 opened drifts
    exact ⟨held, fun answer between answers => ih answer (each answer between answers)⟩

theorem after_run {after : State} {events : List Event} {rest : Program α}
    (upholds : world.Upholds moment asked past state program outcome)
    (run : world.Run state program events after rest) :
    world.Upholds moment asked (past ++ events) after rest outcome ∧
      ∀ event ∈ events, asked event.request := by
  induction run generalizing past with
  | here => exact ⟨by rwa [List.append_nil], by simp⟩
  | outside happens _ ih =>
    exact ih ⟨upholds.1, fun opened drifts => upholds.2 opened (.head happens drifts)⟩
  | answered answer answers _ ih =>
    obtain ⟨later, members⟩ := ih ((upholds.2 _ .refl).2 answer _ answers)
    refine ⟨?_, List.forall_mem_cons.mpr ⟨upholds.1, members⟩⟩
    rwa [List.append_assoc] at later

/-- Something that nothing but the avoided requests changes is upheld by a program that avoids
them. -/
theorem of_avoids {avoided : Request → Prop} (stable : List Event → State → Prop)
    (avoids : program.Avoids avoided)
    (outside : ∀ {past request before after}, stable past before →
      world.outside request before after → stable past after)
    (answers : ∀ {past request answer before after}, ¬ avoided request → stable past before →
      world.answers before request answer after → stable (past ++ [⟨request, answer⟩]) after)
    (implies : ∀ {past state}, stable past state → moment past state)
    (permits : ∀ {request}, ¬ avoided request → asked request) (start : stable past state) :
    world.Upholds moment asked past state program fun past after _ => stable past after := by
  induction program generalizing past state with
  | done value => exact ⟨implies start, start⟩
  | unfinished => exact implies start
  | ask request next ih =>
    refine ⟨permits avoids.1, fun opened drifts => ?_⟩
    have drifted : stable past opened := by
      induction drifts with
      | refl => exact start
      | tail _ happens held => exact outside held happens
    refine ⟨implies drifted, fun answer between answered => ?_⟩
    exact ih answer (avoids.2 answer) (answers avoids.1 drifted answered)

end Upholds
end TerminalRelay.World

namespace TerminalRelay

def Program.asked {α : Type} : Program α → Option Request
  | .ask request _ => some request
  | .done _ | .unfinished => none

/-- All that was requested so far, with what is being asked now. -/
def requested (events : List Event) (asked : Option Request) : List Request :=
  events.map Event.request ++ asked.toList

namespace Program
variable {State α β : Type} {world : World State} {program rest : Program α}
  {before after : State} {events past : List Event}

theorem asked_bind (next : α → Program β) (going : ∀ value, program ≠ .done value) :
    (program >>= next).asked = program.asked := by
  cases program with
  | done value => exact absurd rfl (going value)
  | ask request following => rfl
  | unfinished => rfl

theorem Avoids.requested {avoided : Request → Prop} (avoids : program.Avoids avoided)
    (run : world.Run before program events after rest) :
    ∀ request ∈ requested events rest.asked, ¬ avoided request := by
  induction run with
  | @here _ program =>
    cases program with
    | ask request next => exact List.forall_mem_singleton.mpr avoids.1
    | done | unfinished => exact fun _ member => absurd member List.not_mem_nil
  | outside _ _ ih => exact ih avoids
  | answered answer _ _ ih => exact List.forall_mem_cons.mpr ⟨avoids.1, ih (avoids.2 answer)⟩

/-- However a program is answered, this holds whenever it is asking something, or can ask no
more, of what happened so far and of what it asks, and its result is as told. -/
def Abides {α : Type} (moment : List Event → Option Request → Prop) :
    List Event → Program α → (List Event → α → Prop) → Prop
  | past, .done value, outcome => outcome past value
  | past, .unfinished, _ => moment past none
  | past, .ask request next, outcome =>
    moment past (some request) ∧
      ∀ answer, Abides moment (past ++ [⟨request, answer⟩]) (next answer) outcome

namespace Abides
variable {moment : List Event → Option Request → Prop} {outcome : List Event → α → Prop}

theorem mono {weaker : List Event → α → Prop} (abides : program.Abides moment past outcome)
    (implies : ∀ past value, outcome past value → weaker past value) :
    program.Abides moment past weaker := by
  induction program generalizing past with
  | done value => exact implies past value abides
  | unfinished => exact abides
  | ask request next ih => exact ⟨abides.1, fun answer => ih answer (abides.2 answer)⟩

theorem bind {next : α → Program β} {final : List Event → β → Prop}
    (first : program.Abides moment past outcome)
    (rest : ∀ past value, outcome past value → (next value).Abides moment past final) :
    (program >>= next).Abides moment past final := by
  induction program generalizing past with
  | done value => exact rest past value first
  | unfinished => exact first
  | ask request following ih => exact ⟨first.1, fun answer => ih answer (first.2 answer)⟩

theorem concluding {kind : List Event → α → Prop} (abides : program.Abides moment past outcome)
    (concludes : program.Concludes kind) :
    program.Abides moment past fun whole value =>
      outcome whole value ∧ ∃ events, whole = past ++ events ∧ kind events value := by
  induction program generalizing past kind with
  | done value => exact ⟨abides, [], (List.append_nil past).symm, concludes⟩
  | unfinished => exact abides
  | ask request next ih =>
    refine ⟨abides.1, fun answer => ?_⟩
    apply (ih answer (abides.2 answer) (concludes answer)).mono
    rintro whole value ⟨holds, events, rfl, is⟩
    exact ⟨holds, ⟨request, answer⟩ :: events, List.append_assoc past [_] events, is⟩

theorem of_avoids {avoided : Request → Prop} (stable : List Event → Prop)
    (avoids : program.Avoids avoided)
    (goesOn : ∀ {past request} (answer : request.Answer), ¬ avoided request → stable past →
      stable (past ++ [⟨request, answer⟩]))
    (implies : ∀ {past asked}, stable past → (∀ request ∈ asked, ¬ avoided request) →
      moment past asked)
    (start : stable past) : program.Abides moment past fun past _ => stable past := by
  induction program generalizing past with
  | done value => exact start
  | unfinished => exact implies start nofun
  | ask request next ih =>
    refine ⟨implies start ?_, fun answer => ih answer (avoids.2 answer) ?_⟩
    · rintro _ ⟨⟩
      exact avoids.1
    · exact goesOn answer avoids.1 start

theorem after_run (abides : program.Abides moment past outcome)
    (run : world.Run before program events after rest) :
    rest.Abides moment (past ++ events) outcome := by
  induction run generalizing past with
  | here => rwa [List.append_nil]
  | outside _ _ ih => exact ih abides
  | answered answer _ _ ih =>
    have later := ih (abides.2 answer)
    rwa [List.append_assoc] at later

end Abides
end Program
end TerminalRelay
