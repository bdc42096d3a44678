import TerminalRelay.Proofs.Runs

/-! What a program is sure to come to. A run may stop anywhere, so a statement about runs says
nothing about whether a program finishes; the statements made here say that it does. -/

namespace TerminalRelay.World
variable {State α β : Type} {world : World State}

/-- However a program is answered from a state on, it finishes, and its events, the state then
and its result are as told. There is an answer to each of its requests. -/
def Brings (world : World State) :
    State → Program α → (List Event → State → α → Prop) → Prop
  | state, .done value, outcome => outcome [] state value
  | _, .unfinished, _ => False
  | state, .ask request next, outcome =>
    ∀ opened, world.Drifts request state opened →
      (∃ answer between, world.answers opened request answer between) ∧
      ∀ answer between, world.answers opened request answer between →
        world.Brings between (next answer) fun events after value =>
          outcome (⟨request, answer⟩ :: events) after value

theorem Run.of_drifts {request : Request} {next : request.Answer → Program α}
    {before opened after : State} {events : List Event} {rest : Program α}
    (drifts : world.Drifts request before opened)
    (run : world.Run opened (.ask request next) events after rest) :
    world.Run before (.ask request next) events after rest := by
  induction drifts using Relation.ReflTransGen.head_induction_on with
  | refl => exact run
  | head happens _ ih => exact .outside happens ih

namespace Brings
variable {state : State} {program : Program α}

theorem mono {first second : List Event → State → α → Prop}
    (brings : world.Brings state program first)
    (implies : ∀ events after value, first events after value → second events after value) :
    world.Brings state program second := by
  induction program generalizing state first second with
  | done value => exact implies [] state value brings
  | unfinished => exact brings
  | ask request next ih =>
    intro opened drifts
    obtain ⟨answered, each⟩ := brings opened drifts
    refine ⟨answered, fun answer between answers => ?_⟩
    exact ih answer (each answer between answers) fun events after value =>
      implies (⟨request, answer⟩ :: events) after value

theorem bind {next : α → Program β} {middle : List Event → State → α → Prop}
    {outcome : List Event → State → β → Prop} (first : world.Brings state program middle)
    (rest : ∀ events between value, middle events between value →
      world.Brings between (next value) fun later after result =>
        outcome (events ++ later) after result) :
    world.Brings state (program >>= next) outcome := by
  induction program generalizing state middle outcome with
  | done value => exact rest [] state value first
  | unfinished => exact first
  | ask request following ih =>
    intro opened drifts
    obtain ⟨answered, each⟩ := first opened drifts
    refine ⟨answered, fun answer between answers => ?_⟩
    exact ih answer (each answer between answers) fun events between value holds =>
      rest (⟨request, answer⟩ :: events) between value holds

theorem ask {request : Request} {next : request.Answer → Program α}
    {outcome : List Event → State → α → Prop}
    (still : ∀ {before after}, ¬ world.outside request before after)
    (answered : ∃ answer after, world.answers state request answer after)
    (each : ∀ answer after, world.answers state request answer after →
      world.Brings after (next answer) fun events final value =>
        outcome (⟨request, answer⟩ :: events) final value) :
    world.Brings state (.ask request next) outcome := by
  intro opened drifts
  obtain rfl : opened = state := by
    cases drifts with
    | refl => rfl
    | tail _ happens => exact absurd happens still
  exact ⟨answered, each⟩

theorem finishes {outcome : List Event → State → α → Prop}
    (brings : world.Brings state program outcome) :
    ∃ events after value, world.Run state program events after (.done value) ∧
      outcome events after value := by
  induction program generalizing state outcome with
  | done value => exact ⟨[], state, value, .here, brings⟩
  | unfinished => exact brings.elim
  | ask request next ih =>
    obtain ⟨⟨answer, between, answers⟩, each⟩ := brings state .refl
    obtain ⟨events, after, value, run, holds⟩ := ih answer (each answer between answers)
    exact ⟨_, after, value, .answered answer answers run, holds⟩

theorem withRun {outcome : List Event → State → α → Prop}
    (brings : world.Brings state program outcome) :
    world.Brings state program fun events after value =>
      outcome events after value ∧ world.Run state program events after (.done value) := by
  induction program generalizing state outcome with
  | done value => exact ⟨brings, .here⟩
  | unfinished => exact brings
  | ask request next ih =>
    intro opened drifts
    obtain ⟨answered, each⟩ := brings opened drifts
    refine ⟨answered, fun answer between answers => ?_⟩
    apply (ih answer (each answer between answers)).mono
    intro events after value ⟨holds, run⟩
    exact ⟨holds, Run.of_drifts drifts (.answered answer answers run)⟩

end Brings

/-- However it is answered from a state on, a program has patience enough, and once it is done
or is answered no more, its events, the state then and its result, if it has one, are as told. -/
def Settles (world : World State) :
    State → Program α → (List Event → State → Option α → Prop) → Prop
  | state, .done value, outcome => outcome [] state (some value)
  | _, .unfinished, _ => False
  | state, .ask request next, outcome =>
    ∀ opened, world.Drifts request state opened →
      ((∀ answer between, ¬ world.answers opened request answer between) →
        outcome [] opened none) ∧
      ∀ answer between, world.answers opened request answer between →
        world.Settles between (next answer) fun events after result =>
          outcome (⟨request, answer⟩ :: events) after result

namespace Settles
variable {state : State} {program : Program α}

theorem mono {first second : List Event → State → Option α → Prop}
    (settles : world.Settles state program first)
    (implies : ∀ events after result, first events after result → second events after result) :
    world.Settles state program second := by
  induction program generalizing state first second with
  | done value => exact implies [] state (some value) settles
  | unfinished => exact settles
  | ask request next ih =>
    intro opened drifts
    obtain ⟨blocked, each⟩ := settles opened drifts
    refine ⟨fun unanswered => implies [] opened none (blocked unanswered), ?_⟩
    intro answer between answers
    exact ih answer (each answer between answers) fun events after result =>
      implies (⟨request, answer⟩ :: events) after result

theorem bind {next : α → Program β} {middle : List Event → State → Option α → Prop}
    {outcome : List Event → State → Option β → Prop} (first : world.Settles state program middle)
    (blocked : ∀ events after, middle events after none → outcome events after none)
    (rest : ∀ events between value, middle events between (some value) →
      world.Settles between (next value) fun later after result =>
        outcome (events ++ later) after result) :
    world.Settles state (program >>= next) outcome := by
  induction program generalizing state middle outcome with
  | done value => exact rest [] state value first
  | unfinished => exact first
  | ask request following ih =>
    intro opened drifts
    obtain ⟨unanswered, each⟩ := first opened drifts
    refine ⟨fun never => blocked [] opened (unanswered never), fun answer between answers => ?_⟩
    exact ih answer (each answer between answers)
      (fun events => blocked (⟨request, answer⟩ :: events))
      fun events => rest (⟨request, answer⟩ :: events)

theorem of_brings {outcome : List Event → State → α → Prop}
    (brings : world.Brings state program outcome) :
    world.Settles state program fun events after result =>
      ∃ value, result = some value ∧ outcome events after value := by
  induction program generalizing state outcome with
  | done value => exact ⟨value, rfl, brings⟩
  | unfinished => exact brings.elim
  | ask request next ih =>
    intro opened drifts
    obtain ⟨⟨answer, between, answers⟩, each⟩ := brings opened drifts
    exact ⟨fun never => absurd answers (never answer between),
      fun answer between answers => ih answer (each answer between answers)⟩

/-- What a program comes to in the end it comes to by a run. -/
theorem withRun {outcome : List Event → State → Option α → Prop}
    (settles : world.Settles state program outcome) :
    world.Settles state program fun events after result =>
      outcome events after result ∧
        ∃ rest, world.Run state program events after rest ∧
          ((result = none ∧ ∃ request next, rest = .ask request next ∧
              ∀ answer between, ¬ world.answers after request answer between) ∨
            ∃ value, result = some value ∧ rest = .done value) := by
  induction program generalizing state outcome with
  | done value => exact ⟨settles, _, .here, .inr ⟨value, rfl, rfl⟩⟩
  | unfinished => exact settles
  | ask request next ih =>
    intro opened drifts
    obtain ⟨blocked, each⟩ := settles opened drifts
    refine ⟨fun unanswered => ⟨blocked unanswered, _, Run.of_drifts drifts .here,
      .inl ⟨rfl, request, next, rfl, unanswered⟩⟩, fun answer between answers => ?_⟩
    apply (ih answer (each answer between answers)).mono
    intro events after result ⟨holds, rest, run, kind⟩
    exact ⟨holds, rest, Run.of_drifts drifts (.answered answer answers run), kind⟩

theorem of_run {outcome : List Event → State → Option α → Prop} {events : List Event}
    {after : State} {value : α} (settles : world.Settles state program outcome)
    (run : world.Run state program events after (.done value)) :
    outcome events after (some value) := by
  induction program generalizing state outcome events with
  | done result =>
    obtain ⟨rfl, rfl, same⟩ := run.of_done
    cases same
    exact settles
  | unfinished => exact settles.elim
  | ask request next ih =>
    obtain ⟨opened, answer, between, later, drifts, answers, rfl, rest⟩ := run.of_ask
    have onward := ih answer ((settles opened drifts).2 answer between answers) rest
    exact onward

end Settles
end TerminalRelay.World
