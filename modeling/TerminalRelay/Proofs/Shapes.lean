import TerminalRelay.Proofs.Runs

/-! The shape of what a program does. A run may stop anywhere, so its events are the beginning
of something of the shape; those of a run that finishes are the whole of it. -/

namespace TerminalRelay
namespace World
variable {State α β : Type} {world : World State}

theorem Run.andThen {program : Program α} {next : α → Program β} {value : α}
    {before between after : State} {events later : List Event} {rest : Program β}
    (first : world.Run before program events between (.done value))
    (second : world.Run between (next value) later after rest) :
    world.Run before (program >>= next) (events ++ later) after rest := by
  generalize finished : Program.done value = left at first
  induction first with
  | here =>
    subst finished
    exact second
  | outside happens _ ih => exact .outside happens (ih second finished)
  | answered answer answers _ ih => exact .answered answer answers (ih second finished)

end World

theorem Request.answerable (request : Request) : Nonempty request.Answer := by
  cases request with
  | takeFlag => exact ⟨false⟩
  | refusesPty => exact ⟨none⟩
  | unwatchResize | explain | complain | startLog | log => exact ⟨()⟩
  | watchResize | start | readFile | openSlave | duplicate | print | flush =>
    exact ⟨.error (.ofErrno .notImplemented)⟩
  | _ => exact ⟨.error .notImplemented⟩

/-- Whatever a program is answered, what it has done is the beginning of something of this
shape, and the whole of it once there is a result. A program whose allowance is used up could
go on to something of the shape. -/
def Program.Shaped {α : Type} : Program α → (List Event → α → Prop) → Prop
  | .done value, shape => shape [] value
  | .unfinished, shape => ∃ events value, shape events value
  | .ask request next, shape =>
    ∀ answer, (next answer).Shaped fun events value => shape (⟨request, answer⟩ :: events) value

namespace Program.Shaped
variable {State α β : Type} {world : World State} {shape : List Event → α → Prop}
  {program : Program α}

theorem inhabited (shaped : program.Shaped shape) : ∃ events value, shape events value := by
  induction program generalizing shape with
  | done value => exact ⟨[], value, shaped⟩
  | unfinished => exact shaped
  | ask request next ih =>
    obtain ⟨answer⟩ := request.answerable
    obtain ⟨events, value, holds⟩ := ih answer (shaped answer)
    exact ⟨_, value, holds⟩

theorem mono {weaker : List Event → α → Prop} (shaped : program.Shaped shape)
    (implies : ∀ events value, shape events value → weaker events value) :
    program.Shaped weaker := by
  induction program generalizing shape weaker with
  | done value => exact implies [] value shaped
  | unfinished =>
    obtain ⟨events, value, holds⟩ := shaped
    exact ⟨events, value, implies events value holds⟩
  | ask request next ih =>
    exact fun answer => ih answer (shaped answer) fun events => implies (_ :: events)

theorem bind {next : α → Program β} {final : List Event → β → Prop}
    (first : program.Shaped shape)
    (rest : ∀ events value, shape events value →
      (next value).Shaped fun later result => final (events ++ later) result) :
    (program >>= next).Shaped final := by
  induction program generalizing shape final with
  | done value => exact rest [] value first
  | unfinished =>
    obtain ⟨events, value, holds⟩ := first
    obtain ⟨later, result, whole⟩ := (rest events value holds).inhabited
    exact ⟨_, result, whole⟩
  | ask request following ih =>
    exact fun answer => ih answer (first answer) fun events => rest (_ :: events)

theorem concludes (shaped : program.Shaped shape) : program.Concludes shape := by
  induction program generalizing shape with
  | done value => exact shaped
  | unfinished => exact trivial
  | ask request next ih => exact fun answer => ih answer (shaped answer)

/-- However far a program is run, what it goes on to do completes the shape. -/
theorem after_run {rest : Program α} {before after : State} {events : List Event}
    (shaped : program.Shaped shape) (run : world.Run before program events after rest) :
    rest.Shaped fun later value => shape (events ++ later) value := by
  induction run generalizing shape with
  | here => exact shaped
  | outside _ _ ih => exact ih shaped
  | answered answer _ _ ih => exact ih (shaped answer)

theorem run {rest : Program α} {before after : State} {events : List Event}
    (shaped : program.Shaped shape) (run : world.Run before program events after rest) :
    ∃ more value, shape (events ++ more) value :=
  (shaped.after_run run).inhabited

end Program.Shaped

theorem Program.Avoids.shaped {α : Type} {avoided : Request → Prop} {program : Program α}
    (avoids : program.Avoids avoided) (value : α) :
    program.Shaped fun events _ => ∀ event ∈ events, ¬ avoided event.request := by
  induction program with
  | done value => exact fun _ member => absurd member List.not_mem_nil
  | unfinished => exact ⟨[], value, fun _ member => absurd member List.not_mem_nil⟩
  | ask request next ih =>
    intro answer
    apply (ih answer (avoids.2 answer)).mono
    exact fun events value others => List.forall_mem_cons.mpr ⟨avoids.1, others⟩

end TerminalRelay
