import TerminalRelay.Proofs.Outcomes
import TerminalRelay.Proofs.Shapes
import TerminalRelay.Terminal.ResizeWatcher

/-! What is done about a resize at the head of a round, and that this is about the resize alone:
it comes to its end whatever the host answers, and no data is waited for or moved meanwhile. -/

namespace TerminalRelay

def sizeNotices : Except Errno WindowSize → List Event
  | .ok _ => []
  | .error e => [⟨.log (.sizeUnreadable e), ()⟩]

def copyNotice (size : WindowSize) : Except Errno Unit → Notice
  | .ok () => .resized size
  | .error e => .resizeFailed e

inductive Service (watcher : ResizeWatcher) : List Event → Prop
  | quiet : Service watcher [⟨.takeFlag watcher.flag, false⟩]
  | copied (reported : Except Errno WindowSize) (answer : Except Errno Unit) :
      Service watcher (⟨.takeFlag watcher.flag, true⟩ :: ⟨.readSize watcher.source, reported⟩ ::
        (sizeNotices reported ++
          [⟨.writeSize watcher.target (WindowSize.effective reported), answer⟩,
            ⟨.log (copyNotice (WindowSize.effective reported) answer), ()⟩]))

theorem service_shaped (watcher : ResizeWatcher) :
    watcher.service.Shaped fun events _ => Service watcher events := by
  intro raised
  cases raised with
  | false => exact .quiet
  | true =>
    intro reported
    cases reported with
    | ok size =>
      intro answer
      cases answer <;> exact fun _ => .copied (.ok size) _
    | error e =>
      intro _ answer
      cases answer <;> exact fun _ => .copied (.error e) _

theorem Service.run {watcher : ResizeWatcher} {events : List Event}
    (service : Service watcher events) :
    ∃ resized, World.unruly.Run () watcher.service events () (.done resized) := by
  cases service with
  | quiet => exact ⟨false, .freely _ .here⟩
  | copied reported answer =>
    refine ⟨true, .freely _ ?_⟩
    cases reported <;> cases answer
    · exact .freely _ (.freely _ (.freely _ (.freely _ .here)))
    · exact .freely _ (.freely _ (.freely _ (.freely _ .here)))
    · exact .freely _ (.freely _ (.freely _ .here))
    · exact .freely _ (.freely _ (.freely _ .here))

def Request.resizes : Request → Bool
  | .takeFlag _ | .readSize _ | .writeSize _ _ => true
  | .log (.sizeUnreadable _) | .log (.resized _) | .log (.resizeFailed _) => true
  | _ => false

/-- A program that is about resizes alone, and comes to a result. -/
def Program.Resizes {α : Type} : Program α → Prop
  | .done _ => True
  | .unfinished => False
  | .ask request next => request.resizes ∧ ∀ answer, (next answer).Resizes

theorem Program.Resizes.avoids {α : Type} {avoided : Request → Prop} {program : Program α}
    (resizes : program.Resizes) (apart : ∀ request, avoided request → request.resizes = false) :
    program.Avoids avoided := by
  induction program with
  | done value => exact trivial
  | unfinished => exact trivial
  | ask request next ih =>
    refine ⟨fun member => ?_, fun answer => ih answer (resizes.2 answer)⟩
    exact Bool.false_ne_true ((apart request member).symm.trans resizes.1)

/-- A world that takes no notice of resizes: what is asked about them may get any answer, and
everything is as before. -/
structure World.Overlooks {State : Type} (world : World State) : Prop where
  still : ∀ request before after, ¬ world.outside request before after
  resizes : ∀ request, request.resizes → ∀ before answer after,
    world.answers before request answer after ↔ after = before

theorem Program.Resizes.brings {State α : Type} {world : World State} {program : Program α}
    (resizes : program.Resizes) (overlooks : world.Overlooks) (state : State) :
    world.Brings state program fun events after _ =>
      after = state ∧ ∀ event ∈ events, event.request.resizes := by
  induction program with
  | done value => exact ⟨rfl, fun _ member => absurd member List.not_mem_nil⟩
  | unfinished => exact resizes.elim
  | ask request next ih =>
    have same := overlooks.resizes request resizes.1 state
    obtain ⟨answer⟩ := request.answerable
    apply World.Brings.ask (overlooks.still _ _ _) ⟨answer, state, (same _ _).mpr rfl⟩
    intro answer after answers
    obtain rfl := (same _ _).mp answers
    apply (ih answer (resizes.2 answer)).mono
    exact fun events final value ⟨same, all⟩ => ⟨same, List.forall_mem_cons.mpr ⟨resizes.1, all⟩⟩

theorem Program.Resizes.bind {α β : Type} {program : Program α} {next : α → Program β}
    (first : program.Resizes) (rest : ∀ value, (next value).Resizes) :
    (program >>= next).Resizes := by
  induction program with
  | done value => exact rest value
  | unfinished => exact first.elim
  | ask request following ih => exact ⟨first.1, fun answer => ih answer (first.2 answer)⟩

theorem copySize_resizes (source target : Descriptor) : (copySize source target).Resizes := by
  refine ⟨rfl, fun reported => ?_⟩
  cases reported with
  | ok size =>
    refine ⟨rfl, fun answer => ?_⟩
    cases answer <;> exact ⟨rfl, fun _ => trivial⟩
  | error e =>
    refine ⟨rfl, fun _ => ⟨rfl, fun answer => ?_⟩⟩
    cases answer <;> exact ⟨rfl, fun _ => trivial⟩

theorem service_resizes (watcher : ResizeWatcher) : watcher.service.Resizes := by
  refine ⟨rfl, fun raised => ?_⟩
  cases raised with
  | false => exact trivial
  | true => exact (copySize_resizes watcher.source watcher.target).bind fun _ => trivial

end TerminalRelay
