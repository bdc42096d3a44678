import Mathlib.Logic.Function.Basic
import TerminalRelay.Proofs.Outcomes
import TerminalRelay.Proofs.Resize.Attending
import TerminalRelay.Proofs.Resize.BeforeData

/-! A host whose answers are foretold, save that resizes may come at any time. What a relay does
is settled by the answers, and so is what is seen of it if only a part is looked at. -/

namespace TerminalRelay

/-- The answers foretold to a relay: to its waits, to the reads of each source and to the
writes to each sink. -/
structure Replies where
  waits : List (Except Errno Readiness)
  reads : Descriptor → List (Except Errno Bytes)
  writes : Descriptor → List (Except Errno Nat)

namespace Replies

def setReads (replies : Replies) (source : Descriptor) (reads : List (Except Errno Bytes)) :
    Replies :=
  { replies with reads := Function.update replies.reads source reads }

def setWrites (replies : Replies) (sink : Descriptor) (writes : List (Except Errno Nat)) :
    Replies :=
  { replies with writes := Function.update replies.writes sink writes }

def wait? (replies : Replies) : Option (Except Errno Readiness × Replies) :=
  match replies.waits with
  | [] => none
  | answer :: waits => some (answer, { replies with waits })

def read? (replies : Replies) (source : Descriptor) : Option (Except Errno Bytes × Replies) :=
  match replies.reads source with
  | [] => none
  | answer :: reads => some (answer, replies.setReads source reads)

def write (replies : Replies) (sink : Descriptor) (chunk : Bytes) : Except Errno Nat × Replies :=
  match replies.writes sink with
  | [] => (.ok chunk.length, replies)
  | answer :: writes => (answer, replies.setWrites sink writes)

@[simp] theorem setWrites_writes (replies : Replies) (sink : Descriptor)
    (writes : List (Except Errno Nat)) : (replies.setWrites sink writes).writes sink = writes :=
  Function.update_self ..

theorem setWrites_same {replies : Replies} {sink : Descriptor} {writes : List (Except Errno Nat)}
    (same : replies.writes sink = writes) : replies.setWrites sink writes = replies := by
  rw [setWrites, ← same, Function.update_eq_self]

@[simp] theorem setWrites_setWrites (replies : Replies) (sink : Descriptor)
    (writes others : List (Except Errno Nat)) :
    (replies.setWrites sink writes).setWrites sink others = replies.setWrites sink others := by
  simp [setWrites]

end Replies

/-- A host that answers as foretold, and not at all once there is nothing left of that. Flags
may be found raised and sizes be read and set however it comes. -/
def World.foretold : World Replies where
  outside _ _ _ := False
  answers before request answer after :=
    match request, answer with
    | .wait _ _ _, answer => before.wait? = some (answer, after)
    | .read source _, answer => before.read? source = some (answer, after)
    | .write sink chunk, answer => before.write sink chunk = (answer, after)
    | _, _ => after = before

def Request.sink? : Request → Option Descriptor
  | .write sink _ | .log (.dropped sink _ _) => some sink
  | _ => none

theorem World.foretold_overlooks : foretold.Overlooks where
  still _ _ _ := id
  resizes request about _ _ _ := by
    cases request <;> first | exact Iff.rfl | cases about

structure Focus where
  interruptions : Bool
  sinks : Descriptor → Bool

namespace Focus

def sees (focus : Focus) (event : Event) : Bool :=
  !event.request.resizes && (focus.interruptions || !event.interrupts) &&
    event.request.sink?.all focus.sinks

def view (focus : Focus) (events : List Event) : List Event :=
  events.filter focus.sees

def Yields {α : Type} (focus : Focus) (replies : Replies) (program : Program α)
    (seen : List Event) (after : Replies) (result : Option α) : Prop :=
  World.foretold.Settles replies program fun events final outcome =>
    focus.view events = seen ∧ final = after ∧ outcome = result

namespace Yields
variable {α β : Type} {focus : Focus} {replies between after : Replies} {seen later : List Event}

theorem done (value : α) : focus.Yields replies (.done value) [] replies (some value) :=
  ⟨rfl, rfl, rfl⟩

theorem drifts_same {request : Request} {before after : Replies}
    (drifts : World.foretold.Drifts request before after) : after = before := by
  cases drifts with
  | refl => rfl
  | tail _ happens => exact happens.elim

theorem ask (request : Request) {next : request.Answer → Program α} {answer : request.Answer}
    {result : Option α}
    (only : ∀ other after, World.foretold.answers replies request other after ↔
      other = answer ∧ after = between)
    (rest : focus.Yields between (next answer) seen after result) :
    focus.Yields replies (.ask request next) (focus.view [⟨request, answer⟩] ++ seen) after
      result := by
  intro opened drifts
  obtain rfl := drifts_same drifts
  refine ⟨fun never => absurd ((only answer between).mpr ⟨rfl, rfl⟩) (never answer between), ?_⟩
  intro other final answers
  obtain ⟨rfl, rfl⟩ := (only other final).mp answers
  apply rest.mono
  rintro events final outcome ⟨rfl, rfl, rfl⟩
  refine ⟨?_, rfl, rfl⟩
  rw [view, view, view, ← List.filter_append, List.singleton_append]

theorem blocked {request : Request} {next : request.Answer → Program α}
    (never : ∀ answer after, ¬ World.foretold.answers replies request answer after) :
    focus.Yields replies (.ask request next) [] replies none := by
  intro opened drifts
  obtain rfl := drifts_same drifts
  exact ⟨fun _ => ⟨rfl, rfl, rfl⟩, fun answer final answers => absurd answers (never answer final)⟩

theorem bind {program : Program α} {next : α → Program β} {value : α} {result : Option β}
    (first : focus.Yields replies program seen between (some value))
    (rest : focus.Yields between (next value) later after result) :
    focus.Yields replies (program >>= next) (seen ++ later) after result := by
  apply World.Settles.bind first
  · rintro _ _ ⟨-, -, same⟩
    cases same
  · rintro events state _ ⟨rfl, rfl, same⟩
    cases same
    apply rest.mono
    rintro others final outcome ⟨rfl, rfl, rfl⟩
    exact ⟨List.filter_append .., rfl, rfl⟩

theorem bind_blocked {program : Program α} {next : α → Program β}
    (first : focus.Yields replies program seen between none) :
    focus.Yields replies (program >>= next) seen between none := by
  apply World.Settles.bind first
  · exact fun _ _ holds => ⟨holds.1, holds.2.1, rfl⟩
  · rintro _ _ _ ⟨-, -, same⟩
    cases same

theorem read {source : Descriptor} {limit : Nat} {next : Except Errno Bytes → Program α}
    {answer : Except Errno Bytes} {result : Option α}
    (reads : replies.read? source = some (answer, between))
    (rest : focus.Yields between (next answer) seen after result) :
    focus.Yields replies (.ask (.read source limit) next)
      (focus.view [⟨.read source limit, answer⟩] ++ seen) after result := by
  refine ask (.read source limit) (fun other final => ?_) rest
  change replies.read? source = some (other, final) ↔ _
  rw [reads]
  simp [eq_comm]

theorem wait {near far : Descriptor} {mask : SignalSet} {next : Except Errno Readiness → Program α}
    {answer : Except Errno Readiness} {result : Option α}
    (waits : replies.wait? = some (answer, between))
    (rest : focus.Yields between (next answer) seen after result) :
    focus.Yields replies (.ask (.wait near far mask) next)
      (focus.view [⟨.wait near far mask, answer⟩] ++ seen) after result := by
  refine ask (.wait near far mask) (fun other final => ?_) rest
  change replies.wait? = some (other, final) ↔ _
  rw [waits]
  simp [eq_comm]

theorem write {sink : Descriptor} {chunk : Bytes} {next : Except Errno Nat → Program α}
    {answer : Except Errno Nat} {result : Option α}
    (writes : replies.write sink chunk = (answer, between))
    (rest : focus.Yields between (next answer) seen after result) :
    focus.Yields replies (.ask (.write sink chunk) next)
      (focus.view [⟨.write sink chunk, answer⟩] ++ seen) after result := by
  refine ask (.write sink chunk) (fun other final => ?_) rest
  change replies.write sink chunk = (other, final) ↔ _
  rw [writes]
  simp [eq_comm]

theorem note {notice : Notice} {next : Unit → Program α} {result : Option α}
    (rest : focus.Yields replies (next ()) seen after result) :
    focus.Yields replies (.ask (.log notice) next)
      (focus.view [⟨.log notice, ()⟩] ++ seen) after result := by
  refine ask (.log notice) (fun other final => ?_) rest
  exact ⟨fun same => ⟨rfl, same⟩, fun same => same.2⟩

theorem resizing {program : Program β} {next : β → Program α} {result : Option α}
    (resizes : program.Resizes)
    (rest : ∀ value, focus.Yields replies (next value) seen after result) :
    focus.Yields replies (program >>= next) seen after result := by
  apply World.Settles.bind (.of_brings (resizes.brings World.foretold_overlooks replies))
  · rintro _ _ ⟨_, same, -⟩
    cases same
  · rintro events _ value ⟨_, same, rfl, all⟩
    cases same
    apply (rest value).mono
    rintro later final outcome ⟨rfl, rfl, rfl⟩
    have unseen : focus.view events = [] :=
      List.filter_eq_nil_iff.mpr fun event member => by simp [sees, all event member]
    refine ⟨?_, rfl, rfl⟩
    rw [view, List.filter_append, ← view, unseen]
    rfl

end Yields

variable {focus : Focus}

/-- A program that spends of the answers to the writes to a sink all but a rest, whatever else is
foretold, and that is seen only if that sink is looked at. -/
structure Spends {α : Type} (focus : Focus) (sink : Descriptor) (program : Program α)
    (writes rest : List (Except Errno Nat)) (seen : List Event) (value : α) : Prop where
  fewer : rest.length ≤ writes.length
  unseen : focus.sinks sink = false → seen = []
  yields : ∀ replies : Replies, replies.writes sink = writes →
    focus.Yields replies program seen (replies.setWrites sink rest) (some value)

namespace Spends
variable {α β : Type} {sink : Descriptor} {writes middle rest : List (Except Errno Nat)}
  {seen later : List Event} {value : α}

theorem done (value : α) : focus.Spends sink (.done value) writes writes [] value where
  fewer := Nat.le_refl _
  unseen _ := rfl
  yields replies same := by
    rw [Replies.setWrites_same same]
    exact .done value

theorem bind {program : Program α} {next : α → Program β} {result : β}
    (first : focus.Spends sink program writes middle seen value)
    (second : focus.Spends sink (next value) middle rest later result) :
    focus.Spends sink (program >>= next) writes rest (seen ++ later) result where
  fewer := Nat.le_trans second.fewer first.fewer
  unseen off := by rw [first.unseen off, second.unseen off, List.append_nil]
  yields replies same := by
    apply (first.yields replies same).bind
    rw [← Replies.setWrites_setWrites replies sink middle rest]
    exact second.yields _ (Replies.setWrites_writes replies sink middle)

theorem offer {chunk : Bytes} {next : Except Errno Nat → Program α} {answer : Except Errno Nat}
    (spends : focus.Spends sink (next answer) writes rest seen value) :
    focus.Spends sink (.ask (.write sink chunk) next) (answer :: writes) rest
      (focus.view [⟨.write sink chunk, answer⟩] ++ seen) value where
  fewer := Nat.le_succ_of_le spends.fewer
  unseen off := by
    rw [spends.unseen off]
    simp [view, sees, Request.sink?, off]
  yields replies same := by
    have taken : replies.write sink chunk = (answer, replies.setWrites sink writes) := by
      rw [Replies.write, same]
    refine .write taken ?_
    rw [← Replies.setWrites_setWrites replies sink writes rest]
    exact spends.yields _ (Replies.setWrites_writes replies sink writes)

theorem lastOffer {chunk : Bytes} {next : Except Errno Nat → Program α}
    (spends : focus.Spends sink (next (.ok chunk.length)) [] rest seen value) :
    focus.Spends sink (.ask (.write sink chunk) next) [] rest
      (focus.view [⟨.write sink chunk, .ok chunk.length⟩] ++ seen) value where
  fewer := spends.fewer
  unseen off := by
    rw [spends.unseen off]
    simp [view, sees, Request.sink?, off]
  yields replies same := by
    have taken : replies.write sink chunk = (.ok chunk.length, replies) := by
      rw [Replies.write, same]
    exact .write taken (spends.yields replies same)

theorem noteDropped {count : Nat} {e : Errno} {next : Unit → Program α}
    (spends : focus.Spends sink (next ()) writes rest seen value) :
    focus.Spends sink (.ask (.log (.dropped sink count e)) next) writes rest
      (focus.view [⟨.log (.dropped sink count e), ()⟩] ++ seen) value where
  fewer := spends.fewer
  unseen off := by
    rw [spends.unseen off]
    simp [view, sees, Request.sink?, off]
  yields replies same := .note (spends.yields replies same)

end Spends

/-- What a delivery comes to depends on the answers to the writes to its sink alone. -/
theorem deliver_spends (focus : Focus) (sink : Descriptor) {patience : Nat}
    {writes : List (Except Errno Nat)} (enough : writes.length < patience) (chunk : Bytes) :
    ∃ rest seen result,
      focus.Spends sink (deliver sink patience chunk) writes rest seen result := by
  induction patience generalizing writes chunk with
  | zero => cases enough
  | succ patience ih =>
    by_cases none : chunk = []
    · subst none
      exact ⟨_, _, _, .done (Except.ok ())⟩
    · rw [deliver_offer sink patience none]
      cases writes with
      | nil =>
        have taken : focus.Spends sink ((afterOffer chunk (.ok chunk.length)).elim .done
            (deliver sink patience)) [] [] [] (.ok ()) := by
          rw [afterOffer_whole none, Sum.elim_inr, deliver_nothing]
          exact .done (Except.ok ())
        exact ⟨_, _, _, taken.lastOffer⟩
      | cons answer writes =>
        have goesOn : ∃ rest seen result, focus.Spends sink ((afterOffer chunk answer).elim .done
            (deliver sink patience)) writes rest seen result := by
          cases afterOffer chunk answer with
          | inl result => exact ⟨_, _, _, .done result⟩
          | inr left => exact ih (Nat.lt_of_succ_lt_succ enough) left
        obtain ⟨rest, seen, result, spends⟩ := goesOn
        exact ⟨_, _, _, spends.offer⟩

theorem handOver_spends {α : Type} (focus : Focus) (sink : Descriptor) {patience : Nat}
    {writes : List (Except Errno Nat)} (enough : writes.length < patience) (chunk : Bytes)
    {count : Nat} {value : α} {next : Except Errno Unit → Program α}
    (delivered : next (.ok ()) = .done value)
    (dropped : ∀ e, next (.error e) = note (.dropped sink count e) >>= fun _ => .done value) :
    ∃ rest seen, focus.Spends sink (deliver sink patience chunk >>= next) writes rest seen
      value := by
  obtain ⟨rest, seen, result, spends⟩ := deliver_spends focus sink enough chunk
  have goesOn : ∃ later, focus.Spends sink (next result) rest rest later value := by
    cases result with
    | ok _ =>
      rw [delivered]
      exact ⟨_, .done value⟩
    | error e =>
      rw [dropped]
      exact ⟨_, (Spends.done value).noteDropped⟩
  obtain ⟨later, concludes⟩ := goesOn
  exact ⟨_, _, spends.bind concludes⟩

end Focus
end TerminalRelay
