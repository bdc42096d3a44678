import TerminalRelay.Proofs.Allowances
import TerminalRelay.Proofs.Relay.Stages

/-! The relay is byte exact. Whatever the host answers, the bytes that come to a sink are, in
the order of reading, a prefix of each chunk read from the source of that sink, and the whole
chunk unless a write of it failed. A chunk that was read is left over only when the relay has
offered it as often as it may. -/

namespace TerminalRelay

def accepted (chunk : Bytes) : Except Errno Nat → Bytes
  | .ok count => chunk.take count
  | .error _ => []

theorem accepted_append {chunk rest : Bytes} {answer : Except Errno Nat}
    (goesOn : afterOffer chunk answer = .inr rest) : accepted chunk answer ++ rest = chunk := by
  match answer with
  | .ok 0 => cases goesOn
  | .ok (count + 1) =>
    cases goesOn
    exact List.take_append_drop (count + 1) chunk
  | .error e =>
    simp only [afterOffer] at goesOn
    split at goesOn
    · cases goesOn
      rfl
    · cases goesOn

theorem accepted_of_fails {chunk : Bytes} {answer : Except Errno Nat} {result : Except Errno Unit}
    (last : afterOffer chunk answer = .inl result) : accepted chunk answer = [] := by
  match answer with
  | .ok 0 => rfl
  | .ok (count + 1) => cases last
  | .error e => rfl

namespace Event

def chunk? (source : Descriptor) : Event → Option Bytes
  | ⟨.read device _, .ok (first :: others)⟩ =>
    if device = source then some (first :: others) else none
  | _ => none

def taken (sink : Descriptor) : Event → Bytes
  | ⟨.write device chunk, answer⟩ => if device = sink then accepted chunk answer else []
  | _ => []

/-- Whether an event is the failed write that ends the delivery of a chunk to a sink. -/
def refuses (sink : Descriptor) : Event → Bool
  | ⟨.write device chunk, answer⟩ => device = sink && (afterOffer chunk answer).isLeft
  | _ => false

theorem chunk?_read (source device : Descriptor) (limit : Nat) (chunk : Bytes) :
    chunk? source ⟨.read device limit, .ok chunk⟩ =
      if device = source ∧ chunk ≠ [] then some chunk else none := by
  cases chunk with
  | nil => simp [chunk?]
  | cons first others => simp [chunk?]

theorem of_chunk? {source : Descriptor} {chunk : Bytes} {event : Event}
    (read : event.chunk? source = some chunk) (sink : Descriptor) :
    event.taken sink = [] ∧ event.refuses sink = false := by
  unfold chunk? at read
  split at read
  · exact ⟨rfl, rfl⟩
  · cases read

end Event

def chunksRead (source : Descriptor) (events : List Event) : List Bytes :=
  events.filterMap (Event.chunk? source)

def bytesTaken (sink : Descriptor) (events : List Event) : Bytes :=
  events.flatMap (Event.taken sink)

def beforeNext (source : Descriptor) (events : List Event) : List Event :=
  events.takeWhile fun event => (event.chunk? source).isNone

/-- A chunk with what happened until the next one was read from the same source. -/
structure Parcel where
  chunk : Bytes
  after : List Event

namespace Parcel

def taken (sink : Descriptor) (parcel : Parcel) : Bytes :=
  bytesTaken sink parcel.after

def Refused (sink : Descriptor) (parcel : Parcel) : Prop :=
  ∃ event ∈ parcel.after, event.refuses sink

end Parcel

def parcels (source : Descriptor) : List Event → List Parcel
  | [] => []
  | event :: events =>
    match event.chunk? source with
    | some chunk => ⟨chunk, beforeNext source events⟩ :: parcels source events
    | none => parcels source events

section
variable {source : Descriptor} {event : Event} {chunk : Bytes}

theorem beforeNext_of_chunk (read : event.chunk? source = some chunk) (events : List Event) :
    beforeNext source (event :: events) = [] := by
  simp [beforeNext, read]

theorem beforeNext_of_none (unread : event.chunk? source = none) (events : List Event) :
    beforeNext source (event :: events) = event :: beforeNext source events := by
  simp [beforeNext, unread]

theorem parcels_of_chunk (read : event.chunk? source = some chunk) (events : List Event) :
    parcels source (event :: events) =
      ⟨chunk, beforeNext source events⟩ :: parcels source events := by
  simp [parcels, read]

theorem parcels_of_none (unread : event.chunk? source = none) (events : List Event) :
    parcels source (event :: events) = parcels source events := by
  simp [parcels, unread]

theorem chunksRead_of_chunk (read : event.chunk? source = some chunk) (events : List Event) :
    chunksRead source (event :: events) = chunk :: chunksRead source events := by
  simp [chunksRead, read]

theorem chunksRead_of_none (unread : event.chunk? source = none) (events : List Event) :
    chunksRead source (event :: events) = chunksRead source events := by
  simp [chunksRead, unread]

end

@[simp] theorem bytesTaken_nil (sink : Descriptor) : bytesTaken sink [] = [] := rfl

@[simp] theorem bytesTaken_cons (sink : Descriptor) (event : Event) (events : List Event) :
    bytesTaken sink (event :: events) = event.taken sink ++ bytesTaken sink events := rfl

theorem parcels_chunks (source : Descriptor) (events : List Event) :
    (parcels source events).map Parcel.chunk = chunksRead source events := by
  induction events with
  | nil => rfl
  | cons event events ih =>
    cases read : event.chunk? source with
    | none => rw [parcels_of_none read, chunksRead_of_none read, ih]
    | some chunk => rw [parcels_of_chunk read, chunksRead_of_chunk read, List.map_cons, ih]

theorem bytesTaken_eq_parcels (source sink : Descriptor) (events : List Event) :
    bytesTaken sink events = bytesTaken sink (beforeNext source events) ++
      ((parcels source events).map (Parcel.taken sink)).flatten := by
  induction events with
  | nil => rfl
  | cons event events ih =>
    rw [bytesTaken_cons, ih]
    cases read : event.chunk? source with
    | none =>
      rw [parcels_of_none read, beforeNext_of_none read, bytesTaken_cons, List.append_assoc]
    | some chunk =>
      rw [parcels_of_chunk read, beforeNext_of_chunk read, (Event.of_chunk? read sink).1]
      simp [Parcel.taken]

/-- What a program has still to offer of the chunk that it is delivering to a sink. A program
whose allowance is used up may have stopped anywhere. -/
def Program.Holds {α : Type} (sink : Descriptor) : Program α → Bytes → Prop
  | .ask (.write device chunk) _, left => left = if device = sink then chunk else []
  | .unfinished, _ => True
  | _, left => left = []

/-- The bytes that came to a sink are those of the chunks read from a source. -/
structure ByteExact (source sink : Descriptor) (events : List Event) (left : Bytes) : Prop where
  complete : (parcels source events).map Parcel.chunk = chunksRead source events
  concatenated :
    bytesTaken sink events = ((parcels source events).map (Parcel.taken sink)).flatten
  ofFront : ∀ parcel ∈ parcels source events, parcel.taken sink <+: parcel.chunk
  earlier : ∀ parcel ∈ (parcels source events).dropLast,
    ¬ parcel.Refused sink → parcel.taken sink = parcel.chunk
  latest : ∀ parcel ∈ (parcels source events).getLast?,
    ¬ parcel.Refused sink → parcel.taken sink ++ left = parcel.chunk
  ordered : (bytesTaken sink events).Sublist (chunksRead source events).flatten
  lossless : (∀ event ∈ events, ¬ event.refuses sink) →
    bytesTaken sink events ++ left = (chunksRead source events).flatten

namespace Stage

def owed (side : Side) : Stage → Bytes
  | offering other _ _ left => if other = side then left else []
  | _ => []

private theorem owed_idle {stage : Stage}
    (idle : ∀ side farToo count left, stage ≠ offering side farToo count left) (side : Side) :
    stage.owed side = [] := by
  cases stage with
  | offering other farToo count left => exact absurd rfl (idle other farToo count left)
  | _ => rfl

private theorem owed_next (side other : Side) (farToo : Bool) :
    (other.next farToo).owed side = [] :=
  owed_idle (other.next_ne_offering farToo) side

private theorem owed_readiness (side : Side) (ready : Readiness) : ready.stage.owed side = [] := by
  unfold Readiness.stage
  split
  · rfl
  · split <;> rfl

variable {target : Descriptor} {watcher : ResizeWatcher} {side : Side} {stage next : Stage}
  {event : Event}

theorem Step.receives (notInput : target ≠ .input)
    (step : Step target watcher stage event next)
    {chunk : Bytes} (read : event.chunk? (side.source target) = some chunk) :
    stage.owed side = [] ∧ next.owed side = chunk := by
  cases step with
  | received other farToo got nonempty =>
    rw [Event.chunk?_read] at read
    split at read
    · next same =>
      cases read
      rw [Side.source_eq_iff notInput] at same
      exact ⟨rfl, if_pos same.1⟩
    · cases read
  | ended => cases read
  | _ => cases read

private theorem Step.hands (notOutput : target ≠ .output)
    (step : Step target watcher stage event next)
    (unread : event.chunk? (side.source target) = none)
    (unrefused : event.refuses (side.sink target) = false) :
    event.taken (side.sink target) ++ next.owed side = stage.owed side := by
  cases step with
  | woken ready => exact owed_readiness side ready
  | received other farToo got nonempty =>
    rw [Event.chunk?_read] at unread
    have foreign : other ≠ side := by
      rintro rfl
      simp [nonempty] at unread
    exact if_neg foreign
  | taken other farToo count left rest answer goesOn =>
    have reached : (if rest = [] then other.next farToo else offering other farToo count rest).owed
        side = if other = side then rest else [] := by
      split
      · next finished => simp [finished, owed_next]
      · rfl
    rw [reached]
    by_cases own : other = side
    · subst own
      simp [Event.taken, owed, accepted_append goesOn]
    · simp [Event.taken, owed, own, Side.sink_eq_iff notOutput]
  | refused other farToo count left e answer fails =>
    have foreign : other ≠ side := by
      rintro rfl
      simp [Event.refuses, fails] at unrefused
    simp [Event.taken, owed, foreign, Side.sink_eq_iff notOutput]
  | noted notice next idle => exact owed_idle idle side
  | _ => rfl

private theorem Step.drops (step : Step target watcher stage event next)
    (refuses : event.refuses (side.sink target)) :
    event.taken (side.sink target) = [] ∧ next.owed side = [] := by
  cases step with
  | taken other farToo count left rest answer goesOn =>
    simp [Event.refuses, goesOn] at refuses
  | refused other farToo count left e answer fails =>
    simp [Event.taken, accepted_of_fails fails, owed]
  | _ => cases refuses

/-- All that a step can do to a direction: it reads a chunk when nothing is left of the one
before, it drops what is left, or it hands over from the front of what is left. -/
theorem Step.transfers (notInput : target ≠ .input) (notOutput : target ≠ .output)
    (step : Step target watcher stage event next) (side : Side) :
    (∃ chunk, event.chunk? (side.source target) = some chunk ∧
      event.taken (side.sink target) = [] ∧ event.refuses (side.sink target) = false ∧
      stage.owed side = [] ∧ next.owed side = chunk) ∨
    (event.chunk? (side.source target) = none ∧ event.refuses (side.sink target) = true ∧
      event.taken (side.sink target) = [] ∧ next.owed side = []) ∨
    (event.chunk? (side.source target) = none ∧ event.refuses (side.sink target) = false ∧
      event.taken (side.sink target) ++ next.owed side = stage.owed side) := by
  cases read : event.chunk? (side.source target) with
  | some chunk =>
    obtain ⟨untaken, unrefused⟩ := Event.of_chunk? read (side.sink target)
    exact .inl ⟨chunk, rfl, untaken, unrefused, step.receives notInput read⟩
  | none =>
    cases refuses : event.refuses (side.sink target) with
    | true => exact .inr (.inl ⟨rfl, rfl, step.drops refuses⟩)
    | false => exact .inr (.inr ⟨rfl, rfl, step.hands notOutput read refuses⟩)

variable {State : Type} {world : World State} {before after : State} {events : List Event}
  {final : Stage}

theorem Passage.hands (notInput : target ≠ .input) (notOutput : target ≠ .output)
    (passage : Passage target watcher world stage before events final after) (side : Side) :
    bytesTaken (side.sink target) (beforeNext (side.source target) events) <+: stage.owed side ∧
      ((∀ event ∈ beforeNext (side.source target) events, ¬ event.refuses (side.sink target)) →
        bytesTaken (side.sink target) (beforeNext (side.source target) events) ++
          (if parcels (side.source target) events = [] then final.owed side else []) =
            stage.owed side) := by
  induction passage with
  | here => exact ⟨List.nil_prefix, fun _ => rfl⟩
  | outside _ _ _ ih => exact ih
  | stepped step answers passage ih =>
    rcases step.transfers notInput notOutput side with
      ⟨chunk, read, -, -, settled, -⟩ | ⟨unread, refuses, nothing, dropped⟩ |
      ⟨unread, accepts, handed⟩
    · rw [beforeNext_of_chunk read, parcels_of_chunk read, settled]
      exact ⟨List.nil_prefix, fun _ => rfl⟩
    · rw [dropped, List.prefix_nil] at ih
      rw [beforeNext_of_none unread, bytesTaken_cons, nothing, ih.1]
      exact ⟨List.nil_prefix, fun kept => absurd refuses (kept _ List.mem_cons_self)⟩
    · rw [beforeNext_of_none unread, parcels_of_none unread, bytesTaken_cons, ← handed]
      refine ⟨(List.prefix_append_right_inj _).mpr ih.1, fun kept => ?_⟩
      rw [List.append_assoc, ih.2 fun event member => kept event (List.mem_cons_of_mem _ member)]

theorem Passage.ordered (notInput : target ≠ .input) (notOutput : target ≠ .output)
    (passage : Passage target watcher world stage before events final after) (side : Side) :
    (bytesTaken (side.sink target) events).Sublist
      (stage.owed side ++ (chunksRead (side.source target) events).flatten) := by
  induction passage with
  | here => exact List.nil_sublist _
  | outside _ _ _ ih => exact ih
  | stepped step answers passage ih =>
    rw [bytesTaken_cons]
    rcases step.transfers notInput notOutput side with
      ⟨chunk, read, untaken, -, settled, whole⟩ | ⟨unread, -, nothing, dropped⟩ |
      ⟨unread, -, handed⟩
    · rw [whole] at ih
      rw [chunksRead_of_chunk read, settled, untaken]
      exact ih
    · rw [dropped] at ih
      rw [chunksRead_of_none unread, nothing]
      exact ih.trans (List.sublist_append_right _ _)
    · rw [chunksRead_of_none unread, ← handed, List.append_assoc]
      exact ih.append_left _

theorem Passage.lossless (notInput : target ≠ .input) (notOutput : target ≠ .output)
    (passage : Passage target watcher world stage before events final after) (side : Side)
    (kept : ∀ event ∈ events, ¬ event.refuses (side.sink target)) :
    bytesTaken (side.sink target) events ++ final.owed side =
      stage.owed side ++ (chunksRead (side.source target) events).flatten := by
  induction passage with
  | here => simp [chunksRead]
  | outside _ _ _ ih => exact ih kept
  | stepped step answers passage ih =>
    have later := ih fun event member => kept event (List.mem_cons_of_mem _ member)
    rw [bytesTaken_cons, List.append_assoc, later]
    rcases step.transfers notInput notOutput side with
      ⟨chunk, read, untaken, -, settled, whole⟩ | ⟨-, refuses, -⟩ | ⟨unread, -, handed⟩
    · rw [chunksRead_of_chunk read, settled, whole, untaken]
      rfl
    · exact absurd refuses (kept _ List.mem_cons_self)
    · rw [chunksRead_of_none unread, ← List.append_assoc, handed]

/-- A chunk is delivered from its front, and whole unless a write of it fails. -/
theorem Passage.delivers (notInput : target ≠ .input) (notOutput : target ≠ .output)
    (passage : Passage target watcher world stage before events final after) (side : Side) :
    (∀ parcel ∈ parcels (side.source target) events,
      parcel.taken (side.sink target) <+: parcel.chunk) ∧
    (∀ parcel ∈ (parcels (side.source target) events).dropLast,
      ¬ parcel.Refused (side.sink target) → parcel.taken (side.sink target) = parcel.chunk) ∧
    (∀ parcel ∈ (parcels (side.source target) events).getLast?,
      ¬ parcel.Refused (side.sink target) →
        parcel.taken (side.sink target) ++ final.owed side = parcel.chunk) := by
  induction passage with
  | here => simp [parcels]
  | outside _ _ _ ih => exact ih
  | @stepped _ _ _ _ _ _ events _ _ step answers passage ih =>
    rcases step.transfers notInput notOutput side with
      ⟨chunk, read, -, -, -, whole⟩ | ⟨unread, -⟩ | ⟨unread, -⟩
    · obtain ⟨front, rest⟩ := passage.hands notInput notOutput side
      rw [whole] at front rest
      have unrefused (kept : ¬ Parcel.Refused (side.sink target)
          ⟨chunk, beforeNext (side.source target) events⟩) :=
        rest fun event member refuses => kept ⟨event, member, refuses⟩
      rw [parcels_of_chunk read]
      obtain ⟨fronts, earlier, latest⟩ := ih
      cases others : parcels (side.source target) events with
      | nil =>
        rw [others, if_pos rfl] at unrefused
        refine ⟨by simpa [Parcel.taken] using front, by simp, ?_⟩
        simpa [Parcel.taken] using unrefused
      | cons second rest =>
        rw [others] at fronts earlier latest
        rw [others, if_neg (List.cons_ne_nil _ _), List.append_nil] at unrefused
        refine ⟨?_, ?_, ?_⟩
        · exact List.forall_mem_cons.mpr ⟨front, fronts⟩
        · rw [List.dropLast_cons_of_ne_nil (List.cons_ne_nil _ _)]
          exact List.forall_mem_cons.mpr ⟨unrefused, earlier⟩
        · rwa [List.getLast?_cons_cons]
    · rwa [parcels_of_none unread]
    · rwa [parcels_of_none unread]

theorem Follows.holds (notOutput : target ≠ .output) {program : Program Ending}
    (follows : Follows target watcher program stage) :
    program.Holds (side.sink target) (stage.owed side) := by
  match program with
  | .done ending =>
    cases follows
    rfl
  | .unfinished => exact trivial
  | .ask request next =>
    have asks := follows.1
    cases stage with
    | finished ending => cases asks
    | offering other farToo count left =>
      cases asks
      simp [Program.Holds, owed, Side.sink_eq_iff notOutput]
    | _ =>
      cases asks
      rfl

end Stage

/-- A relay whose far side is neither the local input nor the local output is byte exact both
ways, whatever its buffer held before, and stops short only when its allowance is spent. -/
theorem relay_byte_exact {State : Type} {world : World State} {patience rounds : Nat}
    {target : Descriptor} {watcher : ResizeWatcher} {buffer : Bytes} {before after : State}
    {events : List Event} {rest : Program Ending} (notInput : target ≠ .input)
    (notOutput : target ≠ .output)
    (run : world.Run before (relay patience target watcher rounds buffer) events after rest)
    (side : Side) :
    (rest = .unfinished → RelaySpent patience rounds events) ∧
      ∃ left, rest.Holds (side.sink target) left ∧
        ByteExact (side.source target) (side.sink target) events left := by
  obtain ⟨final, passage, ends⟩ := Stage.relay_passage run
  obtain ⟨fronts, earlier, latest⟩ := passage.delivers notInput notOutput side
  have nothing : bytesTaken (side.sink target) (beforeNext (side.source target) events) = [] :=
    List.prefix_nil.mp (passage.hands notInput notOutput side).1
  refine ⟨?_, final.owed side, ends.holds notOutput, ?_⟩
  · rintro rfl
    exact (relay_exhausts_allowance target watcher buffer).run run
  exact {
    complete := parcels_chunks _ _
    concatenated := by
      rw [bytesTaken_eq_parcels (side.source target), nothing, List.nil_append]
    ofFront := fronts
    earlier
    latest
    ordered := passage.ordered notInput notOutput side
    lossless := passage.lossless notInput notOutput side }

/-- What may happen to a relay that loses the end of a chunk: the far side takes one byte of
three, is interrupted and then fails, while the other direction is not disturbed. -/
def lossyEvents : List Event :=
  [⟨.takeFlag 0, false⟩, ⟨.wait .input (.opened 3) .empty, .ok ⟨true, true⟩⟩,
    ⟨.read .input chunkSize, .ok [1, 2, 3]⟩, ⟨.write (.opened 3) [1, 2, 3], .ok 1⟩,
    ⟨.write (.opened 3) [2, 3], .error .interrupted⟩,
    ⟨.write (.opened 3) [2, 3], .error .inputOutput⟩,
    ⟨.log (.dropped (.opened 3) 3 .inputOutput), ()⟩,
    ⟨.read (.opened 3) chunkSize, .ok [7, 8]⟩, ⟨.write .output [7, 8], .ok 2⟩,
    ⟨.takeFlag 0, false⟩, ⟨.wait .input (.opened 3) .empty, .ok ⟨true, false⟩⟩,
    ⟨.read .input chunkSize, .ok []⟩]

theorem lossy_run : World.unruly.Run ()
    (relay 3 (.opened 3) ⟨.terminal, .opened 3, 0, .empty⟩ 2 blankBuffer) lossyEvents ()
    (.done .localClosed) :=
  .freely _ <| .freely _ <| .freely _ <| .freely _ <| .freely _ <| .freely _ <| .freely _ <|
  .freely _ <| .freely _ <| .freely _ <| .freely _ <| .freely _ .here

/-- The far side got the first byte of the chunk that was dropped, and the output everything. -/
theorem relay_byte_exact_across_a_drop :
    World.unruly.Run () (relay 3 (.opened 3) ⟨.terminal, .opened 3, 0, .empty⟩ 2 blankBuffer)
        lossyEvents () (.done .localClosed) ∧
      (∀ side : Side,
        ByteExact (side.source (.opened 3)) (side.sink (.opened 3)) lossyEvents []) ∧
      bytesTaken (.opened 3) lossyEvents = [1] ∧ bytesTaken .output lossyEvents = [7, 8] := by
  refine ⟨lossy_run, fun side => ?_, by decide, by decide⟩
  obtain ⟨-, left, none, exact⟩ := relay_byte_exact (by decide) (by decide) lossy_run side
  cases none
  exact exact

end TerminalRelay
