import Mathlib.Algebra.Ring.Nat
import TerminalRelay.Proofs.Relay.ByteExactness

/-! What a relay reports as lost. A chunk of which a write failed is reported once and with
its whole length, whatever the sink took of it before. So the reports make up for what was
read and did not arrive just as long as no such chunk arrived in part. -/

namespace TerminalRelay

def Notice.dropped? (sink : Descriptor) : Notice → Option Nat
  | .dropped device count _ => if device = sink then some count else none
  | _ => none

def Event.dropped? (sink : Descriptor) : Event → Option Nat
  | ⟨.log notice, _⟩ => notice.dropped? sink
  | _ => none

def dropsReported (sink : Descriptor) (events : List Event) : List Nat :=
  events.filterMap (Event.dropped? sink)

theorem dropsReported_cons (sink : Descriptor) (event : Event) (events : List Event) :
    dropsReported sink (event :: events) =
      (event.dropped? sink).toList ++ dropsReported sink events := by
  unfold dropsReported
  cases reported : event.dropped? sink with
  | none => rw [List.filterMap_cons_none reported]; rfl
  | some count => rw [List.filterMap_cons_some reported]; rfl

namespace Parcel

def isRefused (sink : Descriptor) (parcel : Parcel) : Bool :=
  parcel.after.any (Event.refuses sink)

end Parcel

def refusedParcels (source sink : Descriptor) (events : List Event) : List Parcel :=
  (parcels source events).filter (Parcel.isRefused sink)

def partlyTaken (source sink : Descriptor) (events : List Event) : Nat :=
  ((refusedParcels source sink events).map fun parcel => (parcel.taken sink).length).sum

theorem refusedParcels_of_chunk {source sink : Descriptor} {event : Event} {chunk : Bytes}
    (read : event.chunk? source = some chunk) (events : List Event) :
    refusedParcels source sink (event :: events) =
      if Parcel.isRefused sink ⟨chunk, beforeNext source events⟩
        then ⟨chunk, beforeNext source events⟩ :: refusedParcels source sink events
        else refusedParcels source sink events := by
  unfold refusedParcels
  rw [parcels_of_chunk read, List.filter_cons]

theorem refusedParcels_of_none {source sink : Descriptor} {event : Event}
    (unread : event.chunk? source = none) (events : List Event) :
    refusedParcels source sink (event :: events) = refusedParcels source sink events := by
  unfold refusedParcels
  rw [parcels_of_none unread]

/-- The drops that a program reports before it does anything else. A program whose allowance
is used up may have stopped anywhere. -/
def Program.Reports {α : Type} (sink : Descriptor) : Program α → List Nat → Prop
  | .ask (.log notice) next, drops =>
    ∃ later, (next ()).Reports sink later ∧ drops = (notice.dropped? sink).toList ++ later
  | .unfinished, _ => True
  | _, drops => drops = []

/-- How the bytes read from a source compare with those that came to a sink and those
reported as dropped, when `left` is still to be offered and `unreported` to be reported. -/
structure LossAccount (source sink : Descriptor) (events : List Event) (left : Bytes)
    (unreported : List Nat) : Prop where
  reported : dropsReported sink events ++ unreported =
    (refusedParcels source sink events).map (·.chunk.length)
  balance : (chunksRead source events).flatten.length + partlyTaken source sink events =
    (bytesTaken sink events).length + (dropsReported sink events).sum + left.length +
      unreported.sum
  exact_iff : (chunksRead source events).flatten.length =
      (bytesTaken sink events).length + (dropsReported sink events).sum + left.length +
        unreported.sum ↔
    ∀ parcel ∈ parcels source events, parcel.Refused sink → parcel.taken sink = []

namespace Stage

def unreported (sink : Descriptor) : Stage → List Nat
  | noting notice next => (notice.dropped? sink).toList ++ next.unreported sink
  | concluding notice _ => (notice.dropped? sink).toList
  | _ => []

def attempted (side : Side) : Stage → List Nat
  | offering other _ count _ => if other = side then [count] else []
  | _ => []

private theorem unreported_next (sink : Descriptor) (side : Side) (farToo : Bool) :
    (side.next farToo).unreported sink = [] := by
  cases side <;> cases farToo <;> rfl

private theorem attempted_next (side other : Side) (farToo : Bool) :
    (other.next farToo).attempted side = [] := by
  cases other <;> cases farToo <;> rfl

private theorem unreported_readiness (sink : Descriptor) (ready : Readiness) :
    ready.stage.unreported sink = [] ∧ ∀ side, ready.stage.attempted side = [] := by
  unfold Readiness.stage
  split
  · exact ⟨rfl, fun _ => rfl⟩
  · split <;> exact ⟨rfl, fun _ => rfl⟩

variable {target : Descriptor} {watcher : ResizeWatcher} {side : Side} {stage next : Stage}
  {event : Event}

/-- All that a step can do to the reports of a direction: it begins a delivery, it gives one
up and has that to report, or it reports and at most completes the delivery. -/
theorem Step.announces (notInput : target ≠ .input) (notOutput : target ≠ .output)
    (step : Step target watcher stage event next) (side : Side) :
    (∃ chunk, event.chunk? (side.source target) = some chunk ∧
      event.dropped? (side.sink target) = none ∧ stage.unreported (side.sink target) = [] ∧
      stage.attempted side = [] ∧ next.unreported (side.sink target) = [] ∧
      next.attempted side = [chunk.length]) ∨
    (event.chunk? (side.source target) = none ∧ event.refuses (side.sink target) = true ∧
      event.dropped? (side.sink target) = none ∧ stage.unreported (side.sink target) = [] ∧
      stage.attempted side ≠ [] ∧ next.unreported (side.sink target) = stage.attempted side ∧
      next.attempted side = []) ∨
    (event.chunk? (side.source target) = none ∧ event.refuses (side.sink target) = false ∧
      stage.unreported (side.sink target) =
        (event.dropped? (side.sink target)).toList ++ next.unreported (side.sink target) ∧
      (next.attempted side = stage.attempted side ∨ next.attempted side = [])) := by
  cases step with
  | woken ready =>
    obtain ⟨quiet, idle⟩ := unreported_readiness (side.sink target) ready
    exact .inr (.inr ⟨rfl, rfl, by rw [quiet]; rfl, .inr (idle side)⟩)
  | received other farToo chunk nonempty =>
    by_cases own : other = side
    · subst own
      refine .inl ⟨chunk, ?_, rfl, rfl, rfl, rfl, if_pos rfl⟩
      rw [Event.chunk?_read, if_pos ⟨rfl, nonempty⟩]
    · refine .inr (.inr ⟨?_, rfl, rfl, .inr (if_neg own)⟩)
      rw [Event.chunk?_read, if_neg]
      exact fun same => own ((Side.source_eq_iff notInput).mp same.1)
  | ended other farToo => exact .inr (.inr ⟨rfl, rfl, rfl, .inr rfl⟩)
  | taken other farToo count left rest answer goesOn =>
    have accepts : Event.refuses (side.sink target)
        ⟨.write (other.sink target) left, answer⟩ = false := by
      simp [Event.refuses, goesOn]
    refine .inr (.inr ⟨rfl, accepts, ?_, ?_⟩)
    · split
      · rw [unreported_next]; rfl
      · rfl
    · split
      · exact .inr (attempted_next side other farToo)
      · exact .inl rfl
  | refused other farToo count left e answer fails =>
    by_cases own : other = side
    · subst own
      refine .inr (.inl ⟨rfl, ?_, rfl, rfl, ?_, ?_, rfl⟩)
      · simp [Event.refuses, fails]
      · simp [attempted]
      · simp [attempted, unreported, Notice.dropped?, unreported_next]
    · have foreign : other.sink target ≠ side.sink target :=
        fun same => own ((Side.sink_eq_iff notOutput).mp same)
      refine .inr (.inr ⟨rfl, ?_, ?_, .inr rfl⟩)
      · simp [Event.refuses, foreign]
      · simp [unreported, Notice.dropped?, foreign, unreported_next, Event.dropped?]
  | noted notice next idle =>
    refine .inr (.inr ⟨rfl, rfl, rfl, .inr ?_⟩)
    cases next with
    | offering other farToo count left => exact absurd rfl (idle other farToo count left)
    | _ => rfl
  | concluded notice ending =>
    exact .inr (.inr ⟨rfl, rfl, (List.append_nil _).symm, .inr rfl⟩)
  | _ => exact .inr (.inr ⟨rfl, rfl, rfl, .inr rfl⟩)

variable {State : Type} {world : World State} {before after : State} {events : List Event}
  {final : Stage}

theorem Passage.calm (notInput : target ≠ .input) (notOutput : target ≠ .output)
    (passage : Passage target watcher world stage before events final after)
    (idle : stage.attempted side = []) :
    (beforeNext (side.source target) events).any (Event.refuses (side.sink target)) = false := by
  induction passage with
  | here => rfl
  | outside _ _ _ ih => exact ih idle
  | stepped step answers passage ih =>
    rcases step.announces notInput notOutput side with
      ⟨chunk, read, -⟩ | ⟨-, -, -, -, busy, -⟩ | ⟨unread, accepts, -, goesOn⟩
    · rw [beforeNext_of_chunk read]
      rfl
    · exact absurd idle busy
    · have still : Stage.attempted side _ = [] := goesOn.elim (·.trans idle) id
      rw [beforeNext_of_none unread, List.any_cons, accepts, ih still]
      rfl

theorem Passage.reports (notInput : target ≠ .input) (notOutput : target ≠ .output)
    (passage : Passage target watcher world stage before events final after) (side : Side) :
    dropsReported (side.sink target) events ++ final.unreported (side.sink target) =
      stage.unreported (side.sink target) ++
        (if (beforeNext (side.source target) events).any (Event.refuses (side.sink target))
          then stage.attempted side else []) ++
        (refusedParcels (side.source target) (side.sink target) events).map
          (·.chunk.length) := by
  induction passage with
  | here => simp [dropsReported, beforeNext, refusedParcels, parcels]
  | outside _ _ _ ih => exact ih
  | @stepped _ _ _ _ _ _ events _ _ step answers passage ih =>
    rw [dropsReported_cons, List.append_assoc, ih]
    rcases step.announces notInput notOutput side with
      ⟨chunk, read, silent, nothing, -, quiet, begun⟩ |
      ⟨unread, refuses, silent, nothing, -, toReport, idle⟩ |
      ⟨unread, accepts, reported, goesOn⟩
    · rw [beforeNext_of_chunk read, refusedParcels_of_chunk read, silent, nothing, quiet, begun]
      by_cases fails : (beforeNext (side.source target) events).any
          (Event.refuses (side.sink target))
      · simp [Parcel.isRefused, fails]
      · simp [Parcel.isRefused, fails]
    · have later := passage.calm notInput notOutput idle
      rw [beforeNext_of_none unread, refusedParcels_of_none unread, silent, nothing, toReport,
        later]
      simp [refuses]
    · rw [beforeNext_of_none unread, refusedParcels_of_none unread, List.any_cons, accepts,
        reported, Bool.false_or]
      rcases goesOn with same | done
      · rw [same, List.append_assoc, List.append_assoc, List.append_assoc]
      · rw [passage.calm notInput notOutput done]
        simp

/-- What is owed, unless the delivery under way fails, and what is read and taken in vain make
up what comes to the sink, what is left and the chunks whose delivery fails. -/
theorem Passage.measures (notInput : target ≠ .input) (notOutput : target ≠ .output)
    (passage : Passage target watcher world stage before events final after) (side : Side) :
    (if (beforeNext (side.source target) events).any (Event.refuses (side.sink target))
      then (bytesTaken (side.sink target) (beforeNext (side.source target) events)).length
      else (stage.owed side).length) +
        (chunksRead (side.source target) events).flatten.length +
        partlyTaken (side.source target) (side.sink target) events =
      (bytesTaken (side.sink target) events).length + (final.owed side).length +
        ((refusedParcels (side.source target) (side.sink target) events).map
          (·.chunk.length)).sum := by
  induction passage with
  | here => simp [beforeNext, chunksRead, partlyTaken, refusedParcels, parcels]
  | outside _ _ _ ih => exact ih
  | @stepped _ _ _ _ _ _ events _ _ step answers passage ih =>
    unfold partlyTaken at ih ⊢
    rw [bytesTaken_cons, List.length_append]
    rcases step.transfers notInput notOutput side with
      ⟨chunk, read, untaken, -, settled, whole⟩ | ⟨unread, refuses, nothing, dropped⟩ |
      ⟨unread, accepts, handed⟩
    · rw [whole] at ih
      rw [beforeNext_of_chunk read, chunksRead_of_chunk read, refusedParcels_of_chunk read,
        settled, untaken]
      by_cases fails : (beforeNext (side.source target) events).any
          (Event.refuses (side.sink target))
      · simp only [fails, if_true, Parcel.isRefused, Parcel.taken, List.any_nil,
          Bool.false_eq_true, if_false, List.length_nil, List.flatten_cons, List.length_append,
          List.map_cons, List.sum_cons] at ih ⊢
        omega
      · simp only [fails, if_false, Parcel.isRefused, List.any_nil, Bool.false_eq_true,
          List.length_nil, List.flatten_cons, List.length_append] at ih ⊢
        omega
    · have front := (passage.hands notInput notOutput side).1
      rw [dropped, List.prefix_nil] at front
      rw [dropped, front] at ih
      rw [beforeNext_of_none unread, chunksRead_of_none unread, refusedParcels_of_none unread,
        bytesTaken_cons, nothing, front]
      simpa [refuses] using ih
    · have split := congrArg List.length handed
      rw [List.length_append] at split
      rw [beforeNext_of_none unread, chunksRead_of_none unread, refusedParcels_of_none unread,
        bytesTaken_cons, List.any_cons, accepts, Bool.false_or, List.length_append]
      split at ih
      next fails => rw [if_pos fails]; omega
      next holds => rw [if_neg holds]; omega

theorem Follows.reports {program : Program Ending}
    (follows : Follows target watcher program stage) (sink : Descriptor) :
    program.Reports sink (stage.unreported sink) := by
  induction program generalizing stage with
  | done ending =>
    cases follows
    rfl
  | unfinished => exact trivial
  | ask request next ih =>
    have asks := follows.1
    cases stage with
    | finished ending => cases asks
    | noting notice following =>
      cases asks
      obtain ⟨reached, step, continues⟩ := follows.2 ()
      cases step
      exact ⟨_, ih () continues, rfl⟩
    | concluding notice ending =>
      cases asks
      obtain ⟨reached, step, continues⟩ := follows.2 ()
      cases step
      exact ⟨_, ih () continues, (List.append_nil _).symm⟩
    | _ =>
      cases asks
      rfl

end Stage

private theorem partlyTaken_eq_zero_iff (source sink : Descriptor) (events : List Event) :
    partlyTaken source sink events = 0 ↔
      ∀ parcel ∈ parcels source events, parcel.Refused sink → parcel.taken sink = [] := by
  unfold partlyTaken refusedParcels
  rw [List.sum_eq_zero_iff_forall_eq_nat]
  constructor
  · intro nothing parcel member refused
    have counted : (parcel.taken sink).length = 0 :=
      nothing _ (List.mem_map_of_mem (List.mem_filter.mpr ⟨member, List.any_eq_true.mpr refused⟩))
    exact List.length_eq_zero_iff.mp counted
  · intro nothing count member
    obtain ⟨parcel, kept, rfl⟩ := List.mem_map.mp member
    obtain ⟨read, refused⟩ := List.mem_filter.mp kept
    rw [nothing parcel read (List.any_eq_true.mp refused)]
    rfl

/-- However a relay is answered and wherever it stops, each direction has an account of what
was lost in it, and the account is exact just if no chunk that was dropped arrived in part. It
stops short only when its allowance is spent. -/
theorem relay_loss_account {State : Type} {world : World State} {patience rounds : Nat}
    {target : Descriptor} {watcher : ResizeWatcher} {buffer : Bytes} {before after : State}
    {events : List Event} {rest : Program Ending} (notInput : target ≠ .input)
    (notOutput : target ≠ .output)
    (run : world.Run before (relay patience target watcher rounds buffer) events after rest)
    (side : Side) :
    (rest = .unfinished → RelaySpent patience rounds events) ∧
      ∃ left unreported, rest.Holds (side.sink target) left ∧
        rest.Reports (side.sink target) unreported ∧
        LossAccount (side.source target) (side.sink target) events left unreported := by
  obtain ⟨final, passage, ends⟩ := Stage.relay_passage run
  have calm := passage.calm notInput notOutput (rfl : Stage.heading.attempted side = [])
  have measured := passage.measures notInput notOutput side
  have reported : dropsReported (side.sink target) events ++ final.unreported (side.sink target) =
      (refusedParcels (side.source target) (side.sink target) events).map (·.chunk.length) := by
    have all := passage.reports notInput notOutput side
    rw [calm] at all
    exact all
  have balance : (chunksRead (side.source target) events).flatten.length +
      partlyTaken (side.source target) (side.sink target) events =
      (bytesTaken (side.sink target) events).length +
        (dropsReported (side.sink target) events).sum + (final.owed side).length +
        (final.unreported (side.sink target)).sum := by
    have owesNothing : (Stage.heading.owed side).length = 0 := rfl
    rw [calm, if_neg Bool.false_ne_true, owesNothing, ← reported, List.sum_append] at measured
    omega
  refine ⟨?_, _, _, ends.holds notOutput, ends.reports _, reported, balance, ?_⟩
  · rintro rfl
    exact (relay_exhausts_allowance target watcher buffer).run run
  rw [← partlyTaken_eq_zero_iff]
  omega

theorem lossy_run_account :
    World.unruly.Run () (relay 3 (.opened 3) ⟨.terminal, .opened 3, 0, .empty⟩ 2 blankBuffer)
        lossyEvents () (.done .localClosed) ∧
      (∀ side : Side,
        LossAccount (side.source (.opened 3)) (side.sink (.opened 3)) lossyEvents [] []) ∧
      dropsReported (.opened 3) lossyEvents = [3] ∧ dropsReported .output lossyEvents = [] := by
  refine ⟨lossy_run, fun side => ?_, by decide, by decide⟩
  obtain ⟨-, left, unreported, none, silent, account⟩ :=
    relay_loss_account (by decide) (by decide) lossy_run side
  cases none
  cases silent
  exact account

/-- A relay that has ended can have read three bytes of which one came to the far side and
three were reported as dropped. -/
theorem dropped_chunk_partly_delivered :
    World.unruly.Run ()
      (relay 3 (.opened 3) ⟨.terminal, .opened 3, 0, .empty⟩ 2 blankBuffer) lossyEvents ()
      (.done .localClosed) ∧
    (chunksRead .input lossyEvents).flatten.length = 3 ∧
    (bytesTaken (.opened 3) lossyEvents).length = 1 ∧
    (dropsReported (.opened 3) lossyEvents).sum = 3 ∧
    ¬ (chunksRead .input lossyEvents).flatten.length =
      (bytesTaken (.opened 3) lossyEvents).length +
        (dropsReported (.opened 3) lossyEvents).sum :=
  ⟨lossy_run, by decide, by decide, by decide, by decide⟩

end TerminalRelay
