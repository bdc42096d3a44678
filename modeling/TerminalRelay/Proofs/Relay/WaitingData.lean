import Mathlib.Logic.Function.Basic
import TerminalRelay.Proofs.Outcomes
import TerminalRelay.Proofs.Relay.ByteExactness
import TerminalRelay.Proofs.Resize.Attending

/-! A relay on waiting data. Each round moves one chunk from each side, the local input first,
so the sides run out in lock-step, and the one that ends first, or the local input if both do
in the same round, decides on the ending and on how much of the other is still moved. -/

namespace TerminalRelay

structure Pending where
  chunks : List Bytes
  ends : Bool

namespace Pending

def ready (pending : Pending) : Bool :=
  pending.ends || !pending.chunks.isEmpty

def ended (pending : Pending) : Bool :=
  pending.ends && pending.chunks.isEmpty

def rest (pending : Pending) : Pending :=
  { pending with chunks := pending.chunks.tail }

def gives (pending : Pending) (limit : Nat) (answer : Except Errno Bytes) : Prop :=
  match pending.chunks with
  | [] => pending.ends ∧ answer = .ok []
  | chunk :: _ => chunk.length ≤ limit ∧ answer = .ok chunk

theorem chunks_of_ended {pending : Pending} (ended : pending.ended) : pending.chunks = [] := by
  simp only [Pending.ended, Bool.and_eq_true, List.isEmpty_iff] at ended
  exact ended.2

end Pending

abbrev Backlog := Side → Pending

namespace Backlog

def rest (backlog : Backlog) : Backlog :=
  fun side => (backlog side).rest

/-- Each of the chunks has some bytes, and one read gets all of it. -/
def Fits (backlog : Backlog) : Prop :=
  ∀ side, ∀ chunk ∈ (backlog side).chunks, chunk ≠ [] ∧ chunk.length ≤ chunkSize

def count (backlog : Backlog) (side : Side) : Nat :=
  (backlog side).chunks.length

def nearFirst (backlog : Backlog) : Bool :=
  (backlog .near).ends && (!(backlog .far).ends || backlog.count .near ≤ backlog.count .far)

def ending (backlog : Backlog) : Ending :=
  if backlog.nearFirst then .localClosed else .targetClosed

/-- What a relay moves of this before it ends. The local input is first in each round, so it has
one chunk more moved than the far side if that ends. -/
def moved (backlog : Backlog) : Side → List Bytes
  | .near =>
    if backlog.nearFirst then (backlog .near).chunks
    else (backlog .near).chunks.take (min (backlog.count .near) (backlog.count .far + 1))
  | .far =>
    if backlog.nearFirst then
      (backlog .far).chunks.take (min (backlog.count .near) (backlog.count .far))
    else (backlog .far).chunks

variable {backlog : Backlog} {side : Side}

theorem nearFirst_iff : backlog.nearFirst ↔
    (backlog .near).ends ∧ ((backlog .far).ends → backlog.count .near ≤ backlog.count .far) := by
  cases ends : (backlog .far).ends <;> simp [nearFirst, ends]

theorem count_of_ended (ended : (backlog side).ended) : backlog.count side = 0 := by
  rw [count, Pending.chunks_of_ended ended, List.length_nil]

theorem count_pos (going : (backlog side).ended = false) (ends : (backlog side).ends) :
    0 < backlog.count side := by
  refine List.length_pos_iff.mpr fun none => ?_
  simp [Pending.ended, ends, none] at going

@[simp] theorem count_rest : backlog.rest.count side = backlog.count side - 1 :=
  List.length_tail

theorem count_rest_lt {rounds : Nat} (going : ∀ side, (backlog side).ended = false)
    (closes : ∃ side, (backlog side).ends) (enough : ∀ side, backlog.count side < rounds + 1)
    (side : Side) : backlog.rest.count side < rounds := by
  obtain ⟨closing, ends⟩ := closes
  have some := count_pos (going closing) ends
  have most := enough closing
  have here := enough side
  rw [count_rest]
  omega

theorem fits_rest (fits : backlog.Fits) : backlog.rest.Fits :=
  fun side chunk member => fits side chunk (List.mem_of_mem_tail member)

theorem nearFirst_of_ended (ended : (backlog .near).ended) : backlog.nearFirst := by
  simp only [Pending.ended, Bool.and_eq_true] at ended
  refine nearFirst_iff.mpr ⟨ended.1, fun _ => ?_⟩
  rw [count_of_ended (by simpa [Pending.ended] using ended)]
  exact Nat.zero_le _

theorem not_nearFirst_of_ended (going : (backlog .near).ended = false)
    (ended : (backlog .far).ended) : backlog.nearFirst = false := by
  rw [Bool.eq_false_iff, ne_eq, nearFirst_iff]
  rintro ⟨nearEnds, fewer⟩
  have some := count_pos going nearEnds
  have none := count_of_ended ended
  simp only [Pending.ended, Bool.and_eq_true] at ended
  have := fewer ended.1
  omega

theorem nearFirst_rest (going : ∀ side, (backlog side).ended = false) :
    backlog.rest.nearFirst = backlog.nearFirst := by
  rw [Bool.eq_iff_iff, nearFirst_iff, nearFirst_iff, count_rest, count_rest]
  refine and_congr_right fun nearEnds => imp_congr_right fun farEnds => ?_
  have near := count_pos (going .near) nearEnds
  have far := count_pos (going .far) farEnds
  omega

theorem closed_near (ended : (backlog .near).ended) :
    backlog.ending = .localClosed ∧ backlog.moved = fun _ => [] := by
  have first := nearFirst_of_ended ended
  refine ⟨if_pos first, funext fun side => ?_⟩
  cases side with
  | near => exact (if_pos first).trans (Pending.chunks_of_ended ended)
  | far =>
    refine (if_pos first).trans ?_
    rw [count_of_ended ended, Nat.zero_min, List.take_zero]

theorem closed_far (going : (backlog .near).ended = false) (ended : (backlog .far).ended) :
    backlog.ending = .targetClosed ∧ backlog.moved = fun side => (backlog side).chunks.take 1 := by
  have second := Bool.eq_false_iff.mp (not_nearFirst_of_ended going ended)
  refine ⟨if_neg second, funext fun side => ?_⟩
  cases side with
  | near =>
    refine (if_neg second).trans ?_
    rw [count_of_ended ended, List.take_eq_take_iff, count]
    omega
  | far =>
    refine (if_neg second).trans ?_
    rw [Pending.chunks_of_ended ended, List.take_nil]

theorem ending_rest (going : ∀ side, (backlog side).ended = false) :
    backlog.rest.ending = backlog.ending := by
  rw [ending, nearFirst_rest going, ending]

theorem take_append_rest (chunks : List Bytes) (more : Nat) :
    chunks.take 1 ++ chunks.tail.take more = chunks.take (more + 1) := by
  cases chunks <;> simp

theorem moved_rest (going : ∀ side, (backlog side).ended = false)
    (closes : ∃ side, (backlog side).ends) :
    (fun side => (backlog side).chunks.take 1 ++ backlog.rest.moved side) = backlog.moved := by
  have goesOn (chunks : List Bytes) : chunks.take 1 ++ chunks.tail = chunks := by
    rw [← List.drop_one, List.take_append_drop]
  funext side
  cases first : backlog.nearFirst with
  | true =>
    have some := count_pos (going .near) (nearFirst_iff.mp first).1
    cases side with
    | near => simp [moved, nearFirst_rest going, first, rest, Pending.rest, goesOn]
    | far =>
      simp only [moved, nearFirst_rest going, first, if_true, count_rest, rest, Pending.rest]
      rw [take_append_rest, List.take_eq_take_iff, ← count]
      omega
  | false =>
    have ends : (backlog .far).ends := by
      obtain ⟨side, ends⟩ := closes
      cases side with
      | far => exact ends
      | near =>
        cases farEnds : (backlog .far).ends with
        | true => rfl
        | false =>
          rw [nearFirst_iff.mpr ⟨ends, fun more => nomatch farEnds.symm.trans more⟩] at first
          cases first
    have some := count_pos (going .far) ends
    cases side with
    | near =>
      simp only [moved, nearFirst_rest going, first, Bool.false_eq_true, if_false, count_rest, rest,
        Pending.rest]
      rw [take_append_rest, List.take_eq_take_iff, ← count]
      omega
    | far => simp [moved, nearFirst_rest going, first, rest, Pending.rest, goesOn]

end Backlog

/-- A host with data waiting on both sides. Its waits report just what is ready, and its
writes take something of what they are offered. -/
def World.stocked (target : Descriptor) : World Backlog where
  outside _ _ _ := False
  answers before request answer after :=
    match request, answer with
    | .wait _ _ _, answer =>
      ((before .near).ready || (before .far).ready) ∧
        answer = .ok ⟨(before .near).ready, (before .far).ready⟩ ∧ after = before
    | .read source limit, answer =>
      ∃ side : Side, source = side.source target ∧ (before side).gives limit answer ∧
        after = Function.update before side (before side).rest
    | .write _ chunk, answer =>
      (∃ taken, 0 < taken ∧ taken ≤ chunk.length ∧ answer = .ok taken) ∧ after = before
    | _, _ => after = before

/-- The chunks that some events bring from each side, each delivered to where it belongs. -/
def Carries (target : Descriptor) (events : List Event) (loads : Side → List Bytes) : Prop :=
  ∀ side : Side, chunksRead (side.source target) events = loads side ∧
    bytesTaken (side.sink target) events = (loads side).flatten

def Side.alone (side : Side) (chunks : List Bytes) (other : Side) : List Bytes :=
  if other = side then chunks else []

theorem Side.alone_nil (side : Side) : side.alone [] = fun _ => [] := by
  funext other
  simp [Side.alone]

theorem Side.alone_append (loads : Side → List Bytes) :
    (fun side => Side.alone .near (loads .near) side ++ Side.alone .far (loads .far) side) =
      loads := by
  funext side
  cases side with
  | near => exact List.append_nil _
  | far => rfl

theorem Carries.nil (target : Descriptor) : Carries target [] fun _ => [] :=
  fun _ => ⟨rfl, rfl⟩

theorem Carries.append {target : Descriptor} {events later : List Event}
    {loads more : Side → List Bytes} (first : Carries target events loads)
    (second : Carries target later more) :
    Carries target (events ++ later) fun side => loads side ++ more side := by
  intro side
  obtain ⟨read, taken⟩ := first side
  obtain ⟨readToo, takenToo⟩ := second side
  constructor
  · rw [chunksRead, List.filterMap_append]
    exact congrArg₂ _ read readToo
  · rw [bytesTaken, List.flatMap_append, List.flatten_append]
    exact congrArg₂ _ taken takenToo

theorem Carries.idle {target : Descriptor} {events : List Event}
    (idle : ∀ event ∈ events, ∀ side : Side, event.chunk? (side.source target) = none ∧
      event.taken (side.sink target) = []) : Carries target events fun _ => [] := by
  intro side
  constructor
  · exact List.filterMap_eq_nil_iff.mpr fun event member => (idle event member side).1
  · exact List.flatMap_eq_nil_iff.mpr fun event member => (idle event member side).2

theorem Carries.resizing {target : Descriptor} {events : List Event}
    (resizes : ∀ event ∈ events, event.request.resizes) : Carries target events fun _ => [] := by
  refine .idle fun ⟨request, answer⟩ member side => ?_
  have about := resizes _ member
  cases request <;> first | exact ⟨rfl, rfl⟩ | cases about

theorem Carries.moved {target : Descriptor} (notInput : target ≠ .input)
    (notOutput : target ≠ .output) {side : Side} {chunk : Bytes} {writes : List Event}
    (some : chunk ≠ []) (delivered : bytesTaken (side.sink target) writes = chunk)
    (only : ∀ event ∈ writes, ∃ offer answer, event = ⟨.write (side.sink target) offer, answer⟩) :
    Carries target (⟨.read (side.source target) chunkSize, .ok chunk⟩ :: writes)
      (side.alone [chunk]) := by
  intro other
  have unread : chunksRead (other.source target) writes = [] := by
    refine List.filterMap_eq_nil_iff.mpr fun event member => ?_
    obtain ⟨offer, answer, rfl⟩ := only event member
    rfl
  by_cases own : other = side
  · subst own
    have read : Event.chunk? (other.source target)
        ⟨.read (other.source target) chunkSize, .ok chunk⟩ = chunk := by
      rw [Event.chunk?_read, if_pos ⟨rfl, some⟩]
    rw [chunksRead_of_chunk read, unread, Side.alone, if_pos rfl]
    exact ⟨rfl, delivered.trans (List.append_nil chunk).symm⟩
  · have foreign : Event.chunk? (other.source target)
        ⟨.read (side.source target) chunkSize, .ok chunk⟩ = none := by
      rw [Event.chunk?_read, if_neg]
      exact fun same => own ((Side.source_eq_iff notInput).mp same.1.symm)
    have untaken : bytesTaken (other.sink target) writes = [] := by
      refine List.flatMap_eq_nil_iff.mpr fun event member => ?_
      obtain ⟨offer, answer, rfl⟩ := only event member
      exact if_neg fun same => own ((Side.sink_eq_iff notOutput).mp same.symm)
    rw [chunksRead_of_none foreign, unread, Side.alone, if_neg own]
    exact ⟨rfl, untaken⟩

namespace World.stocked
variable {α : Type} {target : Descriptor} {backlog : Backlog}

theorem overlooks (target : Descriptor) : (stocked target).Overlooks where
  still _ _ _ := id
  resizes request about _ _ _ := by
    cases request <;> first | exact Iff.rfl | cases about

theorem ask {request : Request} {next : request.Answer → Program α}
    {outcome : List Event → Backlog → α → Prop}
    (answered : ∃ answer after, (stocked target).answers backlog request answer after)
    (each : ∀ answer after, (stocked target).answers backlog request answer after →
      (stocked target).Brings after (next answer) fun events final value =>
        outcome (⟨request, answer⟩ :: events) final value) :
    (stocked target).Brings backlog (.ask request next) outcome :=
  World.Brings.ask id answered each

theorem deliver_brings {sink : Descriptor} {patience : Nat} {chunk : Bytes}
    (enough : chunk.length ≤ patience) :
    (stocked target).Brings backlog (deliver sink patience chunk) fun events after result =>
      result = .ok () ∧ after = backlog ∧ bytesTaken sink events = chunk ∧
        ∀ event ∈ events, ∃ offer answer, event = ⟨.write sink offer, answer⟩ := by
  induction patience generalizing chunk with
  | zero =>
    obtain rfl : chunk = [] := List.length_eq_zero_iff.mp (Nat.le_zero.mp enough)
    exact ⟨rfl, rfl, rfl, fun _ member => absurd member List.not_mem_nil⟩
  | succ patience ih =>
    by_cases none : chunk = []
    · subst none
      rw [deliver_nothing]
      exact ⟨rfl, rfl, rfl, fun _ member => absurd member List.not_mem_nil⟩
    · rw [deliver_offer sink patience none]
      have positive := List.length_pos_iff.mpr none
      have answered : ∃ answer after, (stocked target).answers backlog (.write sink chunk) answer
          after := ⟨.ok chunk.length, backlog, ⟨_, positive, Nat.le_refl _, rfl⟩, rfl⟩
      apply ask answered
      intro answer after ⟨takes, same⟩
      obtain rfl : after = backlog := same
      obtain ⟨taken, rfl⟩ : ∃ taken, answer = .ok (taken + 1) := by
        obtain ⟨taken, some, -, same⟩ := takes
        exact ⟨taken - 1, by rw [Nat.sub_add_cancel some]; exact same⟩
      have shorter : (chunk.drop (taken + 1)).length ≤ patience := by
        rw [List.length_drop]
        omega
      apply (ih shorter).mono
      intro events after result ⟨ok, same, delivered, writes⟩
      refine ⟨ok, same, ?_, List.forall_mem_cons.mpr ⟨⟨_, _, rfl⟩, writes⟩⟩
      rw [bytesTaken_cons, delivered, Event.taken, if_pos rfl]
      exact List.take_append_drop (taken + 1) chunk

theorem wait {near far : Descriptor} {mask : SignalSet} {next : Except Errno Readiness → Program α}
    {outcome : List Event → Backlog → α → Prop} (closes : ∃ side, (backlog side).ends)
    (rest : (stocked target).Brings backlog
      (next (.ok ⟨(backlog .near).ready, (backlog .far).ready⟩)) fun events after value =>
        outcome (⟨.wait near far mask, .ok ⟨(backlog .near).ready, (backlog .far).ready⟩⟩ :: events)
          after value) :
    (stocked target).Brings backlog (.ask (.wait near far mask) next) outcome := by
  have ready : (backlog .near).ready || (backlog .far).ready := by
    obtain ⟨side, ends⟩ := closes
    cases side <;> simp [Pending.ready, ends]
  have answered : ∃ answer after,
      (stocked target).answers backlog (.wait near far mask) answer after :=
    ⟨_, _, ready, rfl, rfl⟩
  apply ask answered
  rintro answer after ⟨-, rfl, same⟩
  obtain rfl : backlog = after := same.symm
  exact rest

theorem read (notInput : target ≠ .input) {side : Side} {limit : Nat}
    {next : Except Errno Bytes → Program α} {got : Except Errno Bytes}
    {outcome : List Event → Backlog → α → Prop}
    (gives : ∀ answer, (backlog side).gives limit answer ↔ answer = got)
    (rest : (stocked target).Brings (Function.update backlog side (backlog side).rest) (next got)
      fun events after value =>
        outcome (⟨.read (side.source target) limit, got⟩ :: events) after value) :
    (stocked target).Brings backlog (.ask (.read (side.source target) limit) next) outcome := by
  have answered : ∃ answer after,
      (stocked target).answers backlog (.read (side.source target) limit) answer after :=
    ⟨got, _, side, rfl, (gives got).mpr rfl, rfl⟩
  apply ask answered
  rintro answer after ⟨other, same, given, left⟩
  obtain rfl := (Side.source_eq_iff notInput).mp same
  obtain rfl := (gives answer).mp given
  obtain rfl := left
  exact rest

theorem turn_brings (notInput : target ≠ .input) (notOutput : target ≠ .output) (side : Side)
    {patience : Nat} (patient : chunkSize ≤ patience)
    (fits : ∀ chunk ∈ (backlog side).chunks, chunk ≠ [] ∧ chunk.length ≤ chunkSize)
    (buffer : Bytes) :
    (stocked target).Brings backlog
      (pumpIf patience (backlog side).ready (side.source target) (side.sink target) buffer)
      fun events after left => left.isNone = (backlog side).ended ∧
        after = Function.update backlog side (backlog side).rest ∧
        Carries target events (side.alone ((backlog side).chunks.take 1)) := by
  cases waiting : (backlog side).chunks with
  | nil =>
    have same : (backlog side).rest = backlog side := by
      rw [Pending.rest, waiting, List.tail_nil, ← waiting]
    rw [same, Function.update_eq_self, List.take_nil, Side.alone_nil]
    cases ends : (backlog side).ends with
    | false =>
      have silent : (backlog side).ready = false := by simp [Pending.ready, waiting, ends]
      rw [silent]
      exact ⟨by simp [Pending.ended, ends], rfl, .nil target⟩
    | true =>
      have ready : (backlog side).ready = true := by simp [Pending.ready, ends]
      have gives (answer : Except Errno Bytes) :
          (backlog side).gives chunkSize answer ↔ answer = .ok [] := by
        simp [Pending.gives, waiting, ends]
      rw [ready]
      apply read notInput gives
      refine ⟨by simp [Pending.ended, waiting, ends], ?_, .idle ?_⟩
      · rw [same, Function.update_eq_self]
      · simp [Event.chunk?, Event.taken]
  | cons chunk chunks =>
    obtain ⟨some, short⟩ := fits chunk (waiting ▸ List.mem_cons_self)
    obtain ⟨first, others, rfl⟩ := List.exists_cons_of_ne_nil some
    have ready : (backlog side).ready = true := by simp [Pending.ready, waiting]
    have gives (answer : Except Errno Bytes) :
        (backlog side).gives chunkSize answer ↔ answer = .ok (first :: others) := by
      rw [Pending.gives, waiting]
      exact and_iff_right short
    rw [ready]
    apply read notInput gives
    change (stocked target).Brings _ (deliver (side.sink target) patience
      ((overwrite buffer (first :: others)).take (first :: others).length) >>= _) _
    rw [take_overwrite]
    apply (deliver_brings (Nat.le_trans short patient)).bind
    rintro writes between _ ⟨rfl, rfl, delivered, only⟩
    refine ⟨by simp [Pending.ended, waiting], rfl, ?_⟩
    rw [List.append_nil]
    exact .moved notInput notOutput some delivered only

inductive Exchanged (target : Descriptor) (backlog : Backlog) (events : List Event)
    (after : Backlog) : Except Ending Bytes → Prop
  | nearEnded (ended : (backlog .near).ended) (carried : Carries target events fun _ => []) :
      Exchanged target backlog events after (.error .localClosed)
  | farEnded (going : (backlog .near).ended = false) (ended : (backlog .far).ended)
      (carried : Carries target events fun side => (backlog side).chunks.take 1) :
      Exchanged target backlog events after (.error .targetClosed)
  | goesOn (buffer : Bytes) (going : ∀ side, (backlog side).ended = false)
      (rest : after = backlog.rest)
      (carried : Carries target events fun side => (backlog side).chunks.take 1) :
      Exchanged target backlog events after (.ok buffer)

theorem exchange_brings (notInput : target ≠ .input) (notOutput : target ≠ .output)
    {patience : Nat} (patient : chunkSize ≤ patience) (fits : backlog.Fits) (buffer : Bytes) :
    (stocked target).Brings backlog
      (exchange patience target ⟨(backlog .near).ready, (backlog .far).ready⟩ buffer)
      (Exchanged target backlog) := by
  apply (turn_brings notInput notOutput .near patient (fits .near) buffer).bind
  intro near between left ⟨ended, moved, carried⟩
  cases left with
  | none =>
    have none := Pending.chunks_of_ended ended.symm
    rw [none, List.take_nil, Side.alone_nil] at carried
    change Exchanged target backlog (near ++ []) between (.error .localClosed)
    rw [List.append_nil]
    exact .nearEnded ended.symm carried
  | some buffer =>
    have same : between .far = backlog .far := by
      rw [moved]
      exact Function.update_of_ne (by decide) ..
    have turn : (stocked target).Brings between
        (pumpIf patience (between .far).ready target .output buffer) _ :=
      turn_brings notInput notOutput .far patient (same ▸ fits .far) buffer
    rw [same] at turn
    apply turn.bind
    intro far after left ⟨endedToo, movedToo, carriedToo⟩
    have both : Carries target (near ++ far) fun side => (backlog side).chunks.take 1 := by
      have joined := carried.append carriedToo
      rwa [Side.alone_append fun side => (backlog side).chunks.take 1] at joined
    cases left with
    | none =>
      change Exchanged target backlog (near ++ (far ++ [])) after (.error .targetClosed)
      rw [List.append_nil]
      exact .farEnded ended.symm endedToo.symm both
    | some buffer =>
      change Exchanged target backlog (near ++ (far ++ [])) after (.ok buffer)
      rw [List.append_nil]
      refine .goesOn buffer (fun side => ?_) ?_ both
      · cases side
        · exact ended.symm
        · exact endedToo.symm
      · rw [movedToo, moved]
        funext side
        cases side <;> rfl

/-- Whatever is waiting, a relay comes to its end, and has then moved of it just what the counts of
the chunks tell. -/
theorem relay_exhausts (notInput : target ≠ .input) (notOutput : target ≠ .output)
    {patience rounds : Nat} (patient : chunkSize ≤ patience) (fits : backlog.Fits)
    (closes : ∃ side, (backlog side).ends) (enough : ∀ side, backlog.count side < rounds)
    (watcher : ResizeWatcher) (buffer : Bytes) :
    (stocked target).Brings backlog (relay patience target watcher rounds buffer)
      fun events _ ending => ending = backlog.ending ∧ Carries target events backlog.moved := by
  induction rounds generalizing backlog buffer with
  | zero => exact absurd (enough .near) (Nat.not_lt_zero _)
  | succ rounds ih =>
    apply ((service_resizes watcher).brings (overlooks target) backlog).bind
    intro served between resized ⟨same, resizes⟩
    obtain rfl : backlog = between := same.symm
    apply wait closes
    apply (exchange_brings notInput notOutput patient fits buffer).bind
    intro events after result exchanged
    have carries {later : List Event} {loads : Side → List Bytes}
        (carried : Carries target later loads) :
        Carries target (served ++ ⟨.wait .input target watcher.waitMask,
          .ok ⟨(backlog .near).ready, (backlog .far).ready⟩⟩ :: later) loads :=
      (Carries.resizing resizes).append carried
    cases exchanged with
    | nearEnded ended carried =>
      obtain ⟨ending, moved⟩ := Backlog.closed_near ended
      rw [ending, moved]
      refine ⟨rfl, carries ?_⟩
      rwa [List.append_nil]
    | farEnded going ended carried =>
      obtain ⟨ending, moved⟩ := Backlog.closed_far going ended
      rw [ending, moved]
      refine ⟨rfl, carries ?_⟩
      rwa [List.append_nil]
    | goesOn buffer going rest carried =>
      subst rest
      have fewer := Backlog.count_rest_lt going closes enough
      apply (ih (Backlog.fits_rest fits) closes fewer buffer).mono
      rintro more final ending ⟨rfl, moved⟩
      refine ⟨Backlog.ending_rest going, carries ?_⟩
      rw [← Backlog.moved_rest going closes]
      exact carried.append moved

def unevenSides : Backlog
  | .near => ⟨[[1], [2, 3], [4]], true⟩
  | .far => ⟨[[7, 8]], true⟩

/-- The far side is at its end first, so the last chunk from the near side is not moved. -/
theorem uneven_sides_end_with_the_far_one :
    (stocked (.opened 3)).Brings unevenSides
      (relay chunkSize (.opened 3) ⟨.terminal, .opened 3, 0, .empty⟩ 4 blankBuffer)
      fun events _ ending => ending = .targetClosed ∧
        Carries (.opened 3) events fun | .near => [[1], [2, 3]] | .far => [[7, 8]] := by
  have fits : unevenSides.Fits := fun side => by cases side <;> decide
  have enough (side : Side) : unevenSides.count side < 4 := by cases side <;> decide
  have moved : unevenSides.moved = fun | .near => [[1], [2, 3]] | .far => [[7, 8]] := by
    funext side
    cases side <;> rfl
  have notInput : Descriptor.opened 3 ≠ .input := by decide
  have notOutput : Descriptor.opened 3 ≠ .output := by decide
  rw [← moved]
  exact relay_exhausts notInput notOutput (Nat.le_refl _) fits ⟨.near, rfl⟩ enough _ _

end World.stocked
end TerminalRelay
