import Mathlib.Data.List.Basic
import TerminalRelay.Proofs.Relay.ByteExactness
import TerminalRelay.Proofs.Relay.Foretold

/-! Two relays side by side, each answered as it was foretold to it. Where the answers differ
only in what is not looked at, the relays agree in all that is. -/

namespace TerminalRelay

/-! What is left of some events tells what they bring, if nothing that brings anything was left
out. -/

section
variable {β : Type} {sink : Descriptor} {keeps : Event → Bool}

theorem filterMap_kept {brings : Event → Option β}
    (kept : ∀ event, keeps event = false → brings event = none) (events : List Event) :
    (events.filter keeps).filterMap brings = events.filterMap brings := by
  rw [List.filterMap_filter]
  refine List.filterMap_congr fun event _ => ?_
  cases keep : keeps event with
  | true => rfl
  | false => exact (kept event keep).symm

theorem bytesTaken_kept (kept : ∀ event, keeps event = false → event.taken sink = [])
    (events : List Event) : bytesTaken sink (events.filter keeps) = bytesTaken sink events := by
  induction events with
  | nil => rfl
  | cons event events ih =>
    cases keep : keeps event with
    | true => rw [List.filter_cons_of_pos keep, bytesTaken_cons, bytesTaken_cons, ih]
    | false =>
      rw [List.filter_cons_of_neg (Bool.eq_false_iff.mp keep), bytesTaken_cons, kept event keep, ih,
        List.nil_append]

end

namespace Focus
variable {focus : Focus}

/-- Answers that differ only in what is not looked at, and are covered by the patience. The
waits are compared apart. -/
structure Alike (focus : Focus) (patience : Nat) (first second : Replies) : Prop where
  reads : first.reads = second.reads
  writes : ∀ sink, focus.sinks sink → first.writes sink = second.writes sink
  covered : ∀ sink, (first.writes sink).length < patience ∧ (second.writes sink).length < patience

/-- Two programs agree if the same is seen of both and they come to related results, or
neither is answered any more. -/
inductive Agree {α : Type} (focus : Focus) (related : α → Replies → α → Replies → Prop)
    (first second : Replies) (one two : Program α) : Prop
  | results {seen value between other beyond}
      (left : focus.Yields first one seen between (some value))
      (right : focus.Yields second two seen beyond (some other))
      (holds : related value between other beyond)
  | neither {seen between beyond} (left : focus.Yields first one seen between none)
      (right : focus.Yields second two seen beyond none)

theorem Agree.bind {α β : Type} {middle : α → Replies → α → Replies → Prop}
    {related : β → Replies → β → Replies → Prop} {first second : Replies} {one two : Program α}
    {next following : α → Program β} (agree : focus.Agree middle first second one two)
    (rest : ∀ value between other beyond, middle value between other beyond →
      focus.Agree related between beyond (next value) (following other)) :
    focus.Agree related first second (one >>= next) (two >>= following) := by
  cases agree with
  | results left right holds =>
    cases rest _ _ _ _ holds with
    | results before after holds => exact .results (left.bind before) (right.bind after) holds
    | neither before after => exact .neither (left.bind before) (right.bind after)
  | neither left right => exact .neither left.bind_blocked right.bind_blocked

namespace Agree
variable {α : Type} {related : α → Replies → α → Replies → Prop}
  {first second between beyond : Replies} {one two : Program α}

theorem after (head : List Event) {left right : Program α}
    (agree : focus.Agree related between beyond left right)
    (before : ∀ {seen after result}, focus.Yields between left seen after result →
      focus.Yields first one (head ++ seen) after result)
    (beforeToo : ∀ {seen after result}, focus.Yields beyond right seen after result →
      focus.Yields second two (head ++ seen) after result) :
    focus.Agree related first second one two := by
  cases agree with
  | results left right holds => exact .results (before left) (beforeToo right) holds
  | neither left right => exact .neither (before left) (beforeToo right)

theorem read {source : Descriptor} {limit : Nat} {one two : Except Errno Bytes → Program α}
    {answer : Except Errno Bytes} (left : first.read? source = some (answer, between))
    (right : second.read? source = some (answer, beyond))
    (rest : focus.Agree related between beyond (one answer) (two answer)) :
    focus.Agree related first second (.ask (.read source limit) one)
      (.ask (.read source limit) two) :=
  rest.after _ (.read left) (.read right)

theorem wait {near far : Descriptor} {mask : SignalSet}
    {one two : Except Errno Readiness → Program α} {answer : Except Errno Readiness}
    (left : first.wait? = some (answer, between)) (right : second.wait? = some (answer, beyond))
    (rest : focus.Agree related between beyond (one answer) (two answer)) :
    focus.Agree related first second (.ask (.wait near far mask) one)
      (.ask (.wait near far mask) two) :=
  rest.after _ (.wait left) (.wait right)

theorem note {notice : Notice} {one two : Unit → Program α}
    (rest : focus.Agree related first second (one ()) (two ())) :
    focus.Agree related first second (.ask (.log notice) one) (.ask (.log notice) two) :=
  rest.after _ .note .note

theorem unread {source : Descriptor} {limit : Nat} {one two : Except Errno Bytes → Program α}
    (left : first.read? source = none) (right : second.read? source = none) :
    focus.Agree related first second (.ask (.read source limit) one)
      (.ask (.read source limit) two) := by
  refine .neither (.blocked fun answer after answers => ?_)
    (.blocked fun answer after answers => ?_)
  · exact Option.some_ne_none _ (Eq.trans (Eq.symm answers) left)
  · exact Option.some_ne_none _ (Eq.trans (Eq.symm answers) right)

theorem unawaited {near far : Descriptor} {mask : SignalSet}
    {one two : Except Errno Readiness → Program α} (left : first.wait? = none)
    (right : second.wait? = none) :
    focus.Agree related first second (.ask (.wait near far mask) one)
      (.ask (.wait near far mask) two) := by
  refine .neither (.blocked fun answer after answers => ?_)
    (.blocked fun answer after answers => ?_)
  · exact Option.some_ne_none _ (Eq.trans (Eq.symm answers) left)
  · exact Option.some_ne_none _ (Eq.trans (Eq.symm answers) right)

theorem resizing {β : Type} {program : Program β} (resizes : program.Resizes)
    (rest : focus.Agree related first second one two) :
    focus.Agree related first second (program >>= fun _ => one) (program >>= fun _ => two) :=
  rest.after [] (fun yields => .resizing resizes fun _ => yields)
    fun yields => .resizing resizes fun _ => yields

theorem done {value other : α} (holds : related value first other second) :
    focus.Agree related first second (.done value) (.done other) :=
  .results (.done value) (.done other) holds

end Agree

def Stays {α : Type} (focus : Focus) (patience : Nat) (first second : Replies) :
    α → Replies → α → Replies → Prop :=
  fun value between other beyond => value = other ∧ focus.Alike patience between beyond ∧
    between.waits = first.waits ∧ beyond.waits = second.waits

variable {patience : Nat} {first second : Replies} {target source sink : Descriptor}
  {watcher : ResizeWatcher}

theorem Alike.afterRead (alike : focus.Alike patience first second) (source : Descriptor)
    (rest : List (Except Errno Bytes)) :
    focus.Alike patience (first.setReads source rest) (second.setReads source rest) where
  reads := by rw [Replies.setReads, Replies.setReads, alike.reads]
  writes := alike.writes
  covered := alike.covered

theorem Alike.afterWrites (alike : focus.Alike patience first second) (sink : Descriptor)
    {left right : List (Except Errno Nat)} (same : focus.sinks sink → left = right)
    (fewer : left.length < patience ∧ right.length < patience) :
    focus.Alike patience (first.setWrites sink left) (second.setWrites sink right) where
  reads := alike.reads
  writes other seen := by
    by_cases own : other = sink
    · subst own
      simpa using same seen
    · simpa [Replies.setWrites, own] using alike.writes other seen
  covered other := by
    by_cases own : other = sink
    · subst own
      simpa using fewer
    · simpa [Replies.setWrites, own] using alike.covered other

theorem handOver_agrees {α : Type} (alike : focus.Alike patience first second) (chunk : Bytes)
    {count : Nat} {value : α} {next : Except Errno Unit → Program α}
    (delivered : next (.ok ()) = .done value)
    (dropped : ∀ e, next (.error e) = note (.dropped sink count e) >>= fun _ => .done value) :
    focus.Agree (focus.Stays patience first second) first second
      (deliver sink patience chunk >>= next) (deliver sink patience chunk >>= next) := by
  obtain ⟨short, shortToo⟩ := alike.covered sink
  obtain ⟨left, seen, spends⟩ := handOver_spends focus sink short chunk delivered dropped
  have fewer := spends.fewer
  cases looked : focus.sinks sink with
  | true =>
    have same := alike.writes sink looked
    refine .results (spends.yields first rfl) (spends.yields second same.symm) ⟨rfl, ?_, rfl, rfl⟩
    exact alike.afterWrites sink (fun _ => rfl) ⟨by omega, by omega⟩
  | false =>
    obtain ⟨right, seenToo, spendsToo⟩ :=
      handOver_spends focus sink shortToo chunk delivered dropped
    have fewerToo := spendsToo.fewer
    obtain rfl := spends.unseen looked
    obtain rfl := spendsToo.unseen looked
    refine .results (spends.yields first rfl) (spendsToo.yields second rfl) ⟨rfl, ?_, rfl, rfl⟩
    refine alike.afterWrites sink (fun seen => ?_) ⟨by omega, by omega⟩
    rw [looked] at seen
    cases seen

theorem pump_agrees (alike : focus.Alike patience first second) (buffer : Bytes) :
    focus.Agree (focus.Stays patience first second) first second
      (pump patience source sink buffer) (pump patience source sink buffer) := by
  cases reads : first.reads source with
  | nil =>
    have left : first.read? source = none := by rw [Replies.read?, reads]
    have right : second.read? source = none := by rw [Replies.read?, ← alike.reads, reads]
    exact .unread left right
  | cons answer rest =>
    have left : first.read? source = some (answer, first.setReads source rest) := by
      rw [Replies.read?, reads]
    have right : second.read? source = some (answer, second.setReads source rest) := by
      rw [Replies.read?, ← alike.reads, reads]
    have alike := alike.afterRead source rest
    refine .read left right ?_
    match answer with
    | .error e => exact .note (.done ⟨rfl, alike, rfl, rfl⟩)
    | .ok [] => exact .done ⟨rfl, alike, rfl, rfl⟩
    | .ok (head :: tail) => exact handOver_agrees alike _ rfl fun _ => rfl

theorem pumpIf_agrees (alike : focus.Alike patience first second) (ready : Bool)
    (buffer : Bytes) :
    focus.Agree (focus.Stays patience first second) first second
      (pumpIf patience ready source sink buffer) (pumpIf patience ready source sink buffer) := by
  cases ready with
  | false => exact .done ⟨rfl, alike, rfl, rfl⟩
  | true => exact pump_agrees alike buffer

theorem exchange_agrees (alike : focus.Alike patience first second) (ready : Readiness)
    (buffer : Bytes) :
    focus.Agree (focus.Stays patience first second) first second
      (exchange patience target ready buffer) (exchange patience target ready buffer) := by
  apply (pumpIf_agrees alike ready.input buffer).bind
  rintro near between _ beyond ⟨rfl, alike, left, right⟩
  cases near with
  | none => exact .done ⟨rfl, alike, left, right⟩
  | some buffer =>
    apply (pumpIf_agrees alike ready.target buffer).bind
    rintro far final _ last ⟨rfl, alike, stays, staysToo⟩
    cases far <;> exact .done ⟨rfl, alike, stays.trans left, staysToo.trans right⟩

end Focus

/-- The second answers are the first ones with interruptions put in between. -/
inductive Interspersed :
    List (Except Errno Readiness) → List (Except Errno Readiness) → Prop
  | none : Interspersed [] []
  | both {first second} (answer : Except Errno Readiness) (rest : Interspersed first second) :
      Interspersed (answer :: first) (answer :: second)
  | interrupted {first second} (rest : Interspersed first second) :
      Interspersed first (.error .interrupted :: second)

theorem Interspersed.refl (waits : List (Except Errno Readiness)) : Interspersed waits waits := by
  induction waits with
  | nil => exact .none
  | cons answer _ ih => exact .both answer ih

theorem Interspersed.length_le {first second : List (Except Errno Readiness)}
    (interspersed : Interspersed first second) : first.length ≤ second.length := by
  induction interspersed with
  | none => exact Nat.le_refl _
  | both _ _ ih => exact Nat.succ_le_succ ih
  | interrupted _ ih => exact Nat.le_succ_of_le ih

namespace Focus
variable {focus : Focus} {patience rounds more : Nat} {first second : Replies}
  {target : Descriptor} {watcher : ResizeWatcher}

theorem Agree.interrupted {related : Ending → Replies → Ending → Replies → Prop}
    {one : Program Ending} {others : List (Except Errno Readiness)} {buffer : Bytes}
    (agree : focus.Agree related first { second with waits := others } one
      (relay patience target watcher more buffer))
    (off : focus.interruptions = false) (right : second.waits = .error .interrupted :: others) :
    focus.Agree related first second one (relay patience target watcher (more + 1) buffer) := by
  have pass {seen after result}
      (yields : focus.Yields { second with waits := others }
        (relay patience target watcher more buffer) seen after result) :
      focus.Yields second (relay patience target watcher (more + 1) buffer) seen after result := by
    apply Yields.resizing (service_resizes watcher)
    intro _
    have unseen : focus.view
        [⟨.wait .input target watcher.waitMask, .error .interrupted⟩] = [] := by
      simp [view, sees, Event.interrupts, off]
    rw [← List.nil_append seen, ← unseen]
    exact .wait (by rw [Replies.wait?, right]) yields
  exact agree.after [] id pass

theorem relay_agrees {waits others : List (Except Errno Readiness)}
    (interspersed : Interspersed waits others) (strict : focus.interruptions → waits = others)
    (alike : focus.Alike patience first second) (left : first.waits = waits)
    (right : second.waits = others) (enough : waits.length < rounds)
    (enoughToo : others.length < more) (buffer : Bytes) :
    focus.Agree (fun ending _ other _ => ending = other) first second
      (relay patience target watcher rounds buffer)
      (relay patience target watcher more buffer) := by
  induction interspersed generalizing first second rounds more buffer with
  | none =>
    obtain ⟨rounds, rfl⟩ := Nat.exists_eq_succ_of_ne_zero (Nat.ne_zero_of_lt enough)
    obtain ⟨more, rfl⟩ := Nat.exists_eq_succ_of_ne_zero (Nat.ne_zero_of_lt enoughToo)
    apply Agree.resizing (service_resizes watcher)
    exact .unawaited (by rw [Replies.wait?, left]) (by rw [Replies.wait?, right])
  | @both waits others answer rest ih =>
    obtain ⟨rounds, rfl⟩ := Nat.exists_eq_succ_of_ne_zero (Nat.ne_zero_of_lt enough)
    obtain ⟨more, rfl⟩ := Nat.exists_eq_succ_of_ne_zero (Nat.ne_zero_of_lt enoughToo)
    have fewer : waits.length < rounds := Nat.lt_of_succ_lt_succ enough
    have fewerToo : others.length < more := Nat.lt_of_succ_lt_succ enoughToo
    have same (looked : focus.interruptions) : waits = others := (List.cons.inj (strict looked)).2
    have alike : focus.Alike patience { first with waits } { second with waits := others } :=
      ⟨alike.reads, alike.writes, alike.covered⟩
    apply Agree.resizing (service_resizes watcher)
    refine .wait (by rw [Replies.wait?, left]) (by rw [Replies.wait?, right]) ?_
    match answer with
    | .error e =>
      by_cases interrupted : e = .interrupted
      · subst interrupted
        exact ih same alike rfl rfl fewer fewerToo buffer
      · change focus.Agree _ _ _ (if _ then _ else _) (if _ then _ else _)
        rw [if_neg interrupted, if_neg interrupted]
        exact .note (.done rfl)
    | .ok ready =>
      apply (exchange_agrees alike ready buffer).bind
      rintro result between _ beyond ⟨rfl, alike, stays, staysToo⟩
      cases result with
      | error ending => exact .done rfl
      | ok buffer => exact ih same alike stays staysToo fewer fewerToo buffer
  | @interrupted waits others rest ih =>
    have off : focus.interruptions = false := by
      cases looked : focus.interruptions with
      | false => rfl
      | true =>
        have longer := rest.length_le
        rw [strict looked] at longer
        exact absurd longer (Nat.not_succ_le_self _)
    obtain ⟨more, rfl⟩ := Nat.exists_eq_succ_of_ne_zero (Nat.ne_zero_of_lt enoughToo)
    have fewerToo : others.length < more := Nat.lt_of_succ_lt_succ enoughToo
    have alike : focus.Alike patience first { second with waits := others } :=
      ⟨alike.reads, alike.writes, alike.covered⟩
    exact (ih (fun looked => nomatch off.symm.trans looked) alike left rfl enough fewerToo
      buffer).interrupted off right

theorem Agree.settled {α : Type} {one two : Program α}
    (agree : focus.Agree (fun value _ other _ => value = other) first second one two) :
    ∃ seen result,
      (World.foretold.Settles first one fun events _ outcome =>
        focus.view events = seen ∧ outcome = result) ∧
      World.foretold.Settles second two fun events _ outcome =>
        focus.view events = seen ∧ outcome = result := by
  cases agree with
  | results left right same =>
    subst same
    exact ⟨_, _, left.mono fun _ _ _ holds => ⟨holds.1, holds.2.2⟩,
      right.mono fun _ _ _ holds => ⟨holds.1, holds.2.2⟩⟩
  | neither left right =>
    exact ⟨_, _, left.mono fun _ _ _ holds => ⟨holds.1, holds.2.2⟩,
      right.mono fun _ _ _ holds => ⟨holds.1, holds.2.2⟩⟩

end Focus
end TerminalRelay
