import TerminalRelay.Proofs.Relay.Endings
import TerminalRelay.Proofs.Relay.SideBySide

/-! What becomes of the writes makes no difference to anything else. Two relays whose waits and
reads are answered alike wait and read alike and come to the same ending, and a sink whose
writes are answered alike gets the same from both. Whatever was lost, the next chunk is offered
in full again. -/

namespace TerminalRelay

def Event.offers (sink : Descriptor) : Event → Bool
  | ⟨.write device _, _⟩ => device = sink
  | _ => false

/-- The waits and the reads among some events. -/
def inquiries (events : List Event) : List Event :=
  events.filter fun event => event.request.decides

def offersTo (sink : Descriptor) (events : List Event) : List Event :=
  events.filter (Event.offers sink)

theorem ending?_inquiries (target : Descriptor) (events : List Event) :
    (inquiries events).filterMap (Event.ending? target) =
      events.filterMap (Event.ending? target) :=
  filterMap_kept (fun event dropped => Event.ending?_of_idle dropped event.answer) events

theorem chunksRead_inquiries (source : Descriptor) (events : List Event) :
    chunksRead source (inquiries events) = chunksRead source events := by
  refine filterMap_kept (fun event dropped => ?_) events
  unfold Event.chunk?
  split
  · cases dropped
  · rfl

theorem bytesTaken_offersTo (sink : Descriptor) (events : List Event) :
    bytesTaken sink (offersTo sink events) = bytesTaken sink events := by
  refine bytesTaken_kept (fun event dropped => ?_) events
  unfold Event.taken
  split
  · exact if_neg (of_decide_eq_false dropped)
  · rfl

/-- Every chunk that is read is at once offered in full to where it belongs. -/
def OfferedInFull (target : Descriptor) (events : List Event) : Prop :=
  ∀ (side : Side) (earlier : List Event) (limit : Nat) (chunk : Bytes) (later : List Event),
    chunk ≠ [] →
    events = earlier ++ ⟨.read (side.source target) limit, .ok chunk⟩ :: later →
    ∃ answer rest, later = ⟨.write (side.sink target) chunk, answer⟩ :: rest

namespace Stage
variable {State : Type} {world : World State} {target : Descriptor} {watcher : ResizeWatcher}
  {stage final : Stage} {before after : State}

theorem offering_of_owed {side : Side} (owes : stage.owed side ≠ []) :
    ∃ farToo count, stage = offering side farToo count (stage.owed side) := by
  cases stage with
  | offering other farToo count left =>
    by_cases own : other = side
    · subst own
      exact ⟨farToo, count, by rw [owed, if_pos rfl]⟩
    · exact absurd (if_neg own) owes
  | _ => exact absurd rfl owes

theorem Passage.at {earlier later : List Event} {event : Event}
    (passage : Passage target watcher world stage before (earlier ++ event :: later) final after) :
    ∃ here next between, Step target watcher here event next ∧
      Passage target watcher world next between later final after := by
  generalize whole : earlier ++ event :: later = events at passage
  induction passage generalizing earlier with
  | here => exact absurd whole (List.append_ne_nil_of_right_ne_nil _ (List.cons_ne_nil _ _))
  | outside _ _ _ ih => exact ih whole
  | stepped step answers passage ih =>
    cases earlier with
    | nil =>
      obtain ⟨rfl, rfl⟩ := List.cons.inj whole
      exact ⟨_, _, _, step, passage⟩
    | cons first others => exact ih (List.cons.inj whole).2

theorem Passage.offers {side : Side} {farToo : Bool} {count : Nat} {left : Bytes}
    {events : List Event}
    (passage : Passage target watcher world (offering side farToo count left) before events final
      after) :
    final = offering side farToo count left ∨
      ∃ answer rest, events = ⟨.write (side.sink target) left, answer⟩ :: rest := by
  generalize start : offering side farToo count left = stage at passage
  induction passage with
  | here => exact .inl rfl
  | outside _ _ _ ih => exact ih start
  | stepped step _ _ _ =>
    subst start
    cases step with
    | taken => exact .inr ⟨_, _, rfl⟩
    | refused => exact .inr ⟨_, _, rfl⟩

theorem Passage.offeredInFull (notInput : target ≠ .input) {events : List Event}
    (passage : Passage target watcher world stage before events final after)
    (idle : ∀ side farToo count left, final ≠ offering side farToo count left) :
    OfferedInFull target events := by
  rintro side earlier limit chunk later some rfl
  obtain ⟨here, next, between, step, onward⟩ := passage.at
  have read : Event.chunk? (side.source target)
      ⟨.read (side.source target) limit, .ok chunk⟩ = chunk := by
    rw [Event.chunk?_read, if_pos ⟨rfl, some⟩]
  obtain ⟨-, rfl⟩ := step.receives notInput read
  obtain ⟨farToo, count, offering⟩ := offering_of_owed some
  rw [offering] at onward
  obtain stopped | offered := onward.offers
  · exact absurd stopped (idle _ _ _ _)
  · exact offered

end Stage

theorem foretold_answered {request : Request} (idle : request.decides = false)
    (replies : Replies) : ∃ answer after, World.foretold.answers replies request answer after := by
  obtain ⟨answer⟩ := request.answerable
  cases request with
  | write sink chunk => exact ⟨_, _, rfl⟩
  | wait | read => cases idle
  | _ => exact ⟨answer, replies, rfl⟩

theorem Stage.inquiring {target : Descriptor} {watcher : ResizeWatcher} {stage : Stage}
    {request : Request} (asks : stage.request target watcher = some request)
    (inquires : request.decides) : stage.decision = none ∧
      ∀ side farToo count left, stage ≠ .offering side farToo count left := by
  cases stage with
  | waiting | reading side farToo => exact ⟨rfl, nofun⟩
  | finished ending => cases asks
  | _ =>
    cases asks
    cases inquires

theorem relay_settled {replies : Replies} {patience rounds : Nat} {target : Descriptor}
    {watcher : ResizeWatcher} {buffer : Bytes}
    {outcome : List Event → Replies → Option Ending → Prop} (notInput : target ≠ .input)
    (settles : World.foretold.Settles replies (relay patience target watcher rounds buffer)
      outcome) :
    World.foretold.Settles replies (relay patience target watcher rounds buffer)
      fun events after result => outcome events after result ∧
        events.filterMap (Event.ending? target) = result.toList ∧
        OfferedInFull target events := by
  apply settles.withRun.mono
  rintro events after result ⟨holds, rest, run, kind⟩
  obtain ⟨final, passage, follows⟩ := Stage.relay_passage run
  have resting : final.decision = result ∧
      ∀ side farToo count left, final ≠ .offering side farToo count left := by
    obtain ⟨rfl, request, next, rfl, never⟩ | ⟨ending, rfl, rfl⟩ := kind
    · cases inquires : request.decides with
      | true => exact Stage.inquiring follows.1 inquires
      | false =>
        obtain ⟨answer, between, answers⟩ := foretold_answered inquires after
        exact absurd answers (never answer between)
    · obtain rfl : final = .finished ending := follows
      exact ⟨rfl, nofun⟩
  refine ⟨holds, ?_, passage.offeredInFull notInput resting.2⟩
  rw [passage.decides notInput rfl, resting.1]

open scoped Classical in
noncomputable def Focus.shared (first second : Replies) : Focus where
  interruptions := true
  sinks sink := decide (first.writes sink = second.writes sink)

theorem Focus.shared_inquiries (first second : Replies) (events : List Event) :
    inquiries ((Focus.shared first second).view events) = inquiries events := by
  rw [inquiries, Focus.view, List.filter_filter]
  refine List.filter_congr fun event _ => ?_
  cases inquires : event.request.decides with
  | false => rfl
  | true =>
    obtain ⟨request, answer⟩ := event
    cases request <;> first | rfl | cases inquires

theorem Focus.shared_offersTo {first second : Replies} {sink : Descriptor}
    (alike : first.writes sink = second.writes sink) (events : List Event) :
    offersTo sink ((Focus.shared first second).view events) = offersTo sink events := by
  rw [offersTo, Focus.view, List.filter_filter]
  refine List.filter_congr fun event _ => ?_
  unfold Event.offers
  split
  · next device _ _ _ =>
    by_cases own : device = sink
    · subst own
      simp [Focus.sees, Focus.shared, Request.sink?, Request.resizes, alike]
    · simp [own]
  · rfl

/-- However the writes are answered to either of two relays, both wait and read alike and come to
the same result, which the waits and the reads decide on. A sink whose writes are answered
alike is offered the same and takes the same. -/
theorem write_outcomes_isolated {first second : Replies} {patience rounds : Nat}
    {target : Descriptor} (notInput : target ≠ .input) (waits : first.waits = second.waits)
    (reads : first.reads = second.reads)
    (patient : ∀ sink, (first.writes sink).length < patience ∧
      (second.writes sink).length < patience)
    (enough : first.waits.length < rounds) (watcher : ResizeWatcher) (buffer : Bytes) :
    ∃ asked result, ∃ offered : Descriptor → List Event,
      ∀ replies, replies = first ∨ replies = second →
      World.foretold.Settles replies (relay patience target watcher rounds buffer)
        fun events _ outcome => outcome = result ∧ inquiries events = asked ∧
          asked.filterMap (Event.ending? target) = result.toList ∧
          (∀ sink, first.writes sink = second.writes sink →
            offersTo sink events = offered sink ∧
              bytesTaken sink events = bytesTaken sink (offered sink)) ∧
          OfferedInFull target events := by
  have alike : (Focus.shared first second).Alike patience first second := {
    reads
    writes := fun sink looked => by simpa [Focus.shared] using looked
    covered := patient }
  have agree : (Focus.shared first second).Agree (fun ending _ other _ => ending = other) first
      second (relay patience target watcher rounds buffer)
      (relay patience target watcher rounds buffer) :=
    Focus.relay_agrees (.refl _) (fun _ => rfl) alike rfl waits.symm enough enough buffer
  obtain ⟨seen, result, left, right⟩ := agree.settled
  have whole {replies : Replies}
      (settles : World.foretold.Settles replies (relay patience target watcher rounds buffer)
        fun events _ outcome => (Focus.shared first second).view events = seen ∧
          outcome = result) :
      World.foretold.Settles replies (relay patience target watcher rounds buffer)
        fun events _ outcome => outcome = result ∧ inquiries events = inquiries seen ∧
          (inquiries seen).filterMap (Event.ending? target) = result.toList ∧
          (∀ sink, first.writes sink = second.writes sink →
            offersTo sink events = offersTo sink seen ∧
              bytesTaken sink events = bytesTaken sink (offersTo sink seen)) ∧
          OfferedInFull target events := by
    apply (relay_settled notInput settles).mono
    rintro events after outcome ⟨⟨rfl, rfl⟩, decided, full⟩
    refine ⟨rfl, (Focus.shared_inquiries ..).symm, ?_, fun sink same => ?_, full⟩
    · rw [Focus.shared_inquiries, ← decided]
      exact ending?_inquiries target events
    · rw [Focus.shared_offersTo same, bytesTaken_offersTo]
      exact ⟨rfl, rfl⟩
  refine ⟨inquiries seen, result, fun sink => offersTo sink seen, ?_⟩
  rintro replies (rfl | rfl)
  · exact whole left
  · exact whole right

def bothWays : Replies where
  waits := [.ok ⟨true, true⟩, .ok ⟨true, true⟩, .ok ⟨true, false⟩]
  reads
    | .input => [.ok [1, 2, 3], .ok [4], .ok []]
    | .opened 3 => [.ok [7, 8], .ok [9]]
    | _ => []
  writes _ := []

def bothWaysFailing : Replies :=
  { bothWays with
    writes := fun sink => if sink = .opened 3 then [.ok 1, .error .inputOutput, .ok 0] else [] }

def bothWaysMoved : List Event :=
  [⟨.takeFlag 0, false⟩, ⟨.wait .input (.opened 3) .empty, .ok ⟨true, true⟩⟩,
    ⟨.read .input chunkSize, .ok [1, 2, 3]⟩, ⟨.write (.opened 3) [1, 2, 3], .ok 3⟩,
    ⟨.read (.opened 3) chunkSize, .ok [7, 8]⟩, ⟨.write .output [7, 8], .ok 2⟩,
    ⟨.takeFlag 0, false⟩, ⟨.wait .input (.opened 3) .empty, .ok ⟨true, true⟩⟩,
    ⟨.read .input chunkSize, .ok [4]⟩, ⟨.write (.opened 3) [4], .ok 1⟩,
    ⟨.read (.opened 3) chunkSize, .ok [9]⟩, ⟨.write .output [9], .ok 1⟩,
    ⟨.takeFlag 0, false⟩, ⟨.wait .input (.opened 3) .empty, .ok ⟨true, false⟩⟩,
    ⟨.read .input chunkSize, .ok []⟩]

theorem both_ways_run : ∃ after, World.foretold.Run bothWays
    (relay 4 (.opened 3) ⟨.terminal, .opened 3, 0, .empty⟩ 4 blankBuffer) bothWaysMoved after
    (.done .localClosed) :=
  ⟨_, .answered _ rfl <| .answered _ rfl <| .answered _ rfl <| .answered _ rfl <|
    .answered _ rfl <| .answered _ rfl <| .answered _ rfl <| .answered _ rfl <|
    .answered _ rfl <| .answered _ rfl <| .answered _ rfl <| .answered _ rfl <|
    .answered _ rfl <| .answered _ rfl <| .answered _ rfl .here⟩

/-- Everything is read and the output gets all of it, whether or not the far side fails. -/
theorem output_despite_failing_target :
    World.foretold.Settles bothWays
        (relay 4 (.opened 3) ⟨.terminal, .opened 3, 0, .empty⟩ 4 blankBuffer)
        (fun events _ outcome => outcome = some .localClosed ∧
          inquiries events = inquiries bothWaysMoved ∧
          chunksRead .input events = [[1, 2, 3], [4]] ∧
          chunksRead (.opened 3) events = [[7, 8], [9]] ∧
          bytesTaken .output events = [7, 8, 9] ∧ OfferedInFull (.opened 3) events) ∧
      World.foretold.Settles bothWaysFailing
        (relay 4 (.opened 3) ⟨.terminal, .opened 3, 0, .empty⟩ 4 blankBuffer)
        (fun events _ outcome => outcome = some .localClosed ∧
          inquiries events = inquiries bothWaysMoved ∧
          chunksRead .input events = [[1, 2, 3], [4]] ∧
          chunksRead (.opened 3) events = [[7, 8], [9]] ∧
          bytesTaken .output events = [7, 8, 9] ∧ OfferedInFull (.opened 3) events) := by
  have patient (sink : Descriptor) : (bothWays.writes sink).length < 4 ∧
      (bothWaysFailing.writes sink).length < 4 := by
    simp only [bothWays, bothWaysFailing]
    split <;> decide
  have apart : Descriptor.opened 3 ≠ .input := by decide
  have waits : bothWays.waits = bothWaysFailing.waits := rfl
  have reads : bothWays.reads = bothWaysFailing.reads := rfl
  have outputAlike : bothWays.writes .output = bothWaysFailing.writes .output := rfl
  obtain ⟨asked, result, offered, settled⟩ := write_outcomes_isolated apart waits reads patient
    (by decide : bothWays.waits.length < 4) ⟨.terminal, .opened 3, 0, .empty⟩ blankBuffer
  obtain ⟨after, run⟩ := both_ways_run
  obtain ⟨rfl, rfl, -, offers, -⟩ := World.Settles.of_run (settled bothWays (.inl rfl)) run
  have taken : bytesTaken .output (offered .output) = [7, 8, 9] :=
    (offers .output outputAlike).2.symm
  have reads {events : List Event} (asked : inquiries events = inquiries bothWaysMoved)
      (source : Descriptor) : chunksRead source events = chunksRead source bothWaysMoved := by
    rw [← chunksRead_inquiries, asked, chunksRead_inquiries]
  constructor
  · apply World.Settles.mono (settled bothWays (.inl rfl))
    rintro events after outcome ⟨ends, asked, -, offers, full⟩
    exact ⟨ends, asked, reads asked .input, reads asked (.opened 3),
      (offers .output outputAlike).2.trans taken, full⟩
  · apply World.Settles.mono (settled bothWaysFailing (.inr rfl))
    rintro events after outcome ⟨ends, asked, -, offers, full⟩
    exact ⟨ends, asked, reads asked .input, reads asked (.opened 3),
      (offers .output outputAlike).2.trans taken, full⟩

end TerminalRelay
