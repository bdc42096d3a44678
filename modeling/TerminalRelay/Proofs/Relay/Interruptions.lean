import TerminalRelay.Proofs.Relay.SideBySide

/-! Interrupted waits leave no trace in the data. However many of them are put in between the
other answers, with a resize to attend to or without, the relay reads and writes the same and
comes to the same ending. -/

namespace TerminalRelay

/-- What remains of some events without the interruptions and all that is about resizes. -/
def undisturbed (events : List Event) : List Event :=
  events.filter fun event => !event.request.resizes && !event.interrupts

theorem chunksRead_undisturbed (source : Descriptor) (events : List Event) :
    chunksRead source (undisturbed events) = chunksRead source events := by
  refine filterMap_kept (fun event dropped => ?_) events
  unfold Event.chunk?
  split
  · cases dropped
  · rfl

theorem bytesTaken_undisturbed (sink : Descriptor) (events : List Event) :
    bytesTaken sink (undisturbed events) = bytesTaken sink events := by
  refine bytesTaken_kept (fun event dropped => ?_) events
  unfold Event.taken
  split
  · cases dropped
  · rfl

def Focus.all : Focus where
  interruptions := false
  sinks _ := true

theorem Focus.all_view (events : List Event) : Focus.all.view events = undisturbed events := by
  refine List.filter_congr fun event _ => ?_
  have unlimited : event.request.sink?.all Focus.all.sinks = true := by
    cases event.request.sink? <;> rfl
  rw [Focus.sees, unlimited, Bool.and_true]
  rfl

/-- A relay that is answered with more interruptions does the same otherwise, and comes to the
same result: it ends alike, or waits alike for more answers. Resizes may come at any time, and
at different times with the interruptions and without. -/
theorem interruptions_leave_no_trace {first second : Replies} {patience rounds : Nat}
    (interrupted : Interspersed first.waits second.waits) (reads : first.reads = second.reads)
    (writes : first.writes = second.writes)
    (patient : ∀ sink, (first.writes sink).length < patience)
    (enough : second.waits.length < rounds) (target : Descriptor) (watcher : ResizeWatcher)
    (buffer : Bytes) :
    ∃ kept result, ∀ replies, replies = first ∨ replies = second →
      World.foretold.Settles replies (relay patience target watcher rounds buffer)
        fun events _ outcome => outcome = result ∧ undisturbed events = kept ∧
          (∀ source, chunksRead source events = chunksRead source kept) ∧
          ∀ sink, bytesTaken sink events = bytesTaken sink kept := by
  have alike : Focus.all.Alike patience first second := {
    reads
    writes := fun sink _ => congrFun writes sink
    covered := fun sink => ⟨patient sink, writes ▸ patient sink⟩ }
  have agree : Focus.all.Agree (fun ending _ other _ => ending = other) first second
      (relay patience target watcher rounds buffer) (relay patience target watcher rounds buffer) :=
    Focus.relay_agrees interrupted (fun looked => absurd looked Bool.false_ne_true) alike rfl rfl
      (Nat.lt_of_le_of_lt interrupted.length_le enough) enough buffer
  obtain ⟨kept, result, left, right⟩ := agree.settled
  have whole (events : List Event) (outcome : Option Ending)
      (holds : Focus.all.view events = kept ∧ outcome = result) :
      outcome = result ∧ undisturbed events = kept ∧
        (∀ source, chunksRead source events = chunksRead source kept) ∧
        ∀ sink, bytesTaken sink events = bytesTaken sink kept := by
    obtain ⟨same, ends⟩ := holds
    rw [Focus.all_view] at same
    subst same
    exact ⟨ends, rfl, fun source => (chunksRead_undisturbed source events).symm,
      fun sink => (bytesTaken_undisturbed sink events).symm⟩
  refine ⟨kept, result, ?_⟩
  rintro replies (rfl | rfl)
  · exact left.mono fun events _ outcome => whole events outcome
  · exact right.mono fun events _ outcome => whole events outcome

/-- Two chunks from the local input, of which the first is taken in two parts, and then its end. -/
def twoChunks : Replies where
  waits := [.ok ⟨true, false⟩, .ok ⟨true, false⟩, .ok ⟨true, false⟩]
  reads source := if source = .input then [.ok [1, 2, 3], .ok [4], .ok []] else []
  writes sink := if sink = .opened 3 then [.ok 1] else []

def twoChunksInterrupted : Replies :=
  { twoChunks with
    waits := [.error .interrupted, .ok ⟨true, false⟩, .error .interrupted, .error .interrupted,
      .ok ⟨true, false⟩, .ok ⟨true, false⟩] }

def twoChunksMoved : List Event :=
  [⟨.takeFlag 0, false⟩, ⟨.wait .input (.opened 3) .empty, .ok ⟨true, false⟩⟩,
    ⟨.read .input chunkSize, .ok [1, 2, 3]⟩, ⟨.write (.opened 3) [1, 2, 3], .ok 1⟩,
    ⟨.write (.opened 3) [2, 3], .ok 2⟩,
    ⟨.takeFlag 0, false⟩, ⟨.wait .input (.opened 3) .empty, .ok ⟨true, false⟩⟩,
    ⟨.read .input chunkSize, .ok [4]⟩, ⟨.write (.opened 3) [4], .ok 1⟩,
    ⟨.takeFlag 0, false⟩, ⟨.wait .input (.opened 3) .empty, .ok ⟨true, false⟩⟩,
    ⟨.read .input chunkSize, .ok []⟩]

theorem two_chunks_run : ∃ after, World.foretold.Run twoChunks
    (relay 2 (.opened 3) ⟨.terminal, .opened 3, 0, .empty⟩ 7 blankBuffer) twoChunksMoved after
    (.done .localClosed) :=
  ⟨_, .answered _ rfl <| .answered _ rfl <| .answered _ rfl <| .answered _ rfl <|
    .answered _ rfl <| .answered _ rfl <| .answered _ rfl <| .answered _ rfl <|
    .answered _ rfl <| .answered _ rfl <| .answered _ rfl <| .answered _ rfl .here⟩

theorem two_chunks_despite_interruptions :
    World.foretold.Settles twoChunks
        (relay 2 (.opened 3) ⟨.terminal, .opened 3, 0, .empty⟩ 7 blankBuffer)
        (fun events _ outcome => outcome = some .localClosed ∧
          undisturbed events = undisturbed twoChunksMoved ∧
          chunksRead .input events = [[1, 2, 3], [4]] ∧
          bytesTaken (.opened 3) events = [1, 2, 3, 4]) ∧
      World.foretold.Settles twoChunksInterrupted
        (relay 2 (.opened 3) ⟨.terminal, .opened 3, 0, .empty⟩ 7 blankBuffer)
        (fun events _ outcome => outcome = some .localClosed ∧
          undisturbed events = undisturbed twoChunksMoved ∧
          chunksRead .input events = [[1, 2, 3], [4]] ∧
          bytesTaken (.opened 3) events = [1, 2, 3, 4]) := by
  have interrupted : Interspersed twoChunks.waits twoChunksInterrupted.waits :=
    .interrupted (.both _ (.interrupted (.interrupted (.both _ (.both _ .none)))))
  have patient (sink : Descriptor) : (twoChunks.writes sink).length < 2 := by
    simp only [twoChunks]
    split <;> decide
  have enough : twoChunksInterrupted.waits.length < 7 := by decide
  obtain ⟨kept, result, settled⟩ := interruptions_leave_no_trace interrupted rfl rfl patient
    enough (.opened 3) ⟨.terminal, .opened 3, 0, .empty⟩ blankBuffer
  obtain ⟨after, run⟩ := two_chunks_run
  obtain ⟨rfl, rfl, -, -⟩ := World.Settles.of_run (settled twoChunks (.inl rfl)) run
  constructor
  · apply World.Settles.mono (settled twoChunks (.inl rfl))
    intro events after outcome ⟨ends, same, reads, taken⟩
    exact ⟨ends, same, reads .input, taken (.opened 3)⟩
  · apply World.Settles.mono (settled twoChunksInterrupted (.inr rfl))
    intro events after outcome ⟨ends, same, reads, taken⟩
    exact ⟨ends, same, reads .input, taken (.opened 3)⟩

end TerminalRelay
