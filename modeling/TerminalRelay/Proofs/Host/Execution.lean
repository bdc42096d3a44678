import TerminalRelay.Host.Answering
import TerminalRelay.Proofs.Concerns
import TerminalRelay.Proofs.Host.NearSide
import TerminalRelay.Proofs.Outcomes

/-! The model host among the worlds. What a host computes of a program is where a run leads in
the world that answers as the host does, and to the signals of the thread such a run does
nothing that the near side would not allow. -/

namespace TerminalRelay

/-- A world with one host in it. What happens to the host from outside happens within its
answer to a wait. -/
def World.hosted : World Host where
  outside _ _ _ := False
  answers host request answer after := host.answer request = some (answer, after)

/-- A host has computed this, and goes no further with what is left of a program: the program is
done, or out of patience, or waits for what never comes. -/
def Host.Stops {α : Type} (host : Host) : Program α → Option α → Prop
  | .done value, result => result = some value
  | .unfinished, result => result = none
  | .ask request _, result =>
    result = none ∧ ∃ near far mask, request = .wait near far mask ∧ host.wait near far mask = none

section Computing
variable {α : Type} {host after : Host} {program rest : Program α}

theorem Host.answer_eq_none {request : Request} (unanswered : host.answer request = none) :
    ∃ near far mask, request = .wait near far mask ∧ host.wait near far mask = none := by
  cases request with
  | wait near far mask => exact ⟨near, far, mask, rfl, unanswered⟩
  | _ => cases unanswered

theorem Host.Stops.run {result : Option α} (stops : host.Stops program result) :
    host.run program = (result, host) := by
  cases program with
  | done value => rw [Host.run, stops]
  | unfinished => rw [Host.run, stops]
  | ask request next =>
    obtain ⟨rfl, near, far, mask, rfl, unanswered⟩ := stops
    have unanswered : host.answer (.wait near far mask) = none := unanswered
    rw [Host.run, unanswered]

theorem World.Run.computes {events : List Event}
    (run : World.hosted.Run host program events after rest) :
    host.run program = after.run rest := by
  induction run with
  | here => rfl
  | outside happens => exact happens.elim
  | answered answer answered _ ih =>
    have answered : Host.answer _ _ = some _ := answered
    rw [Host.run, answered]
    exact ih

/-- A host computes just what a run leads to that goes on until it stops. -/
theorem Host.run_eq_iff {result : Option α} :
    host.run program = (result, after) ↔
      ∃ events rest, World.hosted.Run host program events after rest ∧
        after.Stops rest result := by
  constructor
  · intro computed
    induction program generalizing host with
    | done value =>
      cases computed
      exact ⟨[], _, .here, rfl⟩
    | unfinished =>
      cases computed
      exact ⟨[], _, .here, rfl⟩
    | ask request next ih =>
      rw [run] at computed
      cases answered : host.answer request with
      | none =>
        rw [answered] at computed
        cases computed
        exact ⟨[], _, .here, rfl, answer_eq_none answered⟩
      | some outcome =>
        rw [answered] at computed
        obtain ⟨events, rest, run, stops⟩ := ih outcome.1 computed
        exact ⟨_, rest, .answered outcome.1 answered run, stops⟩
  · rintro ⟨events, rest, run, stops⟩
    rw [run.computes, stops.run]

theorem Host.exists_run {value : α} (computed : host.run program = (some value, after)) :
    ∃ events, World.hosted.Run host program events after (.done value) := by
  obtain ⟨events, rest, run, stops⟩ := run_eq_iff.mp computed
  cases rest with
  | done result =>
    cases stops
    exact ⟨events, run⟩
  | unfinished => cases stops
  | ask request next => cases stops.1

theorem World.Settles.computed {outcome : List Event → Host → Option α → Prop}
    (settles : World.hosted.Settles host program outcome) :
    ∃ events, outcome events (host.run program).2 (host.run program).1 := by
  induction program generalizing host outcome with
  | done value => exact ⟨[], settles⟩
  | unfinished => exact settles.elim
  | ask request next ih =>
    obtain ⟨unanswered, each⟩ := settles host .refl
    rw [Host.run]
    cases answered : host.answer request with
    | none =>
      refine ⟨[], unanswered fun answer after answers => ?_⟩
      cases answered.symm.trans answers
    | some given =>
      obtain ⟨events, holds⟩ := ih given.1 (each given.1 given.2 answered)
      exact ⟨_, holds⟩

end Computing

namespace Host
variable {host after : Host}

/-! What does not touch the signals of the thread. -/

@[simp] theorem setDevice_signals (host : Host) (d : Descriptor) (device : Device) :
    (host.setDevice d device).signals = host.signals := rfl

@[simp] theorem setPty_signals (host : Host) (n : Nat) (pty : PtyState) :
    (host.setPty n pty).signals = host.signals := rfl

@[simp] theorem addDevice_signals (host : Host) (device : Device) :
    (host.addDevice device).2.signals = host.signals := rfl

@[simp] theorem changeConnection_signals (host : Host) (d : Descriptor)
    (change : Connection → Connection) :
    (host.changeConnection d change).signals = host.signals := by
  unfold changeConnection
  split <;> rfl

@[simp] theorem changePty_signals (host : Host) (d : Descriptor) (change : PtyState → PtyState) :
    (host.changePty d change).signals = host.signals := by
  unfold changePty
  split <;> rfl

@[simp] theorem setSize_signals (host : Host) (d : Descriptor) (size : WindowSize) :
    (host.setSize d size).2.signals = host.signals := by
  unfold setSize
  split <;> rfl

@[simp] theorem setAttributes_signals (host : Host) (d : Descriptor) (attributes : Attributes) :
    (host.setAttributes d attributes).2.signals = host.signals := by
  unfold setAttributes
  split
  · rfl
  · split <;> rfl

@[simp] theorem read_signals (host : Host) (d : Descriptor) (limit : Nat) :
    (host.read d limit).2.signals = host.signals := by
  unfold read
  split
  case h_5 => split <;> rfl
  all_goals rfl

@[simp] theorem write_signals (host : Host) (d : Descriptor) (chunk : Bytes) :
    (host.write d chunk).2.signals = host.signals := by
  unfold write
  split
  case h_4 => split <;> rfl
  all_goals rfl

@[simp] theorem openMaster_signals (host : Host) : host.openMaster.2.signals = host.signals := by
  unfold openMaster
  split <;> rfl

@[simp] theorem openSlave_signals (host : Host) (name : String) :
    (host.openSlave name).2.signals = host.signals := by
  unfold openSlave
  split
  · rfl
  · split
    · rfl
    · simp

@[simp] theorem duplicate_signals (host : Host) (d : Descriptor) :
    (host.duplicate d).2.signals = host.signals := by
  unfold duplicate
  split
  · rfl
  · split <;> rfl

@[simp] theorem start_signals (host : Host) (launch : Launch) :
    (host.start launch).2.signals = host.signals := by
  simp only [start]
  split
  · rfl
  · split <;> rfl

@[simp] theorem attach_signals (host : Host) (slave : String) :
    (host.attach slave).2.signals = host.signals := by
  unfold attach
  split
  · rfl
  · split
    · rfl
    · split
      · rfl
      · split <;> rfl

@[simp] theorem print_signals (host : Host) (text : Bytes) :
    (host.print text).2.signals = host.signals := by
  simp only [print]
  split
  · rfl
  · split
    · rfl
    · split <;> rfl

@[simp] theorem flush_signals (host : Host) : host.flush.2.signals = host.signals := by
  simp only [flush]
  split <;> rfl

@[simp] theorem log_signals (host : Host) (notice : Notice) :
    (host.log notice).signals = host.signals := by
  simp only [log]
  split <;> rfl

theorem answer_signals {request : Request} {answer : request.Answer}
    (apart : request.concern ∉ [.signals, .flag, .waiting])
    (answered : host.answer request = some (answer, after)) :
    after.signals = host.signals := by
  cases request with
  | block | setMask | watchResize | unwatchResize | takeFlag | wait =>
    simp [Request.concern] at apart
  | _ =>
    obtain rfl : _ = after := congrArg Prod.snd (Option.some.inj answered)
    simp [record]

theorem happen_signals (host : Host) (target : Descriptor) (event : OutsideEvent) :
    (host.happen target event).signals = host.signals ∨
      (host.happen target event).signals = host.signals.raise := by
  cases event with
  | resized size => exact .inr (by simp [happen])
  | _ => exact .inl (by simp [happen])

theorem waitFor_signals {near far : Descriptor} {mask : SignalSet} {schedule : List OutsideEvent}
    {answer : Except Errno Readiness} (attributes : Attributes)
    (answered : waitFor near far mask schedule host = some (answer, after)) :
    ∃ signals, World.nearSide.Drifts (.wait near far mask) ⟨attributes, host.signals⟩
        ⟨attributes, signals⟩ ∧
      (after.signals = signals ∨ after.signals = signals.during mask) := by
  fun_induction waitFor near far mask schedule host with
  | case1 =>
    cases answered
    exact ⟨_, .refl, .inl rfl⟩
  | case2 =>
    cases answered
    exact ⟨_, .refl, .inr rfl⟩
  | case3 => cases answered
  | case4 host ready idle deaf event rest ih =>
    obtain ⟨signals, drifts, final⟩ := ih answered
    refine ⟨signals, ?_, final⟩
    obtain kept | raised :=
      happen_signals { host with glimpses := host.glimpse far :: host.glimpses } far event
    · rwa [kept] at drifts
    · rw [raised] at drifts
      exact .head (.inl rfl) drifts

/-- Whatever a host does to the signals of the thread the near side may do. -/
theorem answer_nearSide {request : Request} {answer : request.Answer} (attributes : Attributes)
    (apart : request.concern ≠ .attributes)
    (answered : host.answer request = some (answer, after)) :
    ∃ opened, World.nearSide.Drifts request ⟨attributes, host.signals⟩ opened ∧
      World.nearSide.answers opened request answer ⟨attributes, after.signals⟩ := by
  cases request with
  | readAttributes | writeAttributes => exact absurd rfl apart
  | block signals | setMask signals | unwatchResize flag =>
    cases answered
    exact ⟨_, .refl, by simp [World.nearSide]⟩
  | watchResize | takeFlag =>
    cases answered
    exact ⟨_, .refl, rfl, rfl⟩
  | wait near far mask =>
    change host.wait near far mask = _ at answered
    unfold wait at answered
    split at answered
    · cases answered
      exact ⟨_, .refl, .inl rfl⟩
    · obtain ⟨signals, drifts, final⟩ := waitFor_signals attributes answered
      refine ⟨_, drifts, final.imp ?_ ?_⟩
      · exact congrArg (NearSide.mk attributes)
      · exact congrArg (NearSide.mk attributes)
  | log notice =>
    cases answered
    exact ⟨_, .refl, congrArg (NearSide.mk attributes) (log_signals host notice)⟩
  | _ =>
    have same := answer_signals (by simp [Request.concern]) answered
    exact ⟨_, .refl, congrArg (NearSide.mk attributes) same⟩

end Host

theorem World.Run.nearSide_of_hosted {α : Type} {host after : Host} {program rest : Program α}
    {events : List Event} (attributes : Attributes)
    (apart : program.Avoids (·.concern = .attributes))
    (run : World.hosted.Run host program events after rest) :
    World.nearSide.Run ⟨attributes, host.signals⟩ program events
      ⟨attributes, after.signals⟩ rest := by
  induction run with
  | here => exact .here
  | outside happens => exact happens.elim
  | answered answer answered _ ih =>
    obtain ⟨opened, drifts, answers⟩ := Host.answer_nearSide attributes apart.1 answered
    exact .of_drifts drifts (.answered answer answers (ih (apart.2 answer)))

/-- A relay that a host computes is, for the near side, a run to its end. -/
theorem relaySession_runs_on_nearSide {host after : Host} {allowance : Allowance}
    {target : Descriptor} {ending : Ending} (attributes : Attributes)
    (computed : host.run (relaySession allowance target) = (some ending, after)) :
    ∃ events, World.nearSide.Run ⟨attributes, host.signals⟩ (relaySession allowance target) events
      ⟨attributes, after.signals⟩ (.done ending) := by
  obtain ⟨events, run⟩ := Host.exists_run computed
  refine ⟨events, run.nearSide_of_hosted attributes ?_⟩
  apply (relaySession_asks allowance target).avoids
  rintro request about
  rw [about]
  rfl

end TerminalRelay
