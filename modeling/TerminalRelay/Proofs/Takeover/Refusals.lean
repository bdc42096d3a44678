import TerminalRelay.Proofs.Concerns
import TerminalRelay.Proofs.Faults

/-! Takeovers on a host without a takeover engine, read off the answers of the host. None
succeeds: a new pty cannot be made, or the process cannot be signalled, or else there is nothing
to take it over with. -/

namespace TerminalRelay

/-- The mode is about a process that exists already. -/
def Mode.TakesOver : Mode → Prop
  | .attach _ _ | .steal _ => True
  | .create _ _ => False

theorem Mode.takesOver_or_create (mode : Mode) :
    mode.TakesOver ∨ ∃ redirect command, mode = .create redirect command := by
  cases mode with
  | create redirect command => exact .inr ⟨redirect, command, rfl⟩
  | attach | steal => exact .inl trivial

def Request.isProbe : Request → Bool
  | .probe _ => true
  | _ => false

def probes (events : List Event) : List Event :=
  events.filter fun event => event.request.isProbe

def obstacle : Except Errno Unit → Errno
  | .error e => e
  | .ok _ => .notImplemented

/-- Why a takeover is refused, by the answers of the host. -/
inductive Refusal (events : List Event) : Mode → Fault → Prop
  | unallocated {pid : Pid} {forceStdio : Bool} {opening : List Event} {fault : Fault}
      (failed : Allocation opening (.error fault)) (within : opening ⊆ events)
      (unprobed : probes events = []) : Refusal events (.attach pid forceStdio) fault
  | unattached {pid : Pid} {forceStdio : Bool} {opening : List Event} {pty : Pty}
      {answer : Except Errno Unit} (made : Allocation opening (.ok pty))
      (within : opening ⊆ events) (probed : probes events = [⟨.probe pid, answer⟩]) :
      Refusal events (.attach pid forceStdio) (.attach pid (obstacle answer))
  | unstolen {pid : Pid} {answer : Except Errno Unit}
      (probed : probes events = [⟨.probe pid, answer⟩]) :
      Refusal events (.steal pid) (.steal pid (obstacle answer))

def ProbeDenied (events : List Event) : Prop :=
  ∃ pid, ⟨.probe pid, .error .notPermitted⟩ ∈ events

theorem probes_append (events later : List Event) :
    probes (events ++ later) = probes events ++ probes later :=
  List.filter_append events later

theorem Request.concern_of_isProbe {request : Request} (probe : request.isProbe = true) :
    request.concern = .takeover := by
  cases request <;> first | rfl | cases probe

theorem probes_eq_nil {concerns : List Concern} {events : List Event}
    (business : ∀ event ∈ events, concerns.contains event.request.concern = true)
    (apart : concerns.contains .takeover = false) : probes events = [] := by
  refine List.filter_eq_nil_iff.mpr fun event member probe => ?_
  refine not_mem_of_concern business ?_ member
  rwa [Request.concern_of_isProbe probe]

theorem Refusal.surrounded {events earlier later : List Event} {mode : Mode} {fault : Fault}
    (refusal : Refusal events mode fault) (before : probes earlier = [])
    (after : probes later = []) : Refusal (earlier ++ (events ++ later)) mode fault := by
  have same : probes (earlier ++ (events ++ later)) = probes events := by
    rw [probes_append, probes_append, before, after, List.nil_append, List.append_nil]
  have inside {opening : List Event} (within : opening ⊆ events) :
      opening ⊆ earlier ++ (events ++ later) :=
    fun _ member => List.mem_append_right _ (List.mem_append_left _ (within member))
  cases refusal with
  | unallocated failed within unprobed =>
    exact .unallocated failed (inside within) (same.trans unprobed)
  | unattached made within probed => exact .unattached made (inside within) (same.trans probed)
  | unstolen probed => exact .unstolen (same.trans probed)

theorem probeDenied_iff_of_probed {events : List Event} {pid : Pid} {answer : Except Errno Unit}
    (probed : probes events = [⟨.probe pid, answer⟩]) :
    ProbeDenied events ↔ obstacle answer = .notPermitted := by
  have listed (event : Event) (probe : event.request.isProbe = true) :
      event ∈ events ↔ event = ⟨.probe pid, answer⟩ := by
    rw [← List.mem_singleton, ← probed, probes, List.mem_filter]
    exact (and_iff_left probe).symm
  constructor
  · rintro ⟨other, member⟩
    cases (listed _ rfl).mp member
    rfl
  · intro denied
    cases answer with
    | error e =>
      obtain rfl : e = .notPermitted := denied
      exact ⟨pid, (listed _ rfl).mpr rfl⟩
    | ok _ => cases denied

theorem Refusal.denied_iff {events : List Event} {mode : Mode} {fault : Fault}
    (refusal : Refusal events mode fault) : fault.Denied ↔ ProbeDenied events := by
  cases refusal with
  | unallocated failed within unprobed =>
    have undenied : ¬ fault.Denied := by cases failed <;> exact Fault.not_denied rfl
    refine ⟨fun denied => absurd denied undenied, ?_⟩
    rintro ⟨pid, member⟩
    have probe : _ ∈ probes events := List.mem_filter.mpr ⟨member, rfl⟩
    rw [unprobed] at probe
    cases probe
  | unattached made within probed =>
    rw [probeDenied_iff_of_probed probed, ← Fault.isPermissionDenied_iff]
    simp [Fault.isPermissionDenied]
  | unstolen probed =>
    rw [probeDenied_iff_of_probed probed, ← Fault.isPermissionDenied_iff]
    simp [Fault.isPermissionDenied]

def Told {α : Type} (pid : Pid) (events : List Event) (result : Except Errno α) : Prop :=
  ∃ answer, probes events = [⟨.probe pid, answer⟩] ∧ result = .error (obstacle answer)

theorem attach_concludes (pid : Pid) (slave : String) (forceStdio : Bool) :
    (Backend.system.attach pid slave forceStdio).Concludes (Told pid) := by
  intro answer
  cases answer with
  | error e => exact ⟨.error e, rfl, rfl⟩
  | ok _ => exact fun _ => ⟨.ok (), rfl, rfl⟩

theorem steal_concludes (pid : Pid) :
    (Backend.system.steal pid).Concludes (Told pid) := by
  intro answer
  cases answer with
  | error e => exact ⟨.error e, rfl, rfl⟩
  | ok _ => exact ⟨.ok (), rfl, rfl⟩

def Concern.takeoverOnly : List Concern :=
  [.pty, .takeover, .log]

/-- A takeover is refused. It asks for a pty where it needs one and probes the process, and is
about nothing else. -/
theorem executeTakeover_concludes (allowance : Allowance) {mode : Mode} (takes : mode.TakesOver) :
    (execute allowance .system mode).Concludes fun events outcome =>
      (∃ fault, outcome = .error fault ∧ Refusal events mode fault) ∧
        ∀ event ∈ events, Concern.takeoverOnly.contains event.request.concern = true := by
  cases mode with
  | create redirect command => exact takes.elim
  | attach pid forceStdio =>
    have wide : Pty.allocate.Asks Concern.takeoverOnly := allocate_asks.mono (by decide)
    apply (allocate_concludes.and (allocate_asks.concludes.and wide.concludes)).bind
    rintro opening made ⟨allocation, strictly, business⟩
    have unprobed := probes_eq_nil strictly rfl
    cases made with
    | error fault =>
      have refusal : Refusal opening (.attach pid forceStdio) fault :=
        .unallocated allocation (List.Subset.refl opening) unprobed
      exact ⟨⟨fault, rfl, (List.append_nil opening).symm ▸ refusal⟩, by simpa using business⟩
    | ok pty =>
      intro _
      have wide : (Backend.system.attach pid pty.slave forceStdio).Asks Concern.takeoverOnly :=
        (systemAttach_asks pid pty.slave forceStdio).mono (by decide)
      apply ((attach_concludes pid pty.slave forceStdio).and wide.concludes).bind
      rintro moving _ ⟨⟨answer, probed, rfl⟩, attempt⟩
      have whole : probes (opening ++ ⟨.log (.attaching pid pty.slave), ()⟩ :: (moving ++ [])) =
          [⟨.probe pid, answer⟩] := by
        rw [List.append_nil, probes_append, unprobed]
        exact probed
      refine ⟨⟨_, rfl, .unattached allocation (List.subset_append_left _ _) whole⟩, ?_⟩
      simp only [List.append_nil, List.forall_mem_append, List.forall_mem_cons]
      exact ⟨business, rfl, attempt⟩
  | steal pid =>
    intro _
    have wide : (Backend.system.steal pid).Asks Concern.takeoverOnly :=
      (systemSteal_asks pid).mono (by decide)
    apply ((steal_concludes pid).and wide.concludes).bind
    rintro taking _ ⟨⟨answer, probed, rfl⟩, attempt⟩
    have whole : probes (⟨.log (.stealing pid), ()⟩ :: (taking ++ [])) =
        [⟨.probe pid, answer⟩] := by
      rw [List.append_nil]
      exact probed
    refine ⟨⟨_, rfl, .unstolen whole⟩, ?_⟩
    simp only [List.append_nil, List.forall_mem_cons]
    exact ⟨rfl, attempt⟩

end TerminalRelay
