import TerminalRelay.Proofs.Host.NearSide
import TerminalRelay.Proofs.Takeover.Course

/-! What a mode that fails leaves behind on the near side: nothing. Whatever comes before a
session does not concern the near side, and a session that fails at once has only tried to
enter raw mode. -/

namespace TerminalRelay

def Concern.remote : List Concern :=
  [.pty, .child, .takeover, .output, .log, .report]

/-- A backend that keeps to the takeover, and leaves the near side and the relay to others. -/
structure Backend.Aloof (backend : Backend) : Prop where
  allocate : backend.allocate.Asks Concern.remote
  attach : ∀ pid slave forceStdio, (backend.attach pid slave forceStdio).Asks Concern.remote
  steal : ∀ pid, (backend.steal pid).Asks Concern.remote
  explain : backend.explain.Asks Concern.remote

/-- The near side is as it was before the events, and in these nothing was read or written on
either side of a relay and no size was set. -/
structure Untouched (before : NearSide) (events : List Event) (after : NearSide) : Prop where
  attributes : after.attributes = before.attributes
  mask : after.signals.mask = before.signals.mask
  handlers : after.handlers = before.handlers
  unrelayed : ∀ event ∈ events, event.request.concern ≠ .data
  unsized : ∀ event ∈ events, event.request.concern ≠ .size

namespace Untouched
variable {before between after : NearSide} {events later : List Event}

theorem of_arrangement (same : after.arrangement = before.arrangement)
    (unrelayed : ∀ event ∈ events, event.request.concern ≠ .data)
    (unsized : ∀ event ∈ events, event.request.concern ≠ .size) :
    Untouched before events after := by
  obtain ⟨attributes, mask, handlers⟩ : _ ∧ _ ∧ _ := by
    simpa only [NearSide.arrangement, Prod.mk.injEq] using same
  exact ⟨attributes, mask, handlers, unrelayed, unsized⟩

theorem append (first : Untouched before events between) (second : Untouched between later after) :
    Untouched before (events ++ later) after where
  attributes := second.attributes.trans first.attributes
  mask := second.mask.trans first.mask
  handlers := second.handlers.trans first.handlers
  unrelayed := List.forall_mem_append.mpr ⟨first.unrelayed, second.unrelayed⟩
  unsized := List.forall_mem_append.mpr ⟨first.unsized, second.unsized⟩

theorem of_asks {α : Type} {program rest : Program α} (asks : program.Asks Concern.remote)
    (run : World.nearSide.Run before program events after rest) :
    Untouched before events after := by
  have business := asks.run run
  refine of_arrangement ?_ ?_ ?_
  · refine asks.keeps NearSide.arrangement run World.nearSide_outside_keeps ?_
    intro request answer before after remote answers
    have same : after = before := by
      cases request <;> first | exact answers | exact absurd rfl remote
    rw [same]
  · intro event member data
    have remote := business event member
    rw [data] at remote
    cases remote
  · intro event member size
    have remote := business event member
    rw [size] at remote
    cases remote

theorem of_acquire {fault : Fault}
    (run : World.nearSide.Run before (RawMode.acquire .terminal) events after
      (.done (.error fault))) :
    Untouched before events after := by
  obtain ⟨opened, found, reading, _, drifts, answers, rfl, others⟩ := run.of_ask
  cases found with
  | error e =>
    obtain ⟨_, _, _, _, _, _, _, noted⟩ := others.of_ask
    cases noted.of_done.2.2
  | ok attributes =>
    obtain ⟨-, rfl⟩ : _ ∧ reading = opened := answers
    obtain ⟨entering, entered, left, _, later, answers, rfl, ended⟩ := others.of_ask
    cases entered with
    | ok _ => cases ended.of_done.2.2
    | error e =>
      obtain rfl : left = entering := answers
      obtain ⟨rfl, rfl, -⟩ := ended.of_done
      refine of_arrangement ?_ ?_ ?_
      · rw [World.nearSide_drifts_keeps later, World.nearSide_drifts_keeps drifts]
      · simp [Request.concern]
      · simp [Request.concern]

theorem of_runSession {allowance : Allowance} {target : Descriptor} {fault : Fault}
    (run : World.nearSide.Run before (runSession allowance target) events after
      (.done (.error fault)))
    (other : ∀ e, fault ≠ .restoreTerminal e) : Untouched before events after := by
  obtain ⟨acquired, first, held, later, rfl, acquiring, session⟩ := run.of_bind
  cases acquired with
  | ok hold =>
    obtain ⟨e, same⟩ := (runHeld_blames allowance target hold).run session fault rfl
    exact absurd same (other e)
  | error refusal =>
    obtain ⟨rfl, rfl, -⟩ := session.of_done
    rw [List.append_nil]
    exact of_acquire acquiring

end Untouched

variable {allowance : Allowance} {backend : Backend} {before after : NearSide}
  {deeds : List Deed} {events : List Event} {refusals : Fault → Prop}

theorem Task.asks_remote (aloof : backend.Aloof) (task : Task)
    (other : ∀ target, task ≠ .relay target) :
    (task.program allowance backend).Asks Concern.remote := by
  cases task with
  | allocate => exact aloof.allocate
  | attach pid slave forceStdio =>
    exact (note_asks rfl).bind fun _ => aloof.attach pid slave forceStdio
  | steal pid => exact (note_asks rfl).bind fun _ => aloof.steal pid
  | announce slave => exact (announce_asks allowance.patience slave).mono (by decide)
  | spawn slave redirect command => exact (spawn_asks slave redirect command).mono (by decide)
  | relay target => exact absurd rfl (other target)
  | report fault => exact note_asks rfl
  | explain => exact aloof.explain

/-- Deeds leave the near side alone if the only sessions among them failed, and not in putting
the terminal back. -/
theorem Doings.untouched (aloof : backend.Aloof)
    (doings : Doings World.nearSide allowance backend before deeds events after)
    (failed : ∀ target result, ⟨.relay target, result⟩ ∈ deeds →
      ∃ fault, result = .error fault ∧ ∀ e, fault ≠ .restoreTerminal e) :
    Untouched before events after := by
  induction doings with
  | none => exact .of_arrangement rfl (by simp) (by simp)
  | did deed run _ ih =>
    have others := ih fun target result later =>
      failed target result (List.mem_cons_of_mem deed later)
    refine Untouched.append ?_ others
    obtain ⟨task, result⟩ := deed
    by_cases relays : ∃ target, task = .relay target
    · obtain ⟨target, rfl⟩ := relays
      obtain ⟨fault, rfl, other⟩ := failed target result List.mem_cons_self
      exact .of_runSession run other
    · have other : ∀ target, task ≠ .relay target := fun target same => relays ⟨target, same⟩
      exact .of_asks (Task.asks_remote aloof task other) run

/-! In the course of a mode that fails a session is the last deed. -/

theorem Relaying.failed_last {target : Descriptor} {fault : Fault}
    (relaying : Relaying target deeds (.finished (.error fault))) :
    ∀ other result, ⟨.relay other, result⟩ ∈ deeds → result = .error fault := by
  cases relaying with
  | failed session =>
    intro other result member
    cases List.mem_singleton.mp member
    rfl

theorem Using.failed_last {pty : Pty} {mode : Mode} {fault : Fault}
    (used : Using pty mode deeds (.finished (.error fault))) :
    ∀ target result, ⟨.relay target, result⟩ ∈ deeds → result = .error fault := by
  cases used with
  | attached pid forceStdio relaying =>
    intro target result member
    cases member with
    | tail _ later => exact relaying.failed_last target result later
  | unattached | unannounced => exact fun target result member => nomatch member
  | announced starting =>
    cases starting with
    | failed => exact fun target result member => nomatch member

theorem Course.failed_last {mode : Mode} {fault : Fault}
    (course : Course refusals mode deeds (.finished (.error fault))) :
    ∀ target result, ⟨.relay target, result⟩ ∈ deeds → result = .error fault := by
  cases course with
  | unallocated | unstolen => exact fun target result member => nomatch member
  | allocated used =>
    intro target result member
    cases member with
    | tail _ later => exact used.failed_last target result later
  | stolen pid relaying =>
    intro target result member
    cases member with
    | tail _ later => exact relaying.failed_last target result later

/-- A mode that fails leaves the near side untouched, unless it fails in putting the terminal
back: so does one that fails after a process was moved to its new pty. -/
theorem failed_mode_leaves_near_side {mode : Mode} {fault : Fault} (aloof : backend.Aloof)
    (run : World.nearSide.Run before (execute allowance backend mode) events after
      (.done (.error fault)))
    (other : ∀ e, fault ≠ .restoreTerminal e) : Untouched before events after := by
  have refuses : backend.RefusesWith (fun _ => True) World.nearSide := fun _ _ _ _ _ => trivial
  obtain ⟨deeds, doings, course⟩ := (execute_proceeds refuses mode).finished run
  refine doings.untouched aloof fun target result member => ?_
  exact ⟨fault, course.failed_last target result member, other⟩

theorem Backend.outside_aloof : Backend.outside.Aloof where
  allocate := by
    refine ⟨nofun, fun refused => ?_⟩
    cases refused with
    | some fault => exact trivial
    | none => exact allocate_asks.mono (by decide)
  attach _ _ _ := ⟨nofun, fun _ => trivial⟩
  steal _ := ⟨nofun, fun _ => trivial⟩
  explain := ⟨nofun, fun _ => trivial⟩

theorem Backend.system_aloof : Backend.system.Aloof where
  allocate := allocate_asks.mono (by decide)
  attach pid slave forceStdio := (systemAttach_asks pid slave forceStdio).mono (by decide)
  steal pid := (systemSteal_asks pid).mono (by decide)
  explain := systemExplain_asks.mono (by decide)

def sampleSide : NearSide :=
  ⟨.initial, .quiet .empty⟩

def refusedRawMode : List Event :=
  [⟨.refusesPty, none⟩, ⟨.openMaster, .ok (.opened 3)⟩, ⟨.grantSlave (.opened 3), .ok ()⟩,
    ⟨.unlockSlave (.opened 3), .ok ()⟩, ⟨.slaveName (.opened 3), .ok "/dev/pts/7"⟩,
    ⟨.closeOnExec (.opened 3), .ok ()⟩, ⟨.log (.allocated "/dev/pts/7"), ()⟩,
    ⟨.log (.attaching samplePid "/dev/pts/7"), ()⟩,
    ⟨.attach samplePid "/dev/pts/7" false, .ok ()⟩, ⟨.readAttributes .terminal, .ok .initial⟩,
    ⟨.writeAttributes .terminal (Attributes.initial.snapshot.raw), .error .notPermitted⟩]

theorem refusedRawMode_run :
    World.nearSide.Run sampleSide (execute ⟨1, 1⟩ .outside (.attach samplePid false))
      refusedRawMode sampleSide (.done (.error (.rawMode .notPermitted))) :=
  .inPlace _ rfl <| .inPlace _ rfl <| .inPlace _ rfl <| .inPlace _ rfl <| .inPlace _ rfl <|
  .inPlace _ rfl <| .inPlace _ rfl <| .inPlace _ rfl <| .inPlace _ rfl <|
  .inPlace _ ⟨rfl, rfl⟩ <| .inPlace _ rfl .here

theorem refusedRawMode_untouched :
    World.nearSide.Run sampleSide (execute ⟨1, 1⟩ .outside (.attach samplePid false))
        refusedRawMode sampleSide (.done (.error (.rawMode .notPermitted))) ∧
      Untouched sampleSide refusedRawMode sampleSide :=
  ⟨refusedRawMode_run,
    failed_mode_leaves_near_side Backend.outside_aloof refusedRawMode_run nofun⟩

end TerminalRelay
