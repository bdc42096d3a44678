import TerminalRelay.Proofs.Faults
import TerminalRelay.Proofs.Relay.Rounds
import TerminalRelay.Proofs.Resize.Indifference

/-! What a session does about sizes: it sets one when its watcher is installed, and one for each
time that the flag was found raised. Each is the one that the terminal reports just then, or the
fallback if that is of no use. -/

namespace TerminalRelay

def WindowSize.due : Except Errno (UInt16 × UInt16 × UInt16 × UInt16) →
    UInt16 × UInt16 × UInt16 × UInt16
  | .ok (rows, columns, width, height) =>
    if rows ≠ 0 ∧ columns ≠ 0 then (rows, columns, width, height) else (30, 80, 0, 0)
  | .error _ => (30, 80, 0, 0)

inductive Setting (target : Descriptor) : List Event → Prop
  | set {size : WindowSize} (reported : Except Errno WindowSize) (answer : Except Errno Unit)
      (due : size.toRecord = WindowSize.due (reported.map WindowSize.toRecord)) :
      Setting target (⟨.readSize .terminal, reported⟩ :: (sizeNotices reported ++
        [⟨.writeSize target size, answer⟩, ⟨.log (copyNotice size answer), ()⟩]))

/-- The flag is taken again and again, and a size is set each time that it was raised. -/
inductive Followed (target : Descriptor) (flag : Nat) : List Event → Prop
  | none : Followed target flag []
  | lowered {later : List Event} (rest : Followed target flag later) :
      Followed target flag (⟨.takeFlag flag, false⟩ :: later)
  | raised {set later : List Event} (setting : Setting target set)
      (rest : Followed target flag later) :
      Followed target flag (⟨.takeFlag flag, true⟩ :: (set ++ later))

/-- What a relay and its watcher do about sizes. There is no relay without a watcher, and a
watcher sets one size before it looks at its flag. -/
inductive Watching (target : Descriptor) : List Event → Ending → Prop
  | unblocked (e : Errno) : Watching target [⟨.block .resize, .error e⟩] .resizeUnavailable
  | unwatched (previous : SignalSet) (failure : IoFailure) :
      Watching target [⟨.block .resize, .ok previous⟩, ⟨.watchResize, .error failure⟩]
        .resizeUnavailable
  | watched {previous : SignalSet} {flag : Nat} {set later : List Event} {ending : Ending}
      (relayed : ending ≠ .resizeUnavailable) (setting : Setting target set)
      (followed : Followed target flag later) :
      Watching target
        (⟨.block .resize, .ok previous⟩ :: ⟨.watchResize, .ok flag⟩ :: (set ++ later)) ending

/-- What a session does about sizes: nothing if the terminal refuses raw mode, and only then. -/
inductive Kept (target : Descriptor) : List Event → Except Fault Ending → Prop
  | refused (e : Errno) : Kept target [] (.error (.rawMode e))
  | restored {events : List Event} {ending : Ending} (watching : Watching target events ending) :
      Kept target events (.ok ending)
  | unrestored {events : List Event} {ending : Ending} (e : Errno)
      (watching : Watching target events ending) : Kept target events (.error (.restoreTerminal e))

def sizing (events : List Event) : List Event :=
  events.filter fun event => event.request.sizes

theorem WindowSize.toRecord_effective (reported : Except Errno WindowSize) :
    (effective reported).toRecord = due (reported.map toRecord) := by
  cases reported with
  | error e => rfl
  | ok size =>
    have usable : size.isUsable = true ↔ size.rows ≠ 0 ∧ size.columns ≠ 0 := by
      simp [isUsable, UInt16.pos_iff_ne_zero]
    change (if size.isUsable then size else fallback).toRecord = if _ then _ else _
    by_cases own : size.isUsable = true
    · rw [if_pos own, if_pos (usable.mp own)]
      rfl
    · rw [if_neg own, if_neg (mt usable.mpr own)]
      rfl

theorem sizing_cons (event : Event) (events : List Event) :
    sizing (event :: events) =
      if event.request.sizes then event :: sizing events else sizing events :=
  List.filter_cons

theorem sizing_append (events later : List Event) :
    sizing (events ++ later) = sizing events ++ sizing later :=
  List.filter_append events later

theorem sizing_eq_nil {events : List Event}
    (unsized : ∀ event ∈ events, ¬ event.request.sizes = true) : sizing events = [] :=
  List.filter_eq_nil_iff.mpr unsized

/-- Whatever a program is answered, what it does about sizes is of this shape. -/
def Program.Sized {α : Type} (program : Program α) (shape : List Event → α → Prop) : Prop :=
  program.Shaped fun events value => shape (sizing events) value

namespace Program.Sized
variable {α β : Type} {program : Program α} {shape : List Event → α → Prop}

theorem ask {request : Request} {next : request.Answer → Program α}
    (sizes : request.sizes = true) (rest : ∀ answer, (next answer).Sized fun events =>
      shape (⟨request, answer⟩ :: events)) : (Program.ask request next).Sized shape := by
  intro answer
  apply (rest answer).mono
  intro events value holds
  change shape (sizing (_ :: events)) value
  rwa [sizing_cons, if_pos sizes]

theorem pass {request : Request} {next : request.Answer → Program α}
    (unsized : request.sizes = false) (rest : ∀ answer, (next answer).Sized shape) :
    (Program.ask request next).Sized shape := by
  intro answer
  apply (rest answer).mono
  intro events value holds
  change shape (sizing (_ :: events)) value
  rwa [sizing_cons, if_neg (Bool.eq_false_iff.mp unsized)]

theorem bind {next : α → Program β} {final : List Event → β → Prop} (first : program.Sized shape)
    (rest : ∀ events value, shape events value →
      (next value).Sized fun later result => final (events ++ later) result) :
    (program >>= next).Sized final := by
  refine Shaped.bind first fun events value holds => ?_
  apply (rest (sizing events) value holds).mono
  intro later result whole
  rwa [sizing_append]

theorem of_avoids {kind : α → Prop} (unsized : program.Avoids fun request => request.sizes = true)
    (concludes : program.Concludes fun _ => kind) (value : α) (possible : kind value) :
    program.Sized fun events result => events = [] ∧ kind result := by
  induction program with
  | done result => exact ⟨rfl, concludes⟩
  | unfinished => exact ⟨[], value, rfl, possible⟩
  | ask request next ih =>
    exact pass (Bool.eq_false_iff.mpr unsized.1) fun answer => ih answer (unsized.2 answer)
      (concludes answer)

end Program.Sized

section
variable {target : Descriptor} {flag : Nat} {events later : List Event}

theorem Followed.append (first : Followed target flag events)
    (second : Followed target flag later) : Followed target flag (events ++ later) := by
  induction first with
  | none => exact second
  | lowered _ ih => exact .lowered ih
  | raised setting _ ih =>
    rw [List.cons_append, List.append_assoc]
    exact .raised setting ih

/-! Each part of a session does its part about sizes. -/

theorem copySize_sized (target : Descriptor) :
    (copySize .terminal target).Sized fun events _ => Setting target events := by
  refine .ask rfl fun reported => ?_
  have due := WindowSize.toRecord_effective reported
  cases reported with
  | ok size =>
    refine .ask rfl fun answer => ?_
    cases answer <;> exact .ask rfl fun _ => .set (.ok size) _ due
  | error e =>
    refine .ask rfl fun _ => .ask rfl fun answer => ?_
    cases answer <;> exact .ask rfl fun _ => .set (.error e) _ due

theorem service_sized (watcher : ResizeWatcher) (source : watcher.source = .terminal) :
    watcher.service.Sized fun events _ => Followed watcher.target watcher.flag events := by
  refine .ask rfl fun raised => ?_
  cases raised with
  | false => exact .lowered .none
  | true =>
    change Program.Sized (copySize watcher.source watcher.target >>= _) _
    rw [source]
    apply (copySize_sized watcher.target).bind
    exact fun events _ setting => .raised setting .none

theorem Rounds.followed {watcher : ResizeWatcher} {ending : Ending}
    (course : Rounds watcher.target watcher events ending) (source : watcher.source = .terminal) :
    Followed watcher.target watcher.flag (sizing events) := by
  have attended {served : List Event} (service : Service watcher served) :
      Followed watcher.target watcher.flag (sizing served) := by
    obtain ⟨resized, run⟩ := service.run
    exact (Program.Shaped.concludes (service_sized watcher source)).run run
  have moves {ready : Readiness} {moved : List Event} {ending : Option Ending}
      (exchange : Exchange watcher.target ready moved ending) : sizing moved = [] := by
    obtain ⟨result, -, run⟩ := exchange.run (Nat.le_refl _) blankBuffer
    exact sizing_eq_nil ((exchange_unsized _ _ _ _).run run)
  induction course with
  | interrupted service rest ih =>
    rw [sizing_append, sizing_cons]
    exact (attended service).append ih
  | waitFailed service other =>
    rw [sizing_append]
    exact (attended service).append .none
  | closed service exchange =>
    rw [sizing_append, sizing_cons, moves exchange]
    exact (attended service).append .none
  | exchanged service exchange rest ih =>
    rw [sizing_append, sizing_cons, sizing_append, moves exchange]
    exact (attended service).append ih

theorem Rounds.relayed {watcher : ResizeWatcher} {ending : Ending}
    (course : Rounds target watcher events ending) : ending ≠ .resizeUnavailable := by
  induction course with
  | interrupted _ _ ih => exact ih
  | waitFailed => exact nofun
  | closed _ exchange => cases exchange <;> exact nofun
  | exchanged _ _ _ ih => exact ih

theorem install_sized (target : Descriptor) :
    (ResizeWatcher.install .terminal target).Sized fun events installed =>
      match installed with
        | .error _ => Watching target events .resizeUnavailable
        | .ok watcher => watcher.source = .terminal ∧ watcher.target = target ∧
            ∃ previous set, Setting target set ∧
              events = ⟨.block .resize, .ok previous⟩ :: ⟨.watchResize, .ok watcher.flag⟩ :: set := by
  refine .ask rfl fun blocked => ?_
  cases blocked with
  | error e => exact Watching.unblocked e
  | ok previous =>
    refine .ask rfl fun watched => ?_
    cases watched with
    | error failure => exact .pass rfl fun _ => Watching.unwatched previous failure
    | ok flag =>
      apply (copySize_sized target).bind
      intro set _ setting
      have ended : set ++ [] = set := List.append_nil set
      exact ⟨rfl, rfl, previous, set, setting, congrArg (_ :: _ :: ·) ended⟩

theorem relaySession_sized (allowance : Allowance) (target : Descriptor) :
    (relaySession allowance target).Sized (Watching target) := by
  apply (install_sized target).bind
  intro installing installed shape
  cases installed with
  | error fault =>
    refine .pass rfl fun _ => ?_
    change Watching target (installing ++ []) .resizeUnavailable
    rwa [List.append_nil]
  | ok watcher =>
    obtain ⟨source, rfl, previous, set, setting, rfl⟩ := shape
    have relays : (relay allowance.patience watcher.target watcher allowance.rounds
        blankBuffer).Sized fun events ending =>
          Followed watcher.target watcher.flag events ∧ ending ≠ .resizeUnavailable :=
      (relay_shaped _ _ _).mono fun _ _ course => ⟨course.followed source, course.relayed⟩
    apply relays.bind
    intro relaying ending ⟨followed, relayed⟩
    have removes : watcher.remove.Sized fun events _ => events = [] ∧ True :=
      .of_avoids (remove_unsized watcher) (.any _) () trivial
    apply removes.bind
    rintro _ _ ⟨rfl, -⟩
    change Watching watcher.target (_ ++ (relaying ++ [])) ending
    rw [List.append_nil]
    exact .watched relayed setting followed

theorem runHeld_sized (allowance : Allowance) (target : Descriptor) (held : RawMode) :
    (runHeld allowance target held).Sized (Kept target) := by
  refine .pass rfl fun _ => ?_
  apply (relaySession_sized allowance target).bind
  intro relaying ending watching
  rw [← List.append_nil relaying] at watching
  have releases := Program.Sized.of_avoids (release_unsized allowance.patience held)
    (release_blames allowance.patience held) _ (.ok ())
  apply releases.bind
  rintro _ released ⟨rfl, blames⟩
  cases released with
  | error fault =>
    obtain ⟨e, rfl⟩ := blames fault rfl
    exact .unrestored e watching
  | ok _ => exact .pass rfl fun _ => .restored watching

theorem runSession_sized (allowance : Allowance) (target : Descriptor) :
    (runSession allowance target).Sized (Kept target) := by
  have acquires := Program.Sized.of_avoids (acquire_unsized .terminal) (acquire_blames .terminal)
    _ (.error ⟨.notImplemented, rfl⟩)
  apply acquires.bind
  rintro _ acquired ⟨rfl, blames⟩
  cases acquired with
  | error fault =>
    obtain ⟨e, rfl⟩ := blames fault rfl
    exact .refused e
  | ok held => exact runHeld_sized allowance target held

end
end TerminalRelay
