import TerminalRelay.Proofs.Outcomes
import TerminalRelay.Takeover.Execution

/-! Starting a command on a host that lets it start. The path of the new pty is printed as a
whole, and then just one child is started, which is told that path. -/

namespace TerminalRelay

def Event.printed : Event → Bytes
  | ⟨.print text, .ok taken⟩ => text.take taken
  | _ => []

def Event.launch? : Event → Option Launch
  | ⟨.start launch, _⟩ => some launch
  | _ => none

def printedBy (events : List Event) : Bytes :=
  events.flatMap Event.printed

def launches (events : List Event) : List Launch :=
  events.filterMap Event.launch?

@[simp] theorem printedBy_nil : printedBy [] = [] := rfl

@[simp] theorem launches_nil : launches [] = [] := rfl

@[simp] theorem printedBy_cons (event : Event) (events : List Event) :
    printedBy (event :: events) = event.printed ++ printedBy events := rfl

@[simp] theorem printedBy_append (events later : List Event) :
    printedBy (events ++ later) = printedBy events ++ printedBy later :=
  List.flatMap_append

@[simp] theorem launches_append (events later : List Event) :
    launches (events ++ later) = launches events ++ launches later :=
  List.filterMap_append

def announcement (slave : String) : Bytes :=
  Text.encode "Opened a new pty: " ++ Text.encode slave ++ Text.encode "\n"

/-- An answer of a host on which a pty is made whose slave has this name, the output takes
something of whatever it is offered or is interrupted, and the slave can be opened. -/
def Obliges (slave : String) : (request : Request) → request.Answer → Prop
  | .openMaster, answer => ∃ master, answer = .ok master
  | .grantSlave _, answer | .unlockSlave _, answer | .closeOnExec _, answer => answer = .ok ()
  | .slaveName _, answer => answer = .ok slave
  | .refusesPty, answer => answer = none
  | .print text, .ok taken => taken ≤ text.length ∧ (text ≠ [] → 0 < taken)
  | .print _, .error failure => failure.isInterruption
  | .flush, answer => answer = .ok ()
  | .openSlave _ _, answer | .duplicate _, answer => ∃ descriptor, answer = .ok descriptor
  | _, _ => True

def interruptions : (request : Request) → request.Answer → Nat
  | .print _, .error _ => 1
  | _, _ => 0

/-- A host that lets a command be started. The state counts the interruptions still to come. -/
def obliging (slave : String) : World Nat where
  outside _ _ _ := False
  answers left request answer after :=
    Obliges slave request answer ∧ after + interruptions request answer = left

namespace obliging
variable {slave : String} {left : Nat}

theorem left_le {α : Type} {before after : Nat} {program rest : Program α} {events : List Event}
    (run : (obliging slave).Run before program events after rest) : after ≤ before := by
  induction run with
  | here => exact Nat.le_refl _
  | outside happens _ _ => exact happens.elim
  | answered answer answers _ ih =>
    have counted := answers.2
    omega

theorem exists_answer (slave : String) (left : Nat) (request : Request) :
    ∃ answer after, (obliging slave).answers left request answer after := by
  have obliged : ∃ answer, Obliges slave request answer ∧ interruptions request answer = 0 := by
    cases request with
    | openMaster | openSlave | duplicate => exact ⟨.ok .input, ⟨_, rfl⟩, rfl⟩
    | grantSlave | unlockSlave | closeOnExec | flush => exact ⟨.ok (), rfl, rfl⟩
    | slaveName => exact ⟨.ok slave, rfl, rfl⟩
    | refusesPty => exact ⟨none, rfl, rfl⟩
    | print text => exact ⟨.ok text.length, ⟨Nat.le_refl _, List.length_pos_iff.mpr⟩, rfl⟩
    | takeFlag => exact ⟨false, trivial, rfl⟩
    | unwatchResize | explain | complain | startLog | log => exact ⟨(), trivial, rfl⟩
    | watchResize | start | readFile => exact ⟨.error (.ofErrno .notImplemented), trivial, rfl⟩
    | _ => exact ⟨.error .notImplemented, trivial, rfl⟩
  obtain ⟨answer, obliges, quiet⟩ := obliged
  exact ⟨answer, left, obliges, by rw [quiet, Nat.add_zero]⟩

theorem ask {α : Type} {request : Request} {next : request.Answer → Program α}
    {outcome : List Event → Nat → α → Prop}
    (each : ∀ answer after, (obliging slave).answers left request answer after →
      (obliging slave).Brings after (next answer) fun events final value =>
        outcome (⟨request, answer⟩ :: events) final value) :
    (obliging slave).Brings left (.ask request next) outcome :=
  World.Brings.ask id (exists_answer slave left request) each

theorem printPiece_brings {patience : Nat} {text : Bytes}
    (enough : text.length + left ≤ patience) :
    (obliging slave).Brings left (printPiece patience text) fun events after result =>
      result = .ok () ∧ printedBy events = text ∧ launches events = [] ∧ after ≤ left := by
  induction patience generalizing text left with
  | zero =>
    obtain rfl : text = [] := List.length_eq_zero_iff.mp (by omega)
    exact ⟨rfl, rfl, rfl, Nat.le_refl _⟩
  | succ patience ih =>
    cases text with
    | nil => exact ⟨rfl, rfl, rfl, Nat.le_refl _⟩
    | cons first others =>
      simp only [printPiece]
      apply ask
      intro answer after ⟨obliges, counted⟩
      match answer with
      | .ok 0 => exact absurd (obliges.2 (List.cons_ne_nil _ _)) (Nat.lt_irrefl 0)
      | .ok (taken + 1) =>
        obtain rfl : after = left := counted
        have most : taken + 1 ≤ (first :: others).length := obliges.1
        have shorter : ((first :: others).drop (taken + 1)).length + after ≤ patience := by
          rw [List.length_drop]
          omega
        apply (ih shorter).mono
        intro events final result ⟨ok, printed, silent, fewer⟩
        refine ⟨ok, ?_, silent, fewer⟩
        rw [printedBy_cons, printed]
        exact List.take_append_drop (taken + 1) (first :: others)
      | .error failure =>
        have used : after + 1 = left := counted
        have again : (first :: others).length + after ≤ patience := by omega
        have interrupted : failure.isInterruption = true := obliges
        change (obliging slave).Brings after (if failure.isInterruption then
          printPiece patience (first :: others) else _) _
        rw [if_pos interrupted]
        apply (ih again).mono
        intro events final result ⟨ok, printed, silent, fewer⟩
        exact ⟨ok, printed, silent, by omega⟩

theorem printPieces_brings {patience : Nat} {pieces : List String}
    (enough : ∀ piece ∈ pieces, (Text.encode piece).length + left ≤ patience) :
    (obliging slave).Brings left (printPieces patience pieces) fun events after result =>
      result = .ok () ∧ printedBy events = pieces.flatMap Text.encode ∧
        launches events = [] ∧ after ≤ left := by
  induction pieces generalizing left with
  | nil => exact ⟨rfl, rfl, rfl, Nat.le_refl _⟩
  | cons piece pieces ih =>
    obtain ⟨first, others⟩ := List.forall_mem_cons.mp enough
    rw [printPieces]
    apply (printPiece_brings first).bind
    rintro events between _ ⟨rfl, printed, silent, fewer⟩
    have later : ∀ other ∈ pieces, (Text.encode other).length + between ≤ patience := by
      intro other member
      have covered := others other member
      omega
    apply (ih later).mono
    intro more after result ⟨ok, rest, quiet, least⟩
    refine ⟨ok, ?_, by rw [launches_append, silent, quiet]; rfl, Nat.le_trans least fewer⟩
    rw [printedBy_append, printed, rest, List.flatMap_cons]

theorem announce_brings {patience : Nat}
    (enough : (announcement slave).length + left ≤ patience) :
    (obliging slave).Brings left (announce patience slave) fun events _ result =>
      result = .ok () ∧ printedBy events = announcement slave ∧ launches events = [] := by
  have pieces : ["Opened a new pty: ", slave, "\n"].flatMap Text.encode = announcement slave := by
    simp [announcement]
  have covered : ∀ piece ∈ ["Opened a new pty: ", slave, "\n"],
      (Text.encode piece).length + left ≤ patience := by
    simp only [announcement, List.length_append] at enough
    intro piece member
    simp only [List.mem_cons, List.not_mem_nil, or_false] at member
    rcases member with rfl | rfl | rfl <;> omega
  rw [announce]
  apply (printPieces_brings covered).bind
  rintro events between _ ⟨rfl, printed, silent, -⟩
  apply ask
  rintro answer after ⟨rfl, -⟩
  refine ⟨rfl, ?_, ?_⟩
  · rw [printedBy_append, printed, pieces]
    exact List.append_nil _
  · rw [launches_append, silent]
    rfl

theorem openStreams_brings :
    (obliging slave).Brings left (openStreams slave) fun events _ result =>
      (∃ streams, result = .ok streams) ∧ printedBy events = [] ∧ launches events = [] := by
  unfold openStreams
  apply ask
  rintro _ after ⟨⟨reader, rfl⟩, -⟩
  apply ask
  rintro _ after ⟨⟨writer, rfl⟩, -⟩
  apply ask
  rintro _ after ⟨⟨copy, rfl⟩, -⟩
  exact ⟨⟨_, rfl⟩, rfl, rfl⟩

theorem streamsFor_brings (redirect : Bool) :
    (obliging slave).Brings left (streamsFor slave redirect) fun events _ result =>
      ∃ streams, result = .ok streams ∧ streams.isSome = redirect ∧ printedBy events = [] ∧
        launches events = [] := by
  cases redirect with
  | false => exact ⟨none, rfl, rfl, rfl, rfl⟩
  | true =>
    change (obliging slave).Brings left (openStreams slave >>= _) _
    apply openStreams_brings.bind
    rintro events between _ ⟨⟨streams, rfl⟩, printed, silent⟩
    exact ⟨some streams, rfl, rfl, by simpa using printed, by simpa using silent⟩

theorem spawn_brings (redirect : Bool) (program : Bytes) (arguments : List Bytes) :
    (obliging slave).Brings left (spawn slave redirect (program :: arguments))
      fun events _ _ => printedBy events = [] ∧ ∃ streams, streams.isSome = redirect ∧
        launches events = [⟨program, arguments, slave, streams⟩] := by
  rw [spawn]
  apply (streamsFor_brings redirect).bind
  rintro events between _ ⟨streams, rfl, given, printed, silent⟩
  apply ask
  intro answer after _
  cases answer with
  | error failure =>
    refine ⟨by rw [printedBy_append, printed]; rfl, streams, given, ?_⟩
    rw [launches_append, silent]
    rfl
  | ok child =>
    apply ask
    intro _ final _
    refine ⟨by rw [printedBy_append, printed]; rfl, streams, given, ?_⟩
    rw [launches_append, silent]
    rfl

theorem pty_brings :
    (obliging slave).Brings left Pty.allocate fun events _ result =>
      (∃ master, result = .ok ⟨master, slave⟩) ∧ printedBy events = [] ∧
        launches events = [] := by
  unfold Pty.allocate
  apply ask
  rintro _ opened ⟨⟨master, rfl⟩, -⟩
  apply ask
  rintro _ granted ⟨rfl, -⟩
  apply ask
  rintro _ unlocked ⟨rfl, -⟩
  apply ask
  rintro _ named ⟨rfl, -⟩
  apply ask
  rintro _ closed ⟨rfl, -⟩
  apply ask
  intro _ final _
  exact ⟨⟨master, rfl⟩, rfl, rfl⟩

end obliging

/-- A backend that makes a pty of this name on a host that lets it, and does no more. -/
def Backend.Makes (backend : Backend) (slave : String) (left : Nat) : Prop :=
  (obliging slave).Brings left backend.allocate fun events _ result =>
    (∃ master, result = .ok ⟨master, slave⟩) ∧ printedBy events = [] ∧ launches events = []

theorem Backend.system_makes (slave : String) (left : Nat) :
    Backend.system.Makes slave left :=
  obliging.pty_brings

theorem Backend.outside_makes (slave : String) (left : Nat) :
    Backend.outside.Makes slave left := by
  apply obliging.ask
  rintro _ after ⟨rfl, -⟩
  exact obliging.pty_brings

/-- The pty is announced as a whole, and then the command is asked for as it stands. -/
theorem execute_create_brings {allowance : Allowance} {backend : Backend} {slave : String}
    {left : Nat} (makes : backend.Makes slave left)
    (enough : (announcement slave).length + left ≤ allowance.patience) (redirect : Bool)
    (program : Bytes) (arguments : List Bytes) :
    (obliging slave).Brings left
      (execute allowance backend (.create redirect (program :: arguments)))
      fun events _ _ => printedBy events = announcement slave ∧
        ∃ streams, streams.isSome = redirect ∧
          launches events = [⟨program, arguments, slave, streams⟩] := by
  rw [execute, executeCreate]
  apply makes.withRun.bind
  rintro allocating made _ ⟨⟨⟨master, rfl⟩, unprinted, unstarted⟩, run⟩
  have covered : (announcement slave).length + made ≤ allowance.patience := by
    have fewer := obliging.left_le run
    omega
  apply (obliging.announce_brings covered).bind
  rintro announcing between _ ⟨rfl, printed, silent⟩
  apply (obliging.spawn_brings redirect program arguments).bind
  rintro starting final outcome ⟨quiet, streams, given, launched⟩
  cases outcome
  all_goals
    refine ⟨?_, streams, given, ?_⟩
    · simp [unprinted, printed, quiet]
    · simp [unstarted, silent, launched]

end TerminalRelay
