import TerminalRelay.Program.Request

/-! Programs that talk to a host. A program is a tree: at each node it is done, or asks and
goes on with the answer, or has used up the steps that it was allowed. Every loop takes its
allowance as an argument, so a program never runs on by itself. -/

namespace TerminalRelay

/-- A program with a result in `α`. -/
inductive Program (α : Type) where
  | done (value : α)
  | ask (request : Request) (next : request.Answer → Program α)
  | unfinished

namespace Program

def bind {α β : Type} (first : Program α) (next : α → Program β) : Program β :=
  match first with
  | done value => next value
  | ask request rest => ask request fun answer => (rest answer).bind next
  | unfinished => unfinished

instance : Monad Program where
  pure := done
  bind := bind

def call (request : Request) : Program request.Answer :=
  ask request done

@[simp] theorem pure_eq_done {α : Type} (value : α) : (pure value : Program α) = done value := rfl

@[simp] theorem done_bind {α β : Type} (value : α) (next : α → Program β) :
    (done value >>= next) = next value := rfl

@[simp] theorem ask_bind {α β : Type} (request : Request) (rest : request.Answer → Program α)
    (next : α → Program β) :
    (ask request rest >>= next) = ask request fun answer => rest answer >>= next := rfl

@[simp] theorem unfinished_bind {α β : Type} (next : α → Program β) :
    ((unfinished : Program α) >>= next) = unfinished := rfl

@[simp] theorem call_bind {α : Type} (request : Request) (next : request.Answer → Program α) :
    (call request >>= next) = ask request next := rfl

theorem bind_done {α : Type} (program : Program α) : (program >>= done) = program := by
  induction program with
  | done value => rfl
  | ask request rest hypothesis => simp only [ask_bind, hypothesis]
  | unfinished => rfl

theorem bind_assoc {α β γ : Type} (program : Program α) (first : α → Program β)
    (second : β → Program γ) :
    ((program >>= first) >>= second) = (program >>= fun value => first value >>= second) := by
  induction program with
  | done value => rfl
  | ask request rest hypothesis => simp only [ask_bind, hypothesis]
  | unfinished => rfl

instance : LawfulMonad Program :=
  LawfulMonad.mk' Program bind_done (fun _ _ => rfl) bind_assoc

end Program

def note (notice : Notice) : Program Unit :=
  .call (.log notice)

end TerminalRelay
