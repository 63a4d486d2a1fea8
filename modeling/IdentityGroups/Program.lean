/-! # Programs that call on others

A program either is done or calls an operation and goes on with the answer. Nothing is said about
who answers: a store, a script, an adversary, or several programs taking turns. A handler with a
state turns a program into a function of that state (`run`).
-/

namespace IdentityGroups

inductive Program {Op : Type} (Answer : Op → Type) (α : Type) where
  | done (a : α)
  | call (op : Op) (next : Answer op → Program Answer α)

namespace Program
variable {Op Op' : Type} {Answer : Op → Type} {Answer' : Op' → Type} {α β γ σ : Type}

def bind : (p : Program Answer α) → (f : α → Program Answer β) → Program Answer β
  | done a, f => f a
  | call op next, f => call op fun b => (next b).bind f

instance : Monad (Program Answer) where
  pure := done
  bind := bind

def ask (op : Op) : Program Answer (Answer op) := call op done

@[simp] theorem done_bind (a : α) (f : α → Program Answer β) : done a >>= f = f a := rfl

@[simp] theorem call_bind (op : Op) (next : Answer op → Program Answer α)
    (f : α → Program Answer β) : call op next >>= f = call op fun b => next b >>= f := rfl

theorem bind_done (p : Program Answer α) : p >>= done = p := by
  induction p with
  | done a => rfl
  | call op next ih => exact congrArg (call op) (funext ih)

theorem bind_bind (p : Program Answer α) (f : α → Program Answer β) (g : β → Program Answer γ) :
    p >>= f >>= g = p >>= fun a => f a >>= g := by
  induction p with
  | done a => rfl
  | call op next ih => exact congrArg (call op) (funext ih)

instance : LawfulMonad (Program Answer) :=
  LawfulMonad.mk' _ (fun p => bind_done p) (fun _ _ => rfl) bind_bind

def lift (into : Op → Op') (back : ∀ op, Answer' (into op) → Answer op) :
    Program Answer α → Program Answer' α
  | done a => done a
  | call op next => call (into op) fun b => (next (back op b)).lift into back

def run (handler : (op : Op) → σ → Answer op × σ) : Program Answer α → σ → α × σ
  | done a, s => (a, s)
  | call op next, s =>
    let (b, s) := handler op s
    (next b).run handler s

@[simp] theorem run_done (handler : (op : Op) → σ → Answer op × σ) (a : α) (s : σ) :
    (done a : Program Answer α).run handler s = (a, s) := rfl

@[simp] theorem run_call (handler : (op : Op) → σ → Answer op × σ) (op : Op)
    (next : Answer op → Program Answer α) (s : σ) :
    (call op next).run handler s = (next (handler op s).1).run handler (handler op s).2 := rfl

theorem run_bind (handler : (op : Op) → σ → Answer op × σ) (p : Program Answer α)
    (f : α → Program Answer β) (s : σ) :
    (p >>= f).run handler s = (f (p.run handler s).1).run handler (p.run handler s).2 := by
  induction p generalizing s with
  | done a => rfl
  | call op next ih => exact ih _ _

end Program

end IdentityGroups
