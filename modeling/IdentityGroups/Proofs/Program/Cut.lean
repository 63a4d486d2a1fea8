import Mathlib
import IdentityGroups.Program

/-! # Runs that are cut off

A run may be over after any number of its calls. What holds of every state on the way holds wherever it
is cut off, and handlers that answer alike from related states cut alike.
-/

namespace IdentityGroups.Program
variable {Op : Type} {Answer : Op → Type} {α β σ τ : Type} {handler : (op : Op) → σ → Answer op × σ}
  {handler' : (op : Op) → τ → Answer op × τ}

def runFor (handler : (op : Op) → σ → Answer op × σ) : Nat → Program Answer α → σ → σ
  | 0, _, s => s
  | _ + 1, done _, s => s
  | k + 1, call op next, s => (next (handler op s).1).runFor handler k (handler op s).2

/-- The state before the run and the one after each call have the property `P`. -/
def Throughout (handler : (op : Op) → σ → Answer op × σ) (P : σ → Prop) : Program Answer α → σ → Prop
  | done _, s => P s
  | call op next, s => P s ∧ (next (handler op s).1).Throughout handler P (handler op s).2

variable {P : σ → Prop} {p : Program Answer α} {s : σ}

theorem Throughout.imp {Q : σ → Prop} (h : p.Throughout handler P s) (hpq : ∀ s, P s → Q s) :
    p.Throughout handler Q s := by
  induction p generalizing s with
  | done a => exact hpq s h
  | call op next ih => exact ⟨hpq s h.1, ih _ h.2⟩

theorem Throughout.runFor (h : p.Throughout handler P s) (k : Nat) : P (p.runFor handler k s) := by
  induction k generalizing p s with
  | zero =>
    cases p with
    | done a => exact h
    | call op next => exact h.1
  | succ k ih =>
    cases p with
    | done a => exact h
    | call op next => exact ih h.2

theorem Throughout.run (h : p.Throughout handler P s) : P (p.run handler s).2 := by
  induction p generalizing s with
  | done a => exact h
  | call op next ih => exact ih _ h.2

theorem Throughout.bind {f : α → Program Answer β} (h : p.Throughout handler P s)
    (hf : (f (p.run handler s).1).Throughout handler P (p.run handler s).2) :
    (p >>= f).Throughout handler P s := by
  induction p generalizing s with
  | done a => exact hf
  | call op next ih => exact ⟨h.1, ih _ h.2 hf⟩

theorem Throughout.map (f : α → β) (h : p.Throughout handler P s) :
    (p >>= fun a => done (f a)).Throughout handler P s := h.bind h.run

/-! ## Handlers that answer alike -/

section
variable {R : σ → τ → Prop} (h : ∀ op s t, R s t →
  (handler op s).1 = (handler' op t).1 ∧ R (handler op s).2 (handler' op t).2)
include h

theorem run_related (p : Program Answer α) {s : σ} {t : τ} (hst : R s t) :
    (p.run handler s).1 = (p.run handler' t).1 ∧ R (p.run handler s).2 (p.run handler' t).2 := by
  induction p generalizing s t with
  | done a => exact ⟨rfl, hst⟩
  | call op next ih =>
    obtain ⟨ha, hr⟩ := h op s t hst
    rw [run_call, run_call, ha]
    exact ih _ hr

theorem runFor_related (k : Nat) (p : Program Answer α) {s : σ} {t : τ} (hst : R s t) :
    R (p.runFor handler k s) (p.runFor handler' k t) := by
  induction k generalizing p s t with
  | zero => exact hst
  | succ k ih =>
    cases p with
    | done a => exact hst
    | call op next =>
      obtain ⟨ha, hr⟩ := h op s t hst
      rw [runFor, runFor, ha]
      exact ih _ hr

end

end IdentityGroups.Program
