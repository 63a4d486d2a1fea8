import Mathlib
import IdentityGroups.Proofs.Program.Cut

/-! # Runs with one fault

One call of a run, whichever, meets a fault in place of its handler: calls are counted down to it. What
every end of a run is to have, wherever the fault falls or if it falls nowhere, is proved along the run
without a fault.
-/

namespace IdentityGroups.Program
variable {Op : Type} {Answer : Op → Type} {α β σ τ : Type} {handler fault : (op : Op) → σ → Answer op × σ}
  {handler' fault' : (op : Op) → τ → Answer op × τ} {Q : α → σ → Prop} {p : Program Answer α} {s : σ}

/-- Answers as the handler does, but for the call that the countdown comes to. -/
def faulting (handler fault : (op : Op) → σ → Answer op × σ) (op : Op) :
    Option Nat × σ → Answer op × (Option Nat × σ)
  | (some 0, s) => ((fault op s).1, none, (fault op s).2)
  | (some (k + 1), s) => ((handler op s).1, some k, (handler op s).2)
  | (none, s) => ((handler op s).1, none, (handler op s).2)

/-- The run without a fault and every run in which one call meets it end in `Q`. -/
def Despite (handler fault : (op : Op) → σ → Answer op × σ) (Q : α → σ → Prop) : Program Answer α → σ → Prop
  | done a, s => Q a s
  | call op next, s =>
    Q ((next (fault op s).1).run handler (fault op s).2).1
        ((next (fault op s).1).run handler (fault op s).2).2 ∧
      (next (handler op s).1).Despite handler fault Q (handler op s).2

theorem run_faulting_none (handler fault : (op : Op) → σ → Answer op × σ) (p : Program Answer α) (s : σ) :
    p.run (faulting handler fault) (none, s) = ((p.run handler s).1, none, (p.run handler s).2) := by
  induction p generalizing s with
  | done a => rfl
  | call op next ih => exact ih _ _

theorem Despite.run (h : p.Despite handler fault Q s) (k : Nat) :
    Q (p.run (faulting handler fault) (some k, s)).1 (p.run (faulting handler fault) (some k, s)).2.2 := by
  induction p generalizing s k with
  | done a => exact h
  | call op next ih =>
    cases k with
    | zero =>
      -- The fault is met here, and the countdown ends with it.
      have hrun := run_faulting_none handler fault (next (fault op s).1) (fault op s).2
      rw [run_call, faulting, hrun]
      exact h.1
    | succ k => exact ih _ h.2 k

theorem Despite.map {R : β → σ → Prop} (f : α → β) (h : p.Despite handler fault Q s)
    (hf : ∀ a s, Q a s → R (f a) s) : (p >>= fun a => done (f a)).Despite handler fault R s := by
  induction p generalizing s with
  | done a => exact hf a s h
  | call op next ih =>
    refine ⟨?_, ih _ h.2⟩
    have hrun := run_bind handler (next (fault op s).1) (fun a => done (f a)) (fault op s).2
    change R ((next (fault op s).1 >>= fun a => done (f a)).run handler (fault op s).2).1
      ((next (fault op s).1 >>= fun a => done (f a)).run handler (fault op s).2).2
    rw [hrun]
    exact hf _ _ h.1

/-- Handlers and faults that answer alike from related states do so however far the countdown is. -/
theorem faulting_related {R : σ → τ → Prop}
    (hh : ∀ op s t, R s t → (handler op s).1 = (handler' op t).1 ∧ R (handler op s).2 (handler' op t).2)
    (hf : ∀ op s t, R s t → (fault op s).1 = (fault' op t).1 ∧ R (fault op s).2 (fault' op t).2)
    (op : Op) (c : Option Nat × σ) (d : Option Nat × τ) (h : c.1 = d.1 ∧ R c.2 d.2) :
    (faulting handler fault op c).1 = (faulting handler' fault' op d).1 ∧
      (faulting handler fault op c).2.1 = (faulting handler' fault' op d).2.1 ∧
      R (faulting handler fault op c).2.2 (faulting handler' fault' op d).2.2 := by
  obtain ⟨n, s⟩ := c
  obtain ⟨_, t⟩ := d
  obtain ⟨rfl, hst⟩ := h
  rcases n with _ | _ | k
  · exact ⟨(hh op s t hst).1, rfl, (hh op s t hst).2⟩
  · exact ⟨(hf op s t hst).1, rfl, (hf op s t hst).2⟩
  · exact ⟨(hh op s t hst).1, rfl, (hh op s t hst).2⟩

end IdentityGroups.Program
