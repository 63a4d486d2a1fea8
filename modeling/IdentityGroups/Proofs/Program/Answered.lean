import Mathlib
import IdentityGroups.Proofs.Program.Cut
import IdentityGroups.Proofs.Program.Transcript

/-! # Who answered a transcript

A transcript says what was answered, not by whom. That a handler gave the answers, going from one state to
another, is said apart; a run that is cut off anywhere has such a transcript.
-/

namespace IdentityGroups.Program
variable {Op : Type} {Answer : Op → Type} {α σ τ : Type} {handler : (op : Op) → σ → Answer op × σ}
  {handler' : (op : Op) → τ → Answer op × τ} {p : Program Answer α} {tr : List (Turn Answer)}

/-- The answers of the turns are those of the handler, which goes from the state `s` to `s'`. -/
def Answered (handler : (op : Op) → σ → Answer op × σ) : List (Turn Answer) → σ → σ → Prop
  | [], s, s' => s' = s
  | ⟨op, b⟩ :: tr, s, s' => b = (handler op s).1 ∧ Answered handler tr (handler op s).2 s'

theorem answered_cons_iff {op : Op} {b : Answer op} {s s' : σ} : Answered handler (⟨op, b⟩ :: tr) s s' ↔
    b = (handler op s).1 ∧ Answered handler tr (handler op s).2 s' := Iff.rfl

/-- Turns that one handler answers are answered by another that answers alike from related states. -/
theorem answered_related {R : σ → τ → Prop} (h : ∀ op s t, R s t →
      (handler op s).1 = (handler' op t).1 ∧ R (handler op s).2 (handler' op t).2)
    {s s' : σ} {t : τ} (ha : Answered handler tr s s') (hst : R s t) :
    ∃ t', Answered handler' tr t t' ∧ R s' t' := by
  induction tr generalizing s t with
  | nil =>
    obtain rfl : s' = s := ha
    exact ⟨t, rfl, hst⟩
  | cons turn tr ih =>
    obtain ⟨op, b⟩ := turn
    obtain ⟨rfl, ha⟩ := ha
    obtain ⟨hb, hr⟩ := h op s t hst
    obtain ⟨t', ha', hr'⟩ := ih ha hr
    exact ⟨t', ⟨hb, ha'⟩, hr'⟩

/-- A run to the end has a transcript. -/
theorem yields_run (handler : (op : Op) → σ → Answer op × σ) (p : Program Answer α) (s : σ) :
    ∃ tr, p.Yields tr (p.run handler s).1 ∧ Answered handler tr s (p.run handler s).2 := by
  induction p generalizing s with
  | done a => exact ⟨[], .start _, rfl⟩
  | call op next ih =>
    obtain ⟨tr, hyields, hanswered⟩ := ih (handler op s).1 (handler op s).2
    exact ⟨⟨op, (handler op s).1⟩ :: tr, .turn hyields, rfl, hanswered⟩

/-- The last turn is answered in some state, and leaves the one at the end. -/
theorem answered_getLast? {op : Op} {b : Answer op} {s s' : σ} (h : Answered handler tr s s')
    (hlast : tr.getLast? = some ⟨op, b⟩) : ∃ t, b = (handler op t).1 ∧ s' = (handler op t).2 := by
  induction tr generalizing s with
  | nil => cases hlast
  | cons turn tr ih =>
    obtain ⟨op', b'⟩ := turn
    obtain ⟨hb, hrest⟩ := answered_cons_iff.1 h
    cases tr with
    | nil =>
      cases hlast
      exact ⟨s, hb, hrest⟩
    | cons turn' tr =>
      rw [List.getLast?_cons_cons] at hlast
      exact ih hrest hlast

def left (handler : (op : Op) → σ → Answer op × σ) : Nat → Program Answer α → σ → Program Answer α
  | 0, p, _ => p
  | _ + 1, done a, _ => done a
  | k + 1, call op next, s => (next (handler op s).1).left handler k (handler op s).2

theorem reaches_left (handler : (op : Op) → σ → Answer op × σ) (k : Nat) (p : Program Answer α) (s : σ) :
    ∃ tr, p.Reaches tr (p.left handler k s) ∧ Answered handler tr s (p.runFor handler k s) := by
  induction k generalizing p s with
  | zero =>
    cases p with
    | done a => exact ⟨[], .start _, rfl⟩
    | call op next => exact ⟨[], .start _, rfl⟩
  | succ k ih =>
    cases p with
    | done a => exact ⟨[], .start _, rfl⟩
    | call op next =>
      obtain ⟨tr, hreaches, hanswered⟩ := ih (next (handler op s).1) (handler op s).2
      exact ⟨⟨op, (handler op s).1⟩ :: tr, .turn hreaches, rfl, hanswered⟩

def opening? : Program Answer α → Option Op
  | done _ => none
  | call op _ => some op

theorem opening?_eq_some_iff {op : Op} : p.opening? = some op ↔ ∃ next, p = call op next := by
  constructor
  · intro h
    cases p with
    | done a => cases h
    | call op' next =>
      cases h
      exact ⟨next, rfl⟩
  · rintro ⟨next, rfl⟩
    rfl

end IdentityGroups.Program
