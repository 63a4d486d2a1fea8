import Mathlib
import IdentityGroups.Program

/-! # Programs that take turns

Several programs share one handler and its state, and at each turn one of them, whichever, makes its next
call. What a program may rely on between its calls and what it guarantees of each of them are relations of
states; when all that is guaranteed by one program may be relied on by the others, a program that is secure
by itself is so under every order of the turns.
-/

namespace IdentityGroups.Program
variable {Op : Type} {Answer : Op → Type} {α β σ τ ι : Type}

def result? : Program Answer α → Option α
  | done a => some a
  | call _ _ => none

theorem result?_eq_some_iff {p : Program Answer α} {a : α} : p.result? = some a ↔ p = done a := by
  cases p <;> simp [result?]

section
variable [DecidableEq ι] {handler : (op : Op) → σ → Answer op × σ} {handler' : (op : Op) → τ → Answer op × τ}

def turn (handler : (op : Op) → σ → Answer op × σ) (i : ι) :
    (ι → Program Answer α) × σ → (ι → Program Answer α) × σ
  | (ps, s) =>
    match ps i with
    | done _ => (ps, s)
    | call op next => (Function.update ps i (next (handler op s).1), (handler op s).2)

def takeTurns (handler : (op : Op) → σ → Answer op × σ) (order : List ι)
    (c : (ι → Program Answer α) × σ) : (ι → Program Answer α) × σ :=
  order.foldl (fun c i => turn handler i c) c

theorem turn_of_done {ps : ι → Program Answer α} {s : σ} {i : ι} {a : α} (hi : ps i = done a) :
    turn handler i (ps, s) = (ps, s) := by
  simp only [turn, hi]

theorem turn_of_call {ps : ι → Program Answer α} {s : σ} {i : ι} {op : Op}
    {next : Answer op → Program Answer α} (hi : ps i = call op next) :
    turn handler i (ps, s) = (Function.update ps i (next (handler op s).1), (handler op s).2) := by
  simp only [turn, hi]

/-- What holds at first and is kept by each call holds after turns in any order. -/
theorem takeTurns_invariant {P : (ι → Program Answer α) → σ → Prop}
    (hstep : ∀ ps s i op next, P ps s → ps i = call op next →
      P (Function.update ps i (next (handler op s).1)) (handler op s).2)
    (order : List ι) {ps : ι → Program Answer α} {s : σ} (h : P ps s) :
    P (takeTurns handler order (ps, s)).1 (takeTurns handler order (ps, s)).2 := by
  induction order generalizing ps s with
  | nil => exact h
  | cons i order ih =>
    change P (takeTurns handler order (turn handler i (ps, s))).1
      (takeTurns handler order (turn handler i (ps, s))).2
    cases hi : ps i with
    | done a =>
      rw [turn_of_done hi]
      exact ih h
    | call op next =>
      rw [turn_of_call hi]
      exact ih (hstep ps s i op next h hi)

/-- Handlers that answer alike from related states lead the same programs the same way. -/
theorem takeTurns_related {R : σ → τ → Prop}
    (hR : ∀ op s t, R s t → (handler op s).1 = (handler' op t).1 ∧ R (handler op s).2 (handler' op t).2)
    (order : List ι) (ps : ι → Program Answer α) {s : σ} {t : τ} (hst : R s t) :
    (takeTurns handler order (ps, s)).1 = (takeTurns handler' order (ps, t)).1 ∧
      R (takeTurns handler order (ps, s)).2 (takeTurns handler' order (ps, t)).2 := by
  induction order generalizing ps s t with
  | nil => exact ⟨rfl, hst⟩
  | cons i order ih =>
    change (takeTurns handler order (turn handler i (ps, s))).1 =
        (takeTurns handler' order (turn handler' i (ps, t))).1 ∧
      R (takeTurns handler order (turn handler i (ps, s))).2
        (takeTurns handler' order (turn handler' i (ps, t))).2
    cases hi : ps i with
    | done a =>
      rw [turn_of_done hi, turn_of_done hi]
      exact ih ps hst
    | call op next =>
      obtain ⟨ha, hr⟩ := hR op s t hst
      rw [turn_of_call hi, turn_of_call hi, ha]
      exact ih _ hr

end

/-! ## Programs that come to an end -/

/-- The program makes at most `n` calls, whatever it is answered. -/
def Within : Nat → Program Answer α → Prop
  | _, done _ => True
  | 0, call _ _ => False
  | n + 1, call _ next => ∀ b, (next b).Within n

theorem Within.mono {p : Program Answer α} {m n : Nat} (h : p.Within m) (hmn : m ≤ n) : p.Within n := by
  induction p generalizing m n with
  | done a => cases n <;> exact trivial
  | call op next ih =>
    cases m with
    | zero => exact h.elim
    | succ m =>
      obtain ⟨n, rfl⟩ : ∃ k, n = k + 1 := ⟨n - 1, by omega⟩
      intro b
      exact ih b (h b) (by omega)

theorem Within.map {p : Program Answer α} {n : Nat} (f : α → β) (h : p.Within n) :
    (p >>= fun a => done (f a)).Within n := by
  induction p generalizing n with
  | done a => cases n <;> exact trivial
  | call op next ih =>
    cases n with
    | zero => exact h.elim
    | succ n =>
      intro b
      exact ih b (h b)

/-- A program that has had as many turns as it makes calls is done. -/
theorem takeTurns_done [DecidableEq ι] {handler : (op : Op) → σ → Answer op × σ} {ps : ι → Program Answer α}
    {s : σ} {order : List ι} {i : ι} {n : Nat} (h : (ps i).Within n) (hn : n ≤ order.count i) :
    ∃ a, (takeTurns handler order (ps, s)).1 i = done a := by
  induction order generalizing ps s n with
  | nil =>
    change ∃ a, ps i = done a
    cases hi : ps i with
    | done a => exact ⟨a, rfl⟩
    | call op next =>
      rw [hi] at h
      rw [List.count_nil, Nat.le_zero] at hn
      subst hn
      exact h.elim
  | cons j order ih =>
    change ∃ a, (takeTurns handler order (turn handler j (ps, s))).1 i = done a
    rw [List.count_cons] at hn
    cases hj : ps j with
    | done a =>
      rw [turn_of_done hj]
      by_cases hji : j = i
      · subst hji
        rw [hj] at h
        refine ih (n := 0) ?_ (Nat.zero_le _)
        rw [hj]
        exact trivial
      · rw [if_neg (by simpa using hji)] at hn
        exact ih h hn
    | call op next =>
      rw [turn_of_call hj]
      by_cases hji : j = i
      · subst hji
        rw [hj] at h
        rw [if_pos (by simp)] at hn
        cases n with
        | zero => exact h.elim
        | succ n =>
          refine ih (n := n) ?_ (by omega)
          rw [Function.update_self]
          exact h (handler op s).1
      · rw [if_neg (by simpa using hji)] at hn
        refine ih (n := n) ?_ hn
        rw [Function.update_of_ne (Ne.symm hji)]
        exact h

/-! ## Relying and guaranteeing -/

/-- Whatever happens between its calls, as far as `rely` goes, each call of the program does what `guar`
says and the program ends in `Q`. -/
def Secure (handler : (op : Op) → σ → Answer op × σ) (rely guar : σ → σ → Prop) (Q : α → σ → Prop) :
    Program Answer α → σ → Prop
  | done a, s => ∀ t, rely s t → Q a t
  | call op next, s => ∀ t, rely s t → guar t (handler op t).2 ∧
      (next (handler op t).1).Secure handler rely guar Q (handler op t).2

section
variable {handler : (op : Op) → σ → Answer op × σ} {rely guar : σ → σ → Prop} {Q : α → σ → Prop}
  {p : Program Answer α} {s t : σ}

theorem Secure.stable (htrans : ∀ s t u, rely s t → rely t u → rely s u)
    (h : p.Secure handler rely guar Q s) (hst : rely s t) : p.Secure handler rely guar Q t := by
  cases p with
  | done a =>
    intro u hu
    exact h u (htrans s t u hst hu)
  | call op next =>
    intro u hu
    exact h u (htrans s t u hst hu)

theorem Secure.imp {R : α → σ → Prop} (h : p.Secure handler rely guar Q s) (hQ : ∀ a s, Q a s → R a s) :
    p.Secure handler rely guar R s := by
  induction p generalizing s with
  | done a =>
    intro t ht
    exact hQ a t (h t ht)
  | call op next ih =>
    intro t ht
    obtain ⟨hg, hn⟩ := h t ht
    exact ⟨hg, ih _ hn⟩

theorem Secure.map {R : β → σ → Prop} (f : α → β) (h : p.Secure handler rely guar Q s)
    (hf : ∀ a s, Q a s → R (f a) s) : (p >>= fun a => done (f a)).Secure handler rely guar R s := by
  induction p generalizing s with
  | done a =>
    intro t ht
    exact hf a t (h t ht)
  | call op next ih =>
    intro t ht
    obtain ⟨hg, hn⟩ := h t ht
    exact ⟨hg, ih _ hn⟩

end

theorem Secure.of_result? {handler : (op : Op) → σ → Answer op × σ} {rely guar : σ → σ → Prop}
    {Q : α → σ → Prop} {p : Program Answer α} {s : σ} {a : α} (hrefl : ∀ s, rely s s)
    (h : p.Secure handler rely guar Q s) (hp : p.result? = some a) : Q a s := by
  rw [result?_eq_some_iff] at hp
  subst hp
  exact h s (hrefl s)

structure Compatible (rely guar : ι → σ → σ → Prop) : Prop where
  refl (i : ι) (s : σ) : rely i s s
  trans (i : ι) (s t u : σ) (hst : rely i s t) (htu : rely i t u) : rely i s u
  others {i j : ι} (hij : i ≠ j) {s t : σ} (h : guar i s t) : rely j s t

/-- Programs that are secure each by itself stay so under every order of their turns, and so does what all
their guarantees keep. -/
theorem takeTurns_secure [DecidableEq ι] {handler : (op : Op) → σ → Answer op × σ}
    {rely guar : ι → σ → σ → Prop} {Q : ι → α → σ → Prop} {I : σ → Prop} {ps : ι → Program Answer α} {s : σ}
    (hc : Compatible rely guar) (hI : ∀ i t u, I t → guar i t u → I u) (h0 : I s)
    (hps : ∀ i, (ps i).Secure handler (rely i) (guar i) (Q i) s) (order : List ι) :
    I (takeTurns handler order (ps, s)).2 ∧ ∀ i, ((takeTurns handler order (ps, s)).1 i).Secure handler
      (rely i) (guar i) (Q i) (takeTurns handler order (ps, s)).2 := by
  refine takeTurns_invariant
    (P := fun ps t => I t ∧ ∀ i, (ps i).Secure handler (rely i) (guar i) (Q i) t) ?_ order ⟨h0, hps⟩
  rintro ps t i op next ⟨ht, hps⟩ hi
  have hown := hps i
  rw [hi] at hown
  obtain ⟨hg, hn⟩ := hown t (hc.refl i t)
  refine ⟨hI i t _ ht hg, fun j => ?_⟩
  by_cases hij : i = j
  · subst hij
    rw [Function.update_self]
    exact hn
  · rw [Function.update_of_ne (Ne.symm hij)]
    exact (hps j).stable (hc.trans j) (hc.others hij hg)

end IdentityGroups.Program
