import Mathlib
import IdentityGroups.Program

/-! # Transcripts of programs

Who answers a program is left open, so what holds against everyone is said of its transcripts: the
calls that it made, each with the answer it got. A program that was cut off is where its transcript
leads. `Meets` gives a bound on each call in terms of the turns before it, and is proved part by part.
-/

namespace IdentityGroups.Program
variable {Op : Type} {Answer : Op → Type} {α β : Type}

abbrev Turn (Answer : Op → Type) := (op : Op) × Answer op

/-- After the turns the program that is left is the last one. -/
inductive Reaches : Program Answer α → List (Turn Answer) → Program Answer α → Prop
  | start (p : Program Answer α) : Reaches p [] p
  | turn {op : Op} {next : Answer op → Program Answer α} {b : Answer op} {tr : List (Turn Answer)}
      {q : Program Answer α} (h : Reaches (next b) tr q) : Reaches (call op next) (⟨op, b⟩ :: tr) q

def Yields (p : Program Answer α) (tr : List (Turn Answer)) (a : α) : Prop := p.Reaches tr (done a)

theorem yields_done_iff {a b : α} {tr : List (Turn Answer)} :
    (done a : Program Answer α).Yields tr b ↔ tr = [] ∧ b = a := by
  constructor
  · intro h
    cases h
    exact ⟨rfl, rfl⟩
  · rintro ⟨rfl, rfl⟩
    exact .start _

theorem yields_call_iff {op : Op} {next : Answer op → Program Answer α} {tr : List (Turn Answer)} {a : α} :
    (call op next).Yields tr a ↔ ∃ b tr', tr = ⟨op, b⟩ :: tr' ∧ (next b).Yields tr' a := by
  constructor
  · intro h
    cases h with
    | turn h => exact ⟨_, _, rfl, h⟩
  · rintro ⟨b, tr', rfl, h⟩
    exact .turn h

theorem yields_bind_iff {p : Program Answer α} {f : α → Program Answer β} {tr : List (Turn Answer)} {b : β} :
    (p >>= f).Yields tr b ↔ ∃ tr₁ a tr₂, p.Yields tr₁ a ∧ (f a).Yields tr₂ b ∧ tr = tr₁ ++ tr₂ := by
  induction p generalizing tr with
  | done a =>
    constructor
    · intro h
      exact ⟨[], a, tr, .start _, h, rfl⟩
    · rintro ⟨tr₁, a', tr₂, h, hf, rfl⟩
      obtain ⟨rfl, rfl⟩ := yields_done_iff.1 h
      exact hf
  | call op next ih =>
    constructor
    · intro h
      obtain ⟨c, tr', rfl, hc⟩ := yields_call_iff.1 h
      obtain ⟨tr₁, a, tr₂, hp, hf, rfl⟩ := (ih c).1 hc
      exact ⟨_, a, tr₂, yields_call_iff.2 ⟨c, tr₁, rfl, hp⟩, hf, rfl⟩
    · rintro ⟨tr₁, a, tr₂, hp, hf, rfl⟩
      obtain ⟨c, tr', rfl, hc⟩ := yields_call_iff.1 hp
      exact yields_call_iff.2 ⟨c, tr' ++ tr₂, rfl, (ih c).2 ⟨tr', a, tr₂, hc, hf, rfl⟩⟩

theorem Reaches.snoc {p : Program Answer α} {tr : List (Turn Answer)} {op : Op}
    {next : Answer op → Program Answer α} (h : p.Reaches tr (call op next)) (b : Answer op) :
    p.Reaches (tr ++ [⟨op, b⟩]) (next b) := by
  generalize hq : call op next = q at h
  induction h with
  | start => exact hq ▸ .turn (.start _)
  | turn _ ih => exact .turn (ih hq)

/-! ## Bounds on every call -/

/-- Every call meets `P`, given the turns before it, and every end meets `Q`. -/
def Meets (P : List (Turn Answer) → Op → Prop) (Q : List (Turn Answer) → α → Prop)
    (before : List (Turn Answer)) : Program Answer α → Prop
  | done a => Q before a
  | call op next => P before op ∧ ∀ b, (next b).Meets P Q (before ++ [⟨op, b⟩])

section
variable {P : List (Turn Answer) → Op → Prop} {before : List (Turn Answer)}

theorem Meets.bind {Q : List (Turn Answer) → α → Prop} {R : List (Turn Answer) → β → Prop}
    {p : Program Answer α} {f : α → Program Answer β} (hp : p.Meets P Q before)
    (hf : ∀ tr a, Q tr a → (f a).Meets P R tr) : (p >>= f).Meets P R before := by
  induction p generalizing before with
  | done a => exact hf before a hp
  | call op next ih => exact ⟨hp.1, fun b => ih b (hp.2 b)⟩

theorem Meets.imp {Q R : List (Turn Answer) → α → Prop} {p : Program Answer α} (hp : p.Meets P Q before)
    (h : ∀ tr a, Q tr a → R tr a) : p.Meets P R before := by
  induction p generalizing before with
  | done a => exact h before a hp
  | call op next ih => exact ⟨hp.1, fun b => ih b (hp.2 b)⟩

theorem Meets.of_reaches {Q : List (Turn Answer) → α → Prop} {p q : Program Answer α}
    {tr : List (Turn Answer)} (hp : p.Meets P Q before) (h : p.Reaches tr q) : q.Meets P Q (before ++ tr) := by
  induction h generalizing before with
  | start => simpa using hp
  | @turn op next b tr q h ih =>
    have := ih (hp.2 b)
    simpa using this

end

end IdentityGroups.Program
