/-! # Dictionaries in ascending key order

Entries are kept in ascending order of their keys, so a dictionary is decided by its look-ups and
is listed smallest key first. The operations are given on bare lists of entries first, for data
types that hold such lists inside themselves, and then on `Dict`, which carries the order.
-/

namespace IdentityGroups

namespace Entries
variable {α β : Type}

def Ascending (l : List (String × α)) : Prop := l.Pairwise fun a b => a.1 < b.1

instance (l : List (String × α)) : Decidable (Ascending l) := by
  unfold Ascending; infer_instance

def find? (k : String) : List (String × α) → Option α
  | [] => none
  | (k', v) :: l => if k' = k then some v else find? k l

def insert (k : String) (v : α) : List (String × α) → List (String × α)
  | [] => [(k, v)]
  | (k', v') :: l =>
    if k < k' then (k, v) :: (k', v') :: l
    else if k = k' then (k, v) :: l
    else (k', v') :: insert k v l

def erase (k : String) : List (String × α) → List (String × α)
  | [] => []
  | (k', v) :: l => if k' = k then l else (k', v) :: erase k l

/-- Enters the pairs from left to right: of two with one key the later stays. -/
def ofList (pairs : List (String × α)) : List (String × α) :=
  pairs.foldl (fun l p => insert p.1 p.2 l) []

theorem lt_of_not_lt_of_ne {a b : String} (h : ¬ a < b) (hne : a ≠ b) : b < a :=
  Decidable.byContradiction fun hb => hne (String.le_antisymm (String.not_lt.1 hb) (String.not_lt.1 h))

theorem mem_insert {k : String} {v : α} {p : String × α} {l : List (String × α)} :
    p ∈ insert k v l → p = (k, v) ∨ p ∈ l := by
  induction l with
  | nil => simp [insert]
  | cons q l ih =>
    rw [insert]
    split
    · simp
    · split
      · intro h
        rcases List.mem_cons.1 h with h | h
        · exact Or.inl h
        · exact Or.inr (List.mem_cons_of_mem _ h)
      · intro h
        rcases List.mem_cons.1 h with h | h
        · exact Or.inr (h ▸ List.mem_cons_self)
        · exact (ih h).imp_right (List.mem_cons_of_mem _)

theorem ascending_insert (k : String) (v : α) {l : List (String × α)} (h : Ascending l) :
    Ascending (insert k v l) := by
  induction l with
  | nil => simp [insert, Ascending]
  | cons q l ih =>
    have hq := List.pairwise_cons.1 h
    rw [insert]
    split
    · rename_i hk
      exact List.pairwise_cons.2 ⟨fun a ha => (List.mem_cons.1 ha).elim (fun e => e ▸ hk)
        fun m => String.lt_trans hk (hq.1 a m), h⟩
    · rename_i hk
      split
      · rename_i he
        exact List.pairwise_cons.2 ⟨fun a ha => he ▸ hq.1 a ha, hq.2⟩
      · rename_i he
        exact List.pairwise_cons.2 ⟨fun a ha => (mem_insert ha).elim
          (fun e => e ▸ lt_of_not_lt_of_ne hk he) (hq.1 a), ih hq.2⟩

theorem erase_sublist (k : String) (l : List (String × α)) : (erase k l).Sublist l := by
  induction l with
  | nil => exact List.Sublist.refl _
  | cons q l ih =>
    rw [erase]
    split
    · exact List.sublist_cons_self _ _
    · exact ih.cons_cons _

theorem ascending_erase (k : String) {l : List (String × α)} (h : Ascending l) :
    Ascending (erase k l) := List.Pairwise.sublist (erase_sublist k l) h

theorem ascending_map (f : α → β) {l : List (String × α)} (h : Ascending l) :
    Ascending (l.map fun p => (p.1, f p.2)) :=
  List.Pairwise.map _ (fun _ _ h => h) h

theorem ascending_foldl_insert (pairs : List (String × α)) {l : List (String × α)}
    (h : Ascending l) : Ascending (pairs.foldl (fun l p => insert p.1 p.2 l) l) := by
  induction pairs generalizing l with
  | nil => exact h
  | cons p pairs ih => exact ih (ascending_insert p.1 p.2 h)

theorem ascending_ofList (pairs : List (String × α)) : Ascending (ofList pairs) :=
  ascending_foldl_insert pairs List.Pairwise.nil

theorem find?_insert (k k' : String) (v : α) (l : List (String × α)) :
    find? k' (insert k v l) = if k = k' then some v else find? k' l := by
  induction l with
  | nil => simp [insert, find?]
  | cons q l ih =>
    rw [insert]
    split
    · simp [find?]
    · split
      · rename_i he
        by_cases hk : k = k' <;> simp_all [find?]
      · rename_i he
        by_cases hq : q.1 = k'
        · have : k ≠ k' := fun e => he (e.trans hq.symm)
          simp [find?, hq, this]
        · simp [find?, hq, ih]

theorem find?_map (f : α → β) (k : String) (l : List (String × α)) :
    find? k (l.map fun p => (p.1, f p.2)) = (find? k l).map f := by
  induction l with
  | nil => rfl
  | cons q l ih => by_cases h : q.1 = k <;> simp [find?, h, ih]

theorem find?_eq_none_of_lt {k : String} {l : List (String × α)} (h : ∀ p ∈ l, k < p.1) :
    find? k l = none := by
  induction l with
  | nil => rfl
  | cons q l ih =>
    have hq : q.1 ≠ k := fun e => String.lt_irrefl k (e ▸ h q List.mem_cons_self)
    rw [find?, if_neg hq]
    exact ih fun p hp => h p (List.mem_cons_of_mem _ hp)

theorem find?_erase {l : List (String × α)} (h : Ascending l) (k k' : String) :
    find? k' (erase k l) = if k = k' then none else find? k' l := by
  induction l with
  | nil => simp [erase, find?]
  | cons q l ih =>
    have hq := List.pairwise_cons.1 h
    have ih := ih hq.2
    rw [erase]
    split
    · rename_i he
      by_cases hk : k = k'
      · rw [if_pos hk]
        exact find?_eq_none_of_lt fun p hp => by rw [← hk, ← he]; exact hq.1 p hp
      · simp [hk, find?, he]
    · rename_i he
      by_cases hqk : q.1 = k'
      · have hk : k ≠ k' := fun e => he (hqk.trans e.symm)
        simp [find?, hqk, hk]
      · simp [find?, hqk, ih]

/-- Ascending lists of entries with the same look-ups are equal. -/
theorem eq_of_find?_eq {l l' : List (String × α)} (h : Ascending l) (h' : Ascending l')
    (hf : ∀ k, find? k l = find? k l') : l = l' := by
  induction l generalizing l' with
  | nil =>
    cases l' with
    | nil => rfl
    | cons q l' => simpa [find?] using hf q.1
  | cons p l ih =>
    cases l' with
    | nil => simpa [find?] using hf p.1
    | cons q l' =>
      have hp := List.pairwise_cons.1 h
      have hq := List.pairwise_cons.1 h'
      have hkey : p.1 = q.1 := by
        refine Decidable.byContradiction fun hne => ?_
        by_cases hlt : p.1 < q.1
        · have := hf p.1
          rw [find?_eq_none_of_lt (l := q :: l') fun r hr => (List.mem_cons.1 hr).elim
            (fun e => e ▸ hlt) fun m => String.lt_trans hlt (hq.1 r m)] at this
          simp [find?] at this
        · have hlt' := lt_of_not_lt_of_ne hlt hne
          have := hf q.1
          rw [find?_eq_none_of_lt (l := p :: l) fun r hr => (List.mem_cons.1 hr).elim
            (fun e => e ▸ hlt') fun m => String.lt_trans hlt' (hp.1 r m)] at this
          simp [find?] at this
      have hval : p.2 = q.2 := by simpa [find?, hkey] using hf p.1
      have htail : l = l' := ih hp.2 hq.2 fun k => by
        by_cases hk : p.1 = k
        · rw [find?_eq_none_of_lt fun r hr => hk ▸ hp.1 r hr,
            find?_eq_none_of_lt fun r hr => hk ▸ hkey ▸ hq.1 r hr]
        · have := hf k
          simpa [find?, hk, hkey ▸ hk] using this
      exact htail ▸ (Prod.ext hkey hval ▸ rfl)

end Entries

/-- A finite map from texts to `α`, its entries in ascending order of the keys. -/
structure Dict (α : Type) where
  entries : List (String × α)
  ascending : Entries.Ascending entries
  deriving DecidableEq

namespace Dict
variable {α β : Type}

def empty : Dict α := ⟨[], List.Pairwise.nil⟩

instance : Inhabited (Dict α) := ⟨empty⟩

def find? (d : Dict α) (k : String) : Option α := Entries.find? k d.entries

def contains (d : Dict α) (k : String) : Bool := (d.find? k).isSome

def insert (d : Dict α) (k : String) (v : α) : Dict α :=
  ⟨Entries.insert k v d.entries, Entries.ascending_insert k v d.ascending⟩

def insertIfNew (d : Dict α) (k : String) (v : α) : Dict α :=
  if d.contains k then d else d.insert k v

def erase (d : Dict α) (k : String) : Dict α :=
  ⟨Entries.erase k d.entries, Entries.ascending_erase k d.ascending⟩

def ofList (pairs : List (String × α)) : Dict α :=
  ⟨Entries.ofList pairs, Entries.ascending_ofList pairs⟩

def map (f : α → β) (d : Dict α) : Dict β :=
  ⟨d.entries.map fun p => (p.1, f p.2), Entries.ascending_map f d.ascending⟩

def keys (d : Dict α) : List String := d.entries.map (·.1)

def size (d : Dict α) : Nat := d.entries.length

def isEmpty (d : Dict α) : Bool := d.entries.isEmpty

@[ext] theorem ext {d e : Dict α} (h : ∀ k, d.find? k = e.find? k) : d = e := by
  cases d; cases e
  rename_i hd _ he
  congr
  exact Entries.eq_of_find?_eq hd he h

@[simp] theorem find?_empty (k : String) : (empty : Dict α).find? k = none := rfl

@[simp] theorem find?_insert (d : Dict α) (k k' : String) (v : α) :
    (d.insert k v).find? k' = if k = k' then some v else d.find? k' :=
  Entries.find?_insert k k' v d.entries

@[simp] theorem find?_erase (d : Dict α) (k k' : String) :
    (d.erase k).find? k' = if k = k' then none else d.find? k' :=
  Entries.find?_erase d.ascending k k'

@[simp] theorem find?_map (f : α → β) (d : Dict α) (k : String) :
    (d.map f).find? k = (d.find? k).map f := Entries.find?_map f k d.entries

end Dict

end IdentityGroups
