import Mathlib
import IdentityGroups.Proofs.Vault.Serve

/-! # Names in use

A store that is indexed gives each group an id that it carries and no two groups one name, so a name in use
leads to its group. A create under a name in use updates that group, so that no request but a delete takes
a name from the group that has it.
-/

namespace IdentityGroups.Vault.Store
variable {s t : Store} {id name : String} {stored : Stored} {g : Group}

/-- Every group carries the id it is stored under, which can be told from its path, and no two groups have
one name. What else is stored of a group may be anything. -/
structure Indexed (s : Store) : Prop where
  addressable {id : String} {stored : Stored} (h : s.groups.find? id = some stored) : Addressable id
  id {id : String} {stored : Stored} (h : s.groups.find? id = some stored) : stored.find? "id" = some (.str id)
  unique {id id' : String} {stored stored' : Stored} (h : s.groups.find? id = some stored)
    (h' : s.groups.find? id' = some stored') (hn : nameOf? stored = nameOf? stored') : id = id'

theorem WellFormed.indexed (hs : WellFormed s) : Indexed s :=
  ⟨fun h => (hs.sound h).addressable, fun h => (hs.sound h).id, hs.unique⟩

theorem Indexed.of_groups (hs : Indexed s) (h : t.groups = s.groups) : Indexed t := by
  refine ⟨fun hf => ?_, fun hf => ?_, fun hf hf' => ?_⟩
  · rw [h] at hf
    exact hs.addressable hf
  · rw [h] at hf
    exact hs.id hf
  · rw [h] at hf hf'
    exact hs.unique hf hf'

theorem Indexed.idForName?_eq_some_iff (hs : Indexed s) : s.idForName? name = some id ↔
    ∃ stored, s.groups.find? id = some stored ∧ nameOf? stored = some name := by
  refine ⟨held_of_idForName?, ?_⟩
  rintro ⟨stored, hf, hn⟩
  cases h : s.idForName? name with
  | none => exact absurd hn (idForName?_eq_none_iff.1 h id stored hf)
  | some id' =>
    obtain ⟨stored', hf', hn'⟩ := held_of_idForName? h
    rw [hs.unique hf' hf (hn'.trans hn.symm)]

theorem Indexed.put (hs : Indexed s) (hid : Addressable id) (hcarries : stored.find? "id" = some (.str id))
    (hn : ∀ id' stored', s.groups.find? id' = some stored' → nameOf? stored' = nameOf? stored → id' = id) :
    Indexed (s.put id stored) := by
  refine ⟨fun {i si} hi => ?_, fun {i si} hi => ?_, unique_put hs.unique hn⟩
  · rw [find?_put] at hi
    split at hi
    · rename_i he
      exact he ▸ hid
    · exact hs.addressable hi
  · rw [find?_put] at hi
    split at hi
    · rename_i he
      cases hi
      exact he ▸ hcarries
    · exact hs.id hi

theorem Indexed.put_sent (hs : Indexed s) (hf : s.groups.find? id = some stored) (g : Group) :
    Indexed (s.put id (sent g stored)) := by
  refine hs.put (hs.addressable hf) ?_ fun id' stored' hf' hn => ?_
  · rw [find?_sent_of_not_mem g (by decide)]
    exact hs.id hf
  · rw [nameOf?_sent] at hn
    exact hs.unique hf' hf hn

theorem Indexed.put_made (hs : Indexed s) (hid : Addressable id) (hn : s.idForName? g.name = none) :
    Indexed (s.put id (made id g)) := by
  refine hs.put hid ?_ fun id' stored' hf' he => ?_
  · exact (find?_sent_of_not_mem g (by decide)).trans (find?_named id g _)
  · rw [nameOf?_eq_some_iff.2 (find?_name_made id g)] at he
    exact absurd he (idForName?_eq_none_iff.1 hn id' stored' hf')

/-! ## Names after a write -/

theorem Indexed.idForName?_put (hs : Indexed (s.put id stored)) (hn : nameOf? stored = some name) :
    (s.put id stored).idForName? name = some id :=
  hs.idForName?_eq_some_iff.2 ⟨stored, by rw [find?_put, if_pos rfl], hn⟩

/-- Writing attributes of a group leaves every name where it is. -/
theorem Indexed.idForName?_put_sent (hs : Indexed s) (hf : s.groups.find? id = some stored) (g : Group)
    (name : String) : (s.put id (sent g stored)).idForName? name = s.idForName? name := by
  have hput := hs.put_sent hf g
  ext id'
  rw [hput.idForName?_eq_some_iff, hs.idForName?_eq_some_iff]
  constructor
  · rintro ⟨stored', hf', hn⟩
    rw [find?_put] at hf'
    split at hf'
    · rename_i he
      cases hf'
      exact ⟨stored, he ▸ hf, by rwa [nameOf?_sent] at hn⟩
    · exact ⟨stored', hf', hn⟩
  · rintro ⟨stored', hf', hn⟩
    rw [find?_put]
    split
    · rename_i he
      subst he
      cases hf.symm.trans hf'
      exact ⟨_, rfl, by rwa [nameOf?_sent]⟩
    · exact ⟨stored', hf', hn⟩

end IdentityGroups.Vault.Store
