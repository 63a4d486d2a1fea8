import Mathlib
import IdentityGroups.Proofs.Group.Body
import IdentityGroups.Proofs.Json.Decode
import IdentityGroups.Proofs.Vault.Address

/-! # The groups of a store

What is stored under an id is sound when it reads back as a group, and a store is well formed when all of
it is sound and no two groups share a name. Writes name neither the id nor the name nor the kind, and
writing the same attributes twice is writing them once.
-/

namespace IdentityGroups

namespace Vault.Store
open Json Json.Decode

variable {id name : String} {stored : Stored} {α : Type} {item : Decoder α} {k : String}

/-! ## Writes -/

theorem find?_mergeBody (stored : Stored) (body : Json) (k : String) :
    (mergeBody stored body).find? k =
      if k ∈ mutableNames then (body.member? k).or (stored.find? k) else stored.find? k := by
  unfold mergeBody
  induction mutableNames generalizing stored with
  | nil => simp
  | cons name names ih =>
    rw [List.foldl_cons, ih]
    cases hb : body.member? name with
    | none => by_cases hk : k = name <;> simp [hk, hb]
    | some v =>
      by_cases hk : k = name
      · simp [hk, hb]
      · simp [hk, Ne.symm hk]

theorem find?_mergeBody_of_not_mem (body : Json) (hk : k ∉ mutableNames) :
    (mergeBody stored body).find? k = stored.find? k := by
  rw [find?_mergeBody, if_neg hk]

@[simp] theorem nameOf?_mergeBody (stored : Stored) (body : Json) :
    nameOf? (mergeBody stored body) = nameOf? stored := by
  rw [nameOf?, find?_mergeBody_of_not_mem body (by decide), nameOf?]

/-- Writing the same attributes twice is writing them once. -/
theorem mergeBody_idem (stored : Stored) (body : Json) :
    mergeBody (mergeBody stored body) body = mergeBody stored body := by
  ext1 k
  rw [find?_mergeBody, find?_mergeBody]
  by_cases hk : k ∈ mutableNames
  · rw [if_pos hk, if_pos hk, ← Option.or_assoc, Option.or_self]
  · rw [if_neg hk]

/-- Of the attributes that a write may set, a create sends those that an update sends. -/
theorem mergeBody_createBody (stored : Stored) (g : Group) :
    mergeBody stored g.createBody = mergeBody stored g.updateBody := by
  ext1 k
  rw [find?_mergeBody, find?_mergeBody]
  by_cases hk : k ∈ mutableNames
  · rw [g.member?_createBody_of_optional hk]
  · rw [if_neg hk, if_neg hk]

def sent (g : Group) (stored : Stored) : Stored := mergeBody stored g.updateBody

@[simp] theorem nameOf?_sent (g : Group) (stored : Stored) : nameOf? (sent g stored) = nameOf? stored :=
  nameOf?_mergeBody stored g.updateBody

@[simp] theorem sent_sent (g : Group) (stored : Stored) : sent g (sent g stored) = sent g stored :=
  mergeBody_idem stored g.updateBody

/-- What was sent is stored. -/
theorem carries_sent (g : Group) (stored : Stored) : Group.Carries (.ofDict (sent g stored)) g := by
  refine Group.carries_of_sent fun a v hv => ?_
  have hf : (Json.ofDict (sent g stored)).member? a.name = _ := find?_mergeBody stored g.updateBody a.name
  have hmutable : a.name ∈ mutableNames := a.mem_names
  rw [hf, if_pos hmutable, g.member?_updateBody_name, hv, Option.some_or]

/-! ## What is stored under an id -/

/-- The attributes stored under an id name it, a name and a kind, and the others can be read. -/
structure Sound (id : String) (stored : Stored) : Prop where
  addressable : Addressable id
  id : stored.find? "id" = some (.str id)
  name : ∃ name, name ≠ "" ∧ stored.find? "name" = some (.str name)
  kind : ∃ kind : GroupKind, stored.find? "type" = some (.str kind.word)
  metadata : ∃ o, optionalMember stored.entries "metadata" (dict text) = .ok o
  memberEntityIds : ∃ o, optionalMember stored.entries "member_entity_ids" (list text) = .ok o
  memberGroupIds : ∃ o, optionalMember stored.entries "member_group_ids" (list text) = .ok o

theorem optionalMember_mergeBody {body : Json} (hs : ∃ o, optionalMember stored.entries k item = .ok o)
    (hb : ∀ j, body.member? k = some j → ∃ o, optional item j = .ok o) :
    ∃ o, optionalMember (mergeBody stored body).entries k item = .ok o := by
  have hf : Entries.find? k (mergeBody stored body).entries = _ := find?_mergeBody stored body k
  rw [optionalMember_eq, hf]
  rw [optionalMember_eq] at hs
  by_cases hk : k ∈ mutableNames
  · rw [if_pos hk]
    cases hm : body.member? k with
    | none => exact hs
    | some j => exact hb j hm
  · rw [if_neg hk]
    exact hs

theorem find?_sent_of_not_mem (g : Group) (hk : k ∉ mutableNames) : (sent g stored).find? k = stored.find? k :=
  find?_mergeBody_of_not_mem g.updateBody hk

theorem Sound.sent (h : Sound id stored) (g : Group) : Sound id (sent g stored) where
  addressable := h.addressable
  id := (find?_sent_of_not_mem g (by decide)).trans h.id
  name := by
    rw [find?_sent_of_not_mem g (by decide)]
    exact h.name
  kind := by
    rw [find?_sent_of_not_mem g (by decide)]
    exact h.kind
  metadata := by
    refine optionalMember_mergeBody h.metadata fun j hj => ?_
    obtain ⟨d, _, rfl⟩ := Option.map_eq_some_iff.1 ((g.member?_updateBody_name .metadata).symm.trans hj)
    exact ⟨_, congrArg (Except.map some) (dict_ofTextDict d)⟩
  memberEntityIds := by
    refine optionalMember_mergeBody h.memberEntityIds fun j hj => ?_
    obtain ⟨l, _, rfl⟩ := Option.map_eq_some_iff.1 ((g.member?_updateBody_name .memberEntityIds).symm.trans hj)
    exact ⟨_, congrArg (Except.map some) (list_ofTexts l)⟩
  memberGroupIds := by
    refine optionalMember_mergeBody h.memberGroupIds fun j hj => ?_
    obtain ⟨l, _, rfl⟩ := Option.map_eq_some_iff.1 ((g.member?_updateBody_name .memberGroupIds).symm.trans hj)
    exact ⟨_, congrArg (Except.map some) (list_ofTexts l)⟩

def named (id : String) (g : Group) : Stored :=
  .ofList [("id", .str id), ("name", .str g.name), ("type", .str g.kind.word)]

theorem find?_named (id : String) (g : Group) (k : String) : (named id g).find? k =
    Entries.find? k [("id", .str id), ("name", .str g.name), ("type", .str g.kind.word)] :=
  Dict.find?_ofList k (by simp [Entries.Distinct])

theorem sound_named (hid : Addressable id) {g : Group} (hg : g.name ≠ "") : Sound id (named id g) where
  addressable := hid
  id := find?_named id g _
  name := ⟨g.name, hg, find?_named id g _⟩
  kind := ⟨g.kind, find?_named id g _⟩
  metadata := by
    have hf : Entries.find? "metadata" (named id g).entries = none := find?_named id g _
    exact ⟨none, by rw [optionalMember_eq, hf]⟩
  memberEntityIds := by
    have hf : Entries.find? "member_entity_ids" (named id g).entries = none := find?_named id g _
    exact ⟨none, by rw [optionalMember_eq, hf]⟩
  memberGroupIds := by
    have hf : Entries.find? "member_group_ids" (named id g).entries = none := find?_named id g _
    exact ⟨none, by rw [optionalMember_eq, hf]⟩

def made (id : String) (g : Group) : Stored := sent g (named id g)

theorem sound_made (hid : Addressable id) {g : Group} (hg : g.name ≠ "") : Sound id (made id g) :=
  (sound_named hid hg).sent g

theorem find?_name_made (id : String) (g : Group) : (made id g).find? "name" = some (.str g.name) :=
  (find?_sent_of_not_mem g (by decide)).trans (find?_named id g _)

theorem find?_type_made (id : String) (g : Group) : (made id g).find? "type" = some (.str g.kind.word) :=
  (find?_sent_of_not_mem g (by decide)).trans (find?_named id g _)

/-! ## Reading a group -/

def unset : List (String × Json) :=
  [("metadata", .null), ("policies", .null), ("member_entity_ids", .arr []), ("member_group_ids", .arr []),
    ("parent_group_ids", .arr [])]

theorem find?_readView (stored : Stored) (k : String) :
    ((readView stored).data.getD .empty).find? k = (stored.find? k).or (Entries.find? k unset) :=
  Dict.find?_foldl_insertIfNew unset stored k

theorem hasPayload_readView (stored : Stored) : (readView stored).hasPayload := by
  have hf := find?_readView stored "parent_group_ids"
  have hne : ((readView stored).data.getD .empty).entries ≠ [] := by
    intro hnil
    rw [Dict.find?, hnil, eq_comm, Entries.find?, Option.or_eq_none_iff] at hf
    exact absurd hf.2 (by decide)
  simpa [Secret.hasPayload, readView, Secret.withData, Dict.isEmpty] using hne

theorem text?_readView (hk : stored.find? k = some (.str name)) : (readView stored).text? k = some name := by
  have hf : ((readView stored).data.getD .empty).find? k = some (.str name) := by
    rw [find?_readView, hk, Option.some_or]
  exact congrArg (Option.bind · Json.text?) hf

theorem optionalMember_readView (h : ∃ o, optionalMember stored.entries k item = .ok o)
    (hd : ∀ j, Entries.find? k unset = some j → ∃ o, optional item j = .ok o) :
    ∃ o, optionalMember ((readView stored).data.getD .empty).entries k item = .ok o := by
  have hf : Entries.find? k ((readView stored).data.getD .empty).entries = _ := find?_readView stored k
  rw [optionalMember_eq, hf]
  rw [optionalMember_eq] at h
  cases hs : stored.find? k with
  | some j =>
    have hs' : Entries.find? k stored.entries = some j := hs
    rw [hs'] at h
    exact h
  | none =>
    rw [Option.none_or]
    cases hu : Entries.find? k unset with
    | none => exact ⟨none, rfl⟩
    | some j => exact hd j hu

theorem optionalMember_readView_of_find? {j : Json} {a : α} (hk : stored.find? k = some j)
    (hj : optional item j = .ok (some a)) :
    optionalMember ((readView stored).data.getD .empty).entries k item = .ok (some a) := by
  have hf : Entries.find? k ((readView stored).data.getD .empty).entries = some j := by
    refine (find?_readView stored k).trans ?_
    rw [hk, Option.some_or]
  rw [optionalMember_eq, hf]
  exact hj

/-- A read of a group that is stored soundly reports its name and its kind. -/
theorem Sound.observed (h : Sound id stored) {kind : GroupKind}
    (hn : stored.find? "name" = some (.str name)) (hk : stored.find? "type" = some (.str kind.word)) :
    ∃ o, Observed.decode ((readView stored).data.getD .empty) = .ok o ∧
      o.name = some name ∧ o.kind = some kind := by
  have hids : ∀ k ∈ ["member_entity_ids", "member_group_ids"], ∀ j, Entries.find? k unset = some j →
      ∃ o, optional (list text) j = .ok o := by
    intro k hk j hj
    have hj' : j = .arr [] := by
      simp only [List.mem_cons, List.not_mem_nil, or_false] at hk
      rcases hk with rfl | rfl <;> exact (Option.some.inj hj).symm
    exact ⟨some [], hj' ▸ rfl⟩
  have hnull : ∀ j, Entries.find? "metadata" unset = some j → ∃ o, optional (dict text) j = .ok o := by
    intro j hj
    exact ⟨none, Option.some.inj hj ▸ rfl⟩
  obtain ⟨entityIds, he⟩ := optionalMember_readView h.memberEntityIds (hids _ (by simp))
  obtain ⟨groupIds, hg⟩ := optionalMember_readView h.memberGroupIds (hids _ (by simp))
  obtain ⟨metadata, hm⟩ := optionalMember_readView h.metadata hnull
  have hname := optionalMember_readView_of_find? hn (show optional text (.str name) = .ok (some name) from rfl)
  have hkind := optionalMember_readView_of_find? hk
    (show optional GroupKind.decode (.str kind.word) = .ok (some kind) from
      congrArg (Except.map some) (kind_word kind))
  refine ⟨⟨some name, some kind, metadata, entityIds, groupIds⟩, ?_, rfl, rfl⟩
  simp only [Observed.decode, he, hg, hm, hname, hkind]
  rfl

/-! ## Groups of one name -/

theorem nameOf?_eq_some_iff : nameOf? stored = some name ↔ stored.find? "name" = some (.str name) := by
  rw [nameOf?, Option.bind_eq_some_iff]
  constructor
  · rintro ⟨j, hj, ht⟩
    cases j with
    | str s =>
      cases ht
      exact hj
    | _ => cases ht
  · intro h
    exact ⟨_, h, rfl⟩

variable {s : Store}

theorem mem_groups_iff : (id, stored) ∈ s.groups.entries ↔ s.groups.find? id = some stored :=
  (Entries.find?_eq_some_iff s.groups.ascending.distinct).symm

theorem idForName?_eq_none_iff : s.idForName? name = none ↔
    ∀ id stored, s.groups.find? id = some stored → nameOf? stored ≠ some name := by
  rw [idForName?, Option.map_eq_none_iff, List.find?_eq_none]
  constructor
  · intro h id stored hf hn
    exact h _ (mem_groups_iff.2 hf) (by simpa using hn)
  · rintro h ⟨id, stored⟩ hmem hn
    exact h id stored (mem_groups_iff.1 hmem) (by simpa using hn)

theorem held_of_idForName? (h : s.idForName? name = some id) :
    ∃ stored, s.groups.find? id = some stored ∧ nameOf? stored = some name := by
  obtain ⟨e, he, rfl⟩ := Option.map_eq_some_iff.1 h
  have hn := List.find?_some he
  exact ⟨e.2, mem_groups_iff.1 (List.mem_of_find?_eq_some he), by simpa using hn⟩

/-- Every group is stored soundly and has its name for itself. -/
structure WellFormed (s : Store) : Prop where
  sound {id : String} {stored : Stored} (h : s.groups.find? id = some stored) : Sound id stored
  unique {id id' : String} {stored stored' : Stored} (h : s.groups.find? id = some stored)
    (h' : s.groups.find? id' = some stored') (hn : nameOf? stored = nameOf? stored') : id = id'

theorem wellFormed_of_empty (h : s.groups = .empty) : WellFormed s := by
  constructor
  · intro id stored hf
    rw [h] at hf
    cases hf
  · intro id id' stored stored' hf
    rw [h] at hf
    cases hf

theorem WellFormed.idForName? (hs : WellFormed s) (h : s.groups.find? id = some stored)
    (hn : nameOf? stored = some name) : s.idForName? name = some id := by
  cases hf : s.idForName? name with
  | none => exact absurd hn (idForName?_eq_none_iff.1 hf id stored h)
  | some id' =>
    obtain ⟨stored', h', hn'⟩ := held_of_idForName? hf
    rw [hs.unique h' h (hn'.trans hn.symm)]

def put (s : Store) (id : String) (stored : Stored) : Store :=
  { s with groups := s.groups.insert id stored }

def drop (s : Store) (id : String) : Store := { s with groups := s.groups.erase id }

theorem find?_put (s : Store) (id id' : String) (stored : Stored) :
    (s.put id stored).groups.find? id' = if id = id' then some stored else s.groups.find? id' :=
  Dict.find?_insert _ _ _ _

theorem find?_drop (s : Store) (id id' : String) :
    (s.drop id).groups.find? id' = if id = id' then none else s.groups.find? id' :=
  Dict.find?_erase _ _ _

theorem put_self (h : s.groups.find? id = some stored) : s.put id stored = s := by
  have hg : s.groups.insert id stored = s.groups := by
    ext1 k
    rw [Dict.find?_insert]
    by_cases hk : id = k
    · rw [if_pos hk, ← hk, h]
    · rw [if_neg hk]
  rw [put, hg]

theorem drop_self (h : s.groups.find? id = none) : s.drop id = s := by
  have hg : s.groups.erase id = s.groups := by
    ext1 k
    rw [Dict.find?_erase]
    by_cases hk : id = k
    · rw [if_pos hk, ← hk, h]
    · rw [if_neg hk]
  rw [drop, hg]

theorem WellFormed.drop (hs : WellFormed s) (id : String) : WellFormed (s.drop id) := by
  have hf : ∀ {id' stored}, (s.drop id).groups.find? id' = some stored → s.groups.find? id' = some stored := by
    intro id' stored h
    rw [find?_drop] at h
    split at h
    · cases h
    · exact h
  exact ⟨fun h => hs.sound (hf h), fun h h' => hs.unique (hf h) (hf h')⟩

/-- Names stay unique when a group is stored under a name that no other group has. -/
theorem unique_put (hs : ∀ {id id' : String} {stored stored' : Stored}, s.groups.find? id = some stored →
      s.groups.find? id' = some stored' → nameOf? stored = nameOf? stored' → id = id')
    (hn : ∀ id' stored', s.groups.find? id' = some stored' → nameOf? stored' = nameOf? stored → id' = id)
    {i j : String} {si sj : Stored} (hi : (s.put id stored).groups.find? i = some si)
    (hj : (s.put id stored).groups.find? j = some sj) (hij : nameOf? si = nameOf? sj) : i = j := by
  rw [find?_put] at hi hj
  -- Of two groups with one name neither, one or both may be the new one.
  split at hi
  · rename_i hei
    cases hi
    split at hj
    · rename_i hej
      exact hei.symm.trans hej
    · exact hei.symm.trans (hn j sj hj hij.symm).symm
  · split at hj
    · rename_i hej
      cases hj
      exact (hn i si hi hij).trans hej
    · exact hs hi hj hij

theorem WellFormed.put (hs : WellFormed s) (h : Sound id stored)
    (hn : ∀ id' stored', s.groups.find? id' = some stored' → nameOf? stored' = nameOf? stored → id' = id) :
    WellFormed (s.put id stored) := by
  refine ⟨fun {id' stored'} h' => ?_, unique_put hs.unique hn⟩
  rw [find?_put] at h'
  split at h'
  · rename_i he
    cases h'
    exact he ▸ h
  · exact hs.sound h'

theorem WellFormed.put_sent (hs : WellFormed s) (h : s.groups.find? id = some stored) (g : Group) :
    WellFormed (s.put id (Store.sent g stored)) := by
  refine hs.put ((hs.sound h).sent g) fun id' stored' h' hn => ?_
  rw [nameOf?_sent] at hn
  exact hs.unique h' h hn

theorem WellFormed.put_made (hs : WellFormed s) (hid : Addressable id) {g : Group} (hg : g.name ≠ "")
    (hn : s.idForName? g.name = none) : WellFormed (s.put id (made id g)) := by
  refine hs.put (sound_made hid hg) fun id' stored' h' he => ?_
  rw [nameOf?_eq_some_iff.2 (find?_name_made id g)] at he
  exact absurd he (idForName?_eq_none_iff.1 hn id' stored' h')

theorem WellFormed.of_groups {t : Store} (hs : WellFormed s) (h : t.groups = s.groups) : WellFormed t := by
  refine ⟨fun hf => ?_, fun hf hf' => ?_⟩
  · rw [h] at hf
    exact hs.sound hf
  · rw [h] at hf hf'
    exact hs.unique hf hf'

end Vault.Store

end IdentityGroups
