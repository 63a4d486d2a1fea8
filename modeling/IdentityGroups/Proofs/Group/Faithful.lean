import Mathlib
import IdentityGroups.Proofs.Json.ReadBack
import IdentityGroups.Proofs.Vault.Contents
import IdentityGroups.Resource.Spec

/-! # What is not lost on the way to Vault

The body of an update holds the optional attributes that are set and not empty, each with its value, and the
body of a create the name and the kind besides. So the body of a create tells a group from every other, unless
they differ in an empty collection where the other has none.
-/

namespace IdentityGroups

open Entries Json

namespace Json

theorem ofTexts_injective : Function.Injective ofTexts := by
  intro l l' h
  exact Except.ok.inj ((Decode.list_ofTexts l).symm.trans (h ▸ Decode.list_ofTexts l'))

theorem ofTextDict_injective : Function.Injective ofTextDict := by
  intro d d' h
  exact Except.ok.inj ((Decode.dict_ofTextDict d).symm.trans (h ▸ Decode.dict_ofTextDict d'))

theorem mem_memberIfSome {α : Type} {k k' : String} {f : α → Json} {o : Option α} {v : Json} :
    (k, v) ∈ memberIfSome k' f o ↔ k = k' ∧ ∃ a, o = some a ∧ v = f a := by
  cases o with
  | none => simp [memberIfSome]
  | some a => simp [memberIfSome]

end Json

namespace Group

variable {g h : Group} {k : String} {v : Json}

/-- What is asked of an optional attribute, under the name that it has in Vault: no empty collection is asked
for, and every other is as it stands. -/
inductive Asks (g : Group) : String → Json → Prop
  | metadata {d : Dict String} (hd : g.metadata = some d) (hne : d.entries ≠ []) :
      Asks g "metadata" (.obj (d.entries.map fun p => (p.1, .str p.2)))
  | policies {l : List String} (hl : g.policies = some l) (hne : l ≠ []) : Asks g "policies" (.arr (l.map .str))
  | memberGroupIds {l : List String} (hl : g.memberGroupIds = some l) (hne : l ≠ []) :
      Asks g "member_group_ids" (.arr (l.map .str))
  | memberEntityIds {l : List String} (hl : g.memberEntityIds = some l) (hne : l ≠ []) :
      Asks g "member_entity_ids" (.arr (l.map .str))

/-- The same attributes, a collection that is not set counting as an empty one. -/
structure SameButEmpty (g h : Group) : Prop where
  name : g.name = h.name
  kind : g.kind = h.kind
  metadata : g.metadata.getD .empty = h.metadata.getD .empty
  policies : g.policies.getD [] = h.policies.getD []
  memberGroupIds : g.memberGroupIds.getD [] = h.memberGroupIds.getD []
  memberEntityIds : g.memberEntityIds.getD [] = h.memberEntityIds.getD []

/-! ## Collections that are set -/

theorem set?_eq_some_iff {α : Type} {isEmpty : α → Bool} {o : Option α} {a : α} :
    set? isEmpty o = some a ↔ o = some a ∧ isEmpty a = false := by
  simp [set?, Option.filter_eq_some_iff]

/-- Where one collection is empty, and counts as none, the collections that are set tell all others apart. -/
theorem set?_eq_iff {α : Type} {isEmpty : α → Bool} {empty : α} (hempty : ∀ a, isEmpty a = true ↔ a = empty)
    {o o' : Option α} : set? isEmpty o = set? isEmpty o' ↔ o.getD empty = o'.getD empty := by
  have hgetD (o : Option α) : (set? isEmpty o).getD empty = o.getD empty := by
    cases o with
    | none => rfl
    | some a =>
      cases ha : isEmpty a with
      | true =>
        rw [set?_eq_none fun b hb => Option.some.inj hb ▸ ha]
        exact ((hempty a).1 ha).symm
      | false => rw [set?_eq_some_iff.2 ⟨rfl, ha⟩]
  have hset (o : Option α) : set? isEmpty (some (o.getD empty)) = set? isEmpty o := by
    cases o with
    | none => exact set?_eq_none fun b hb => (hempty b).2 (Option.some.inj hb).symm
    | some a => rfl
  constructor
  · intro he
    rw [← hgetD o, he, hgetD o']
  · intro he
    rw [← hset o, he, hset o']

theorem set?_texts_eq_iff {o o' : Option (List String)} :
    set? List.isEmpty o = set? List.isEmpty o' ↔ o.getD [] = o'.getD [] :=
  set?_eq_iff fun _ => List.isEmpty_iff

theorem isEmpty_dict_iff (d : Dict String) : d.isEmpty = true ↔ d = .empty := by
  rw [Dict.isEmpty, List.isEmpty_iff]
  constructor
  · intro hd
    cases d
    cases hd
    rfl
  · rintro rfl
    rfl

/-! ## The members of the bodies -/

theorem mem_setMembers_iff : (k, v) ∈ g.setMembers ↔ g.Asks k v := by
  simp only [setMembers_eq, List.mem_append, mem_memberIfSome, set?_eq_some_iff]
  constructor
  · rintro (((⟨rfl, d, ⟨hd, hne⟩, rfl⟩ | ⟨rfl, l, ⟨hl, hne⟩, rfl⟩) | ⟨rfl, l, ⟨hl, hne⟩, rfl⟩) |
      ⟨rfl, l, ⟨hl, hne⟩, rfl⟩)
    · exact .metadata hd (by simpa [Dict.isEmpty] using hne)
    · exact .policies hl (by simpa using hne)
    · exact .memberGroupIds hl (by simpa using hne)
    · exact .memberEntityIds hl (by simpa using hne)
  · intro ha
    cases ha with
    | metadata hd hne => exact .inl (.inl (.inl ⟨rfl, _, ⟨hd, by simpa [Dict.isEmpty] using hne⟩, rfl⟩))
    | policies hl hne => exact .inl (.inl (.inr ⟨rfl, _, ⟨hl, by simpa using hne⟩, rfl⟩))
    | memberGroupIds hl hne => exact .inl (.inr ⟨rfl, _, ⟨hl, by simpa using hne⟩, rfl⟩)
    | memberEntityIds hl hne => exact .inr ⟨rfl, _, ⟨hl, by simpa using hne⟩, rfl⟩

/-- The members of an object are those that it was made of. -/
theorem mem_ofList_iff {pairs : List (String × Json)} (hd : Distinct pairs) :
    (k, v) ∈ ofList pairs ↔ (k, v) ∈ pairs := by
  rw [← Entries.find?_eq_some_iff (ascending_ofList pairs).distinct, find?_ofList k hd,
    Entries.find?_eq_some_iff hd]

theorem Asks.optional (ha : g.Asks k v) :
    k ∈ ["metadata", "policies", "member_group_ids", "member_entity_ids"] := by
  cases ha <;> simp

/-! ## Groups told apart -/

theorem word_injective : Function.Injective GroupKind.word := by
  intro a b he
  exact Option.some.inj ((GroupKind.ofWord?_word a).symm.trans (he ▸ GroupKind.ofWord?_word b))

theorem sameButEmpty_of_createBody (he : g.createBody = h.createBody) : g.SameButEmpty h := by
  have hmember : ∀ k, g.createBody.member? k = h.createBody.member? k := fun k => by rw [he]
  have hsent (a : Attribute) : a.sent? g = a.sent? h := by
    rw [← member?_updateBody_name, ← member?_updateBody_name, ← member?_createBody_of_optional g a.mem_names,
      hmember, member?_createBody_of_optional h a.mem_names]
  have hname := hmember "name"
  have htype := hmember "type"
  simp only [member?_createBody, find?, reduceIte, Option.some_or] at hname
  simp only [member?_createBody, find?, String.reduceEq, reduceIte, Option.some_or] at htype
  exact {
    name := Json.str.inj (Option.some.inj hname)
    kind := word_injective (Json.str.inj (Option.some.inj htype))
    metadata :=
      (set?_eq_iff isEmpty_dict_iff).1 (Option.map_injective ofTextDict_injective (hsent .metadata))
    policies := set?_texts_eq_iff.1 (Option.map_injective ofTexts_injective (hsent .policies))
    memberGroupIds := set?_texts_eq_iff.1 (Option.map_injective ofTexts_injective (hsent .memberGroupIds))
    memberEntityIds := set?_texts_eq_iff.1 (Option.map_injective ofTexts_injective (hsent .memberEntityIds)) }

theorem createBody_of_sameButEmpty (hs : g.SameButEmpty h) : g.createBody = h.createBody := by
  have hmembers : g.setMembers = h.setMembers := by
    rw [setMembers_eq, setMembers_eq, (set?_eq_iff isEmpty_dict_iff).2 hs.metadata,
      set?_texts_eq_iff.2 hs.policies, set?_texts_eq_iff.2 hs.memberGroupIds,
      set?_texts_eq_iff.2 hs.memberEntityIds]
  rw [createBody, createBody, hmembers, hs.name, hs.kind]

theorem storable_createBody (g : Group) : Storable 2 g.createBody := by
  refine storable_object fun p hp => ?_
  rcases List.mem_append.1 hp with hp | hp
  · simp only [List.mem_cons, List.not_mem_nil, or_false] at hp
    rcases hp with rfl | rfl
    · exact storable_str 1 _
    · exact storable_str 1 _
  · rw [setMembers_eq] at hp
    simp only [List.mem_append] at hp
    rcases hp with ((hp | hp) | hp) | hp
    · exact storable_memberIfSome (storable_ofTextDict 0) _ p hp
    · exact storable_memberIfSome (storable_ofTexts 0) _ p hp
    · exact storable_memberIfSome (storable_ofTexts 0) _ p hp
    · exact storable_memberIfSome (storable_ofTexts 0) _ p hp

/-- Bodies are told apart by what they are written as. -/
theorem render_createBody_eq_iff : g.createBody.render = h.createBody.render ↔ g.createBody = h.createBody := by
  constructor
  · intro he
    have hg := g.storable_createBody.parse?_render (by decide)
    have hh := h.storable_createBody.parse?_render (by decide)
    rw [he, hh] at hg
    exact (Option.some.inj hg).symm
  · intro he
    rw [he]

end Group

theorem Spec.group_bijective : Function.Bijective Spec.group := by
  constructor
  · rintro ⟨name, kind, metadata, policies, groupIds, entityIds⟩ s he
    cases s
    simpa [Spec.group] using he
  · rintro ⟨name, kind, metadata, policies, groupIds, entityIds⟩
    exact ⟨⟨name, kind, metadata, policies, groupIds, entityIds⟩, rfl⟩

namespace Group

/-- The body of an update holds what is asked of the optional attributes and nothing else, the body of a create the
name and the kind besides; groups have one body, as a value and as a text, just when they are the same but that
one may have an empty collection where the other has none; and a group is all that a resource can ask for. -/
theorem bodies_tell_all (g : Group) :
    (∃ update create, g.updateBody = .obj update ∧ g.createBody = .obj create ∧
      Ascending update ∧ Ascending create ∧
      (∀ k v, (k, v) ∈ update ↔ g.Asks k v) ∧
      (∀ v, ("name", v) ∉ update ∧ ("type", v) ∉ update) ∧
      ∀ k v, (k, v) ∈ create ↔
        (k, v) = ("name", .str g.name) ∨ (k, v) = ("type", .str g.kind.word) ∨ (k, v) ∈ update) ∧
    (∀ h : Group, (g.createBody = h.createBody ↔ g.SameButEmpty h) ∧
      (g.createBody.render = h.createBody.render ↔ g.SameButEmpty h)) ∧
    Function.Bijective Spec.group := by
  have hbodies (h : Group) : g.createBody = h.createBody ↔ g.SameButEmpty h :=
    ⟨sameButEmpty_of_createBody, createBody_of_sameButEmpty⟩
  have hupdate (k : String) (v : Json) : (k, v) ∈ ofList g.setMembers ↔ g.Asks k v := by
    rw [mem_ofList_iff g.distinct_setMembers, mem_setMembers_iff]
  refine ⟨⟨_, _, rfl, rfl, ascending_ofList _, ascending_ofList _, hupdate, fun v => ?_, fun k v => ?_⟩,
    fun h => ⟨hbodies h, render_createBody_eq_iff.trans (hbodies h)⟩, Spec.group_bijective⟩
  · rw [hupdate, hupdate]
    exact ⟨fun ha => absurd ha.optional (by decide), fun ha => absurd ha.optional (by decide)⟩
  · rw [hupdate, mem_ofList_iff g.distinct_createMembers, List.mem_append, mem_setMembers_iff, List.mem_cons,
      List.mem_singleton, or_assoc]

end Group

end IdentityGroups
