import Mathlib
import IdentityGroups.Group.Body
import IdentityGroups.Proofs.Json.Merge

/-! # What the bodies of requests carry

Each optional attribute that is set stands under its own name in the body of an update and of a create.
-/

namespace IdentityGroups.Group
open Entries Json

theorem setMembers_eq (g : Group) : g.setMembers =
    memberIfSome "metadata" .ofTextDict (set? Dict.isEmpty g.metadata) ++
      memberIfSome "policies" .ofTexts (set? List.isEmpty g.policies) ++
      memberIfSome "member_group_ids" .ofTexts (set? List.isEmpty g.memberGroupIds) ++
      memberIfSome "member_entity_ids" .ofTexts (set? List.isEmpty g.memberEntityIds) := by
  simp only [setMembers, memberIfSome, Option.toList_map]

/-- The optional attributes. -/
inductive Attribute where
  | metadata
  | policies
  | memberGroupIds
  | memberEntityIds

def Attribute.name : Attribute → String
  | .metadata => "metadata"
  | .policies => "policies"
  | .memberGroupIds => "member_group_ids"
  | .memberEntityIds => "member_entity_ids"

def Attribute.sent? (g : Group) : Attribute → Option Json
  | .metadata => (set? Dict.isEmpty g.metadata).map .ofTextDict
  | .policies => (set? List.isEmpty g.policies).map .ofTexts
  | .memberGroupIds => (set? List.isEmpty g.memberGroupIds).map .ofTexts
  | .memberEntityIds => (set? List.isEmpty g.memberEntityIds).map .ofTexts

theorem Attribute.mem_names (a : Attribute) :
    a.name ∈ ["metadata", "policies", "member_group_ids", "member_entity_ids"] := by
  cases a <;> simp [name]

theorem find?_setMembers (g : Group) (a : Attribute) : find? a.name g.setMembers = a.sent? g := by
  cases a <;> simp [setMembers_eq, find?_append, find?_memberIfSome, Attribute.name, Attribute.sent?]

theorem keys_setMembers (g : Group) : (g.setMembers.map (·.1)).Sublist
    ["metadata", "policies", "member_group_ids", "member_entity_ids"] := by
  rw [setMembers_eq]
  simp only [List.map_append]
  exact (((keys_memberIfSome _ _ _).append (keys_memberIfSome _ _ _)).append
    (keys_memberIfSome _ _ _)).append (keys_memberIfSome _ _ _)

theorem distinct_setMembers (g : Group) : Distinct g.setMembers :=
  List.Nodup.sublist g.keys_setMembers (by decide)

theorem distinct_createMembers (g : Group) :
    Distinct ([("name", Json.str g.name), ("type", .str g.kind.word)] ++ g.setMembers) := by
  refine List.Nodup.sublist ?_ (show ["name", "type", "metadata", "policies", "member_group_ids",
    "member_entity_ids"].Nodup by decide)
  rw [List.map_append]
  exact (List.Sublist.refl _).append g.keys_setMembers

theorem set?_of_ne_nil {α : Type} {o : Option (List α)} {l : List α} (h : o = some l) (hl : l ≠ []) :
    set? List.isEmpty o = some l := by
  simp [set?, h, hl]

theorem set?_eq_none {α : Type} {isEmpty : α → Bool} {o : Option α} (h : ∀ a, o = some a → isEmpty a) :
    set? isEmpty o = none := by
  cases o with
  | none => rfl
  | some a =>
    have ha : isEmpty a = true := h a rfl
    simp [set?, ha]

/-- A body carries the optional attributes of a group that are set and not empty. -/
structure Carries (body : Json) (g : Group) : Prop where
  metadata : ∀ d, g.metadata = some d → d.isEmpty = false → body.member? "metadata" = some (.ofTextDict d)
  policies : ∀ l, g.policies = some l → l ≠ [] → body.member? "policies" = some (.ofTexts l)
  memberGroupIds : ∀ l, g.memberGroupIds = some l → l ≠ [] →
    body.member? "member_group_ids" = some (.ofTexts l)
  memberEntityIds : ∀ l, g.memberEntityIds = some l → l ≠ [] →
    body.member? "member_entity_ids" = some (.ofTexts l)

theorem carries_of_sent {body : Json} {g : Group}
    (h : ∀ (a : Attribute) v, a.sent? g = some v → body.member? a.name = some v) : Carries body g where
  metadata d hd he := h .metadata _ (by simp [Attribute.sent?, set?, hd, he])
  policies l hl hne := h .policies _ (by simp [Attribute.sent?, set?_of_ne_nil hl hne])
  memberGroupIds l hl hne := h .memberGroupIds _ (by simp [Attribute.sent?, set?_of_ne_nil hl hne])
  memberEntityIds l hl hne := h .memberEntityIds _ (by simp [Attribute.sent?, set?_of_ne_nil hl hne])

theorem member?_updateBody (g : Group) (k : String) : g.updateBody.member? k = find? k g.setMembers :=
  find?_ofList k g.distinct_setMembers

theorem member?_updateBody_name (g : Group) (a : Attribute) : g.updateBody.member? a.name = a.sent? g :=
  (g.member?_updateBody a.name).trans (g.find?_setMembers a)

theorem updateBody_carries (g : Group) : Carries g.updateBody g :=
  carries_of_sent fun a _ hv => (g.member?_updateBody_name a).trans hv

/-- The name and the kind stand under names of their own. -/
theorem find?_identity_of_optional (g : Group) {k : String}
    (hk : k ∈ ["metadata", "policies", "member_group_ids", "member_entity_ids"]) :
    find? k [("name", Json.str g.name), ("type", .str g.kind.word)] = none := by
  rw [find?_eq_none_iff]
  intro hk'
  simp only [List.map_cons, List.map_nil, List.mem_cons, List.not_mem_nil, or_false] at hk hk'
  rcases hk' with rfl | rfl <;> simp at hk

theorem member?_createBody (g : Group) (k : String) : g.createBody.member? k =
    (find? k [("name", Json.str g.name), ("type", .str g.kind.word)]).or (find? k g.setMembers) :=
  (find?_ofList k g.distinct_createMembers).trans (find?_append _ _ _)

/-- Of the optional attributes a create sends what an update sends. -/
theorem member?_createBody_of_optional (g : Group) {k : String}
    (hk : k ∈ ["metadata", "policies", "member_group_ids", "member_entity_ids"]) :
    g.createBody.member? k = g.updateBody.member? k := by
  rw [member?_createBody, member?_updateBody, g.find?_identity_of_optional hk, Option.none_or]

theorem createBody_carries (g : Group) : Carries g.createBody g := by
  refine carries_of_sent fun a v hv => ?_
  rw [g.member?_createBody_of_optional a.mem_names, g.member?_updateBody_name, hv]

end IdentityGroups.Group
