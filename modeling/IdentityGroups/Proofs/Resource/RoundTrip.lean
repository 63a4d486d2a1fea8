import Mathlib
import IdentityGroups.Proofs.Json.ReadBack
import IdentityGroups.Proofs.Resource.Report

/-! # A status written reads back

A member is written only for a field that has a value, and fields have distinct names, so each field is
read from its own member or found absent.
-/

namespace IdentityGroups
open Json Json.Decode Entries

/-- A member written only for a value reads as the value or its absence. -/
theorem optionalMember_of_find? {α : Type} {p : List (String × Json)} (hp : Distinct p) {k : String}
    {f : α → Json} {o : Option α} (hk : find? k p = o.map f) {item : Decoder α} (hf : ∀ a, f a ≠ .null)
    (hi : ∀ a, item (f a) = .ok a) : optionalMember (ofList p) k item = .ok o := by
  rw [optionalMember_eq, find?_ofList k hp, hk]
  cases o with
  | none => rfl
  | some a => exact optional_ofOption hf hi (some a)

namespace Condition

theorem decode_encode (c : Condition) : decode c.encode = .ok c := by
  have hd : Distinct ([("type", Json.str c.type), ("status", .str c.status),
      ("lastTransitionTime", .str c.lastTransitionTime.render)] ++
      memberIfSome "reason" .str c.reason ++ memberIfSome "message" .str c.message) := by
    refine List.Nodup.sublist ?_ (show ["type", "status", "lastTransitionTime", "reason", "message"].Nodup by
      decide)
    simp only [List.map_append]
    exact ((List.Sublist.refl _).append (keys_memberIfSome _ _ _)).append (keys_memberIfSome _ _ _)
  have htime := present?_ofList hd (k := "lastTransitionTime") rfl (instant_render c.lastTransitionTime)
  have hstatus := present?_ofList hd (k := "status") rfl (text_str c.status)
  have htype := present?_ofList hd (k := "type") rfl (text_str c.type)
  have hmessage := optionalMember_of_find? hd (k := "message") (o := c.message)
    (by simp [find?_append, find?_memberIfSome, find?]) (by simp) text_str
  have hreason := optionalMember_of_find? hd (k := "reason") (o := c.reason)
    (by simp [find?_append, find?_memberIfSome, find?]) (by simp) text_str
  simp only [encode, object, decode, htime, hmessage, hreason, hstatus, htype, require, bind, Except.bind,
    pure, Except.pure]

theorem list_encode (cs : List Condition) : list decode (.arr (cs.map encode)) = .ok cs := by
  change (cs.map encode).mapM decode = _
  induction cs with
  | nil => rfl
  | cons c cs ih =>
    rw [List.map_cons, List.mapM_cons, decode_encode, ih]
    rfl

theorem storable_encode (c : Condition) : Storable 1 c.encode := by
  refine storable_object fun p hp => ?_
  simp only [List.mem_append, List.mem_cons, List.not_mem_nil, or_false] at hp
  rcases hp with ((rfl | rfl | rfl) | hp) | hp
  · exact storable_str 0 _
  · exact storable_str 0 _
  · exact storable_str 0 _
  · exact storable_memberIfSome (storable_str 0) _ p hp
  · exact storable_memberIfSome (storable_str 0) _ p hp

end Condition

namespace Status

def members (s : Status) : List (String × Json) :=
  memberIfSome "id" .str s.id ++ memberIfSome "phase" .str s.phase ++
    memberIfSome "message" .str s.message ++ memberIfSome "name" .str s.name ++
    memberIfSome "type" (fun k => .str k.word) s.kind ++
    memberIfSome "metadata" .ofTextDict s.metadata ++
    memberIfSome "memberGroupIds" .ofTexts s.memberGroupIds ++
    memberIfSome "memberEntityIds" .ofTexts s.memberEntityIds ++
    memberIfSome "lastSyncTime" (fun t => .str t.render) s.lastSyncTime ++
    memberIfSome "observedGeneration" .ofInt64 s.observedGeneration ++
    [("conditions", .arr (s.conditions.map Condition.encode))]

theorem distinct_members (s : Status) : Distinct s.members := by
  refine List.Nodup.sublist ?_ (show ["id", "phase", "message", "name", "type", "metadata",
    "memberGroupIds", "memberEntityIds", "lastSyncTime", "observedGeneration", "conditions"].Nodup by decide)
  simp only [members, List.map_append]
  have h := fun {α : Type} (k : String) (f : α → Json) (o : Option α) => keys_memberIfSome k f o
  exact ((((((((((h _ _ _).append (h _ _ _)).append (h _ _ _)).append (h _ _ _)).append (h _ _ _)).append
    (h _ _ _)).append (h _ _ _)).append (h _ _ _)).append (h _ _ _)).append (h _ _ _)).append
    (List.Sublist.refl _)

theorem storable_members (s : Status) : ∀ p ∈ s.members, Storable 2 p.2 := by
  intro p hp
  simp only [members, List.mem_append, List.mem_singleton] at hp
  rcases hp with (((((((((hp | hp) | hp) | hp) | hp) | hp) | hp) | hp) | hp) | hp) | rfl
  · exact storable_memberIfSome (storable_str 2) _ p hp
  · exact storable_memberIfSome (storable_str 2) _ p hp
  · exact storable_memberIfSome (storable_str 2) _ p hp
  · exact storable_memberIfSome (storable_str 2) _ p hp
  · exact storable_memberIfSome (fun _ => storable_str 2 _) _ p hp
  · exact storable_memberIfSome (storable_ofTextDict 1) _ p hp
  · exact storable_memberIfSome (storable_ofTexts 1) _ p hp
  · exact storable_memberIfSome (storable_ofTexts 1) _ p hp
  · exact storable_memberIfSome (fun _ => storable_str 2 _) _ p hp
  · exact storable_memberIfSome (storable_ofInt64 2) _ p hp
  · refine storable_arr fun j hj => ?_
    obtain ⟨c, _, rfl⟩ := List.mem_map.1 hj
    exact c.storable_encode

theorem reads_members (s : Status) : Reads (ofList s.members) s where
  conditions := by
    rw [memberOr_eq, find?_ofList _ s.distinct_members]
    have hf : find? "conditions" s.members = some (.arr (s.conditions.map Condition.encode)) := by
      simp [members, find?_append, find?_memberIfSome, find?]
    rw [hf]
    exact Condition.list_encode s.conditions
  id := optionalMember_of_find? s.distinct_members
    (by simp [members, find?_append, find?_memberIfSome, find?]) (by simp) text_str
  lastSyncTime := optionalMember_of_find? s.distinct_members
    (by simp [members, find?_append, find?_memberIfSome, find?]) (by simp) instant_render
  memberEntityIds := optionalMember_of_find? s.distinct_members
    (by simp [members, find?_append, find?_memberIfSome, find?]) (by simp [ofTexts]) list_ofTexts
  memberGroupIds := optionalMember_of_find? s.distinct_members
    (by simp [members, find?_append, find?_memberIfSome, find?]) (by simp [ofTexts]) list_ofTexts
  message := optionalMember_of_find? s.distinct_members
    (by simp [members, find?_append, find?_memberIfSome, find?]) (by simp) text_str
  metadata := optionalMember_of_find? s.distinct_members
    (by simp [members, find?_append, find?_memberIfSome, find?]) (by simp [ofTextDict, ofDict]) dict_ofTextDict
  name := optionalMember_of_find? s.distinct_members
    (by simp [members, find?_append, find?_memberIfSome, find?]) (by simp) text_str
  observedGeneration := optionalMember_of_find? s.distinct_members
    (by simp [members, find?_append, find?_memberIfSome, find?]) (by simp [ofInt64]) int64_ofInt64
  phase := optionalMember_of_find? s.distinct_members
    (by simp [members, find?_append, find?_memberIfSome, find?]) (by simp) text_str
  kind := optionalMember_of_find? s.distinct_members
    (by simp [members, find?_append, find?_memberIfSome, find?]) (by simp) kind_word

/-- A status is held as it is written. -/
theorem held_encode (s : Option Status) : Held (.ofOption encode s) s := by
  cases s with
  | none => exact .absent
  | some s => exact .present (storable_object s.storable_members).canonical s.reads_members

end Status

end IdentityGroups
