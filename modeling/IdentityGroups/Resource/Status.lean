import IdentityGroups.Resource.Spec

/-! # What a resource reports -/

namespace IdentityGroups

structure Condition where
  type : String
  status : String
  lastTransitionTime : Time.Instant
  reason : Option String := none
  message : Option String := none
  deriving DecidableEq

structure Status where
  id : Option String := none
  phase : Option String := none
  message : Option String := none
  name : Option String := none
  kind : Option GroupKind := none
  metadata : Option (Dict String) := none
  memberGroupIds : Option (List String) := none
  memberEntityIds : Option (List String) := none
  lastSyncTime : Option Time.Instant := none
  observedGeneration : Option Int64 := none
  conditions : List Condition := []
  deriving DecidableEq

open Json Json.Decode

namespace Condition

def encode (c : Condition) : Json := .object <|
  [("type", .str c.type), ("status", .str c.status),
    ("lastTransitionTime", .str c.lastTransitionTime.render)] ++
    memberIfSome "reason" .str c.reason ++ memberIfSome "message" .str c.message

def decode : Decoder Condition
  | .obj m => do
    let lastTransitionTime ← present? m "lastTransitionTime" instant
    let message ← optionalMember m "message" text
    let reason ← optionalMember m "reason" text
    let status ← present? m "status" text
    let type ← present? m "type" text
    let type ← require "type" type
    let status ← require "status" status
    let lastTransitionTime ← require "lastTransitionTime" lastTransitionTime
    return { type, status, lastTransitionTime, reason, message }
  | .arr items => do
    let expected := "struct Condition with 5 elements"
    let type ← item items expected 0 text
    let status ← item items expected 1 text
    let lastTransitionTime ← item items expected 2 instant
    let reason ← item items expected 3 (optional text)
    let message ← item items expected 4 (optional text)
    noMore items 5
    return { type, status, lastTransitionTime, reason, message }
  | j => .error (.wrongKind j "struct Condition")

end Condition

namespace Status

def encode (s : Status) : Json := .object <|
  memberIfSome "id" .str s.id ++ memberIfSome "phase" .str s.phase ++
    memberIfSome "message" .str s.message ++ memberIfSome "name" .str s.name ++
    memberIfSome "type" (fun k => .str k.word) s.kind ++
    memberIfSome "metadata" .ofTextDict s.metadata ++
    memberIfSome "memberGroupIds" .ofTexts s.memberGroupIds ++
    memberIfSome "memberEntityIds" .ofTexts s.memberEntityIds ++
    memberIfSome "lastSyncTime" (fun t => .str t.render) s.lastSyncTime ++
    memberIfSome "observedGeneration" .ofInt64 s.observedGeneration ++
    [("conditions", .arr (s.conditions.map Condition.encode))]

def decode : Decoder Status
  | .obj m => do
    let conditions ← memberOr [] m "conditions" (list Condition.decode)
    let id ← optionalMember m "id" text
    let lastSyncTime ← optionalMember m "lastSyncTime" instant
    let memberEntityIds ← optionalMember m "memberEntityIds" (list text)
    let memberGroupIds ← optionalMember m "memberGroupIds" (list text)
    let message ← optionalMember m "message" text
    let metadata ← optionalMember m "metadata" (dict text)
    let name ← optionalMember m "name" text
    let observedGeneration ← optionalMember m "observedGeneration" int64
    let phase ← optionalMember m "phase" text
    let kind ← optionalMember m "type" GroupKind.decode
    return { id, phase, message, name, kind, metadata, memberGroupIds, memberEntityIds,
             lastSyncTime, observedGeneration, conditions }
  | .arr items => do
    let expected := "struct VaultIdentityGroupStatus with 11 elements"
    let id ← item items expected 0 (optional text)
    let phase ← item items expected 1 (optional text)
    let message ← item items expected 2 (optional text)
    let name ← item items expected 3 (optional text)
    let kind ← itemOr none items 4 (optional GroupKind.decode)
    let metadata ← item items expected 5 (optional (dict text))
    let memberGroupIds ← item items expected 6 (optional (list text))
    let memberEntityIds ← item items expected 7 (optional (list text))
    let lastSyncTime ← item items expected 8 (optional instant)
    let observedGeneration ← item items expected 9 (optional int64)
    let conditions ← itemOr [] items 10 (list Condition.decode)
    noMore items 11
    return { id, phase, message, name, kind, metadata, memberGroupIds, memberEntityIds,
             lastSyncTime, observedGeneration, conditions }
  | j => .error (.wrongKind j "struct VaultIdentityGroupStatus")

/-- The group that a status says is held; an empty id says nothing. -/
def tracked? (s : Status) : Option Tracked :=
  (s.id.filter (· ≠ "")).map fun id => { id, name := s.name, kind := s.kind }

end Status

end IdentityGroups
