import IdentityGroups.Group.Decode

/-! # What a resource asks for -/

namespace IdentityGroups

structure Spec where
  name : String
  kind : GroupKind := .internal
  metadata : Option (Dict String) := none
  policies : Option (List String) := none
  memberGroupIds : Option (List String) := none
  memberEntityIds : Option (List String) := none
  deriving DecidableEq, Inhabited

namespace Spec

def group (s : Spec) : Group :=
  { name := s.name
    kind := s.kind
    metadata := s.metadata
    policies := s.policies
    memberGroupIds := s.memberGroupIds
    memberEntityIds := s.memberEntityIds }

def encode (s : Spec) : Json := .object <|
  [("name", .str s.name), ("type", .str s.kind.word)] ++
    Json.memberIfSome "metadata" .ofTextDict s.metadata ++
    Json.memberIfSome "policies" .ofTexts s.policies ++
    Json.memberIfSome "memberGroupIds" .ofTexts s.memberGroupIds ++
    Json.memberIfSome "memberEntityIds" .ofTexts s.memberEntityIds

open Json Json.Decode

def decode : Decoder Spec
  | .obj m => do
    let memberEntityIds ← optionalMember m "memberEntityIds" (list text)
    let memberGroupIds ← optionalMember m "memberGroupIds" (list text)
    let metadata ← optionalMember m "metadata" (dict text)
    let name ← present? m "name" text
    let policies ← optionalMember m "policies" (list text)
    let kind ← memberOr .internal m "type" GroupKind.decode
    let name ← require "name" name
    return { name, kind, metadata, policies, memberGroupIds, memberEntityIds }
  | .arr items => do
    let expected := "struct VaultIdentityGroupSpec with 6 elements"
    let name ← item items expected 0 text
    let kind ← itemOr .internal items 1 GroupKind.decode
    let metadata ← item items expected 2 (optional (dict text))
    let policies ← item items expected 3 (optional (list text))
    let memberGroupIds ← item items expected 4 (optional (list text))
    let memberEntityIds ← item items expected 5 (optional (list text))
    noMore items 6
    return { name, kind, metadata, policies, memberGroupIds, memberEntityIds }
  | j => .error (.wrongKind j "struct VaultIdentityGroupSpec")

end Spec

end IdentityGroups
