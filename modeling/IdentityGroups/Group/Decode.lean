import IdentityGroups.Group.Basic
import IdentityGroups.Json.Decode

/-! # Group attributes taken from JSON -/

namespace IdentityGroups

open Json Json.Decode

/-- A kind is its word, or an object whose only member is that word with null. -/
def GroupKind.decode : Decoder GroupKind
  | .str s => ofWord s
  | .obj [(k, j)] => do
    let kind ← ofWord k
    match j with
    | .null => return kind
    | j => throw (.wrongKind j "unit")
  | .obj _ => .error .notOneVariant
  | j => .error (.wrongKind j "string or map")
where
  ofWord (s : String) : Except Mismatch GroupKind :=
    match ofWord? s with
    | some k => .ok k
    | none => .error (.unknownVariant s "`internal` or `external`")

/-- What a read of a group reports. Policies belong to the desired group and are not taken. -/
structure Observed where
  name : Option String := none
  kind : Option GroupKind := none
  metadata : Option (Dict String) := none
  memberEntityIds : Option (List String) := none
  memberGroupIds : Option (List String) := none
  deriving DecidableEq

namespace Observed

def decode (data : Dict Json) : Except Mismatch Observed := do
  let m := data.entries
  let memberEntityIds ← optionalMember m "member_entity_ids" (list text)
  let memberGroupIds ← optionalMember m "member_group_ids" (list text)
  let metadata ← optionalMember m "metadata" (dict text)
  let name ← optionalMember m "name" text
  let kind ← optionalMember m "type" GroupKind.decode
  return { name, kind, metadata, memberEntityIds, memberGroupIds }

/-- The group with what was reported of it; a name or kind that was not reported stays. -/
def applyTo (o : Observed) (g : Group) : Group :=
  { g with
    name := o.name.getD g.name
    kind := o.kind.getD g.kind
    metadata := o.metadata
    memberEntityIds := o.memberEntityIds
    memberGroupIds := o.memberGroupIds }

end Observed

end IdentityGroups
