import IdentityGroups.Json.Basic

/-! # Merge patches (RFC 7386)

A patch that is an object changes the members it names and leaves the others: null removes a
member, anything else is merged into it. A patch of another kind takes the place of the target.
-/

namespace IdentityGroups.Json

def membersOrNone : Json → List (String × Json)
  | .obj members => members
  | _ => []

mutual

def merge (target : Json) : (patch : Json) → Json
  | .obj members => .obj (mergeMembers target.membersOrNone members)
  | patch => patch

def mergeMembers (target : List (String × Json)) : List (String × Json) → List (String × Json)
  | [] => target
  | (k, .null) :: patch => mergeMembers (Entries.erase k target) patch
  | (k, v) :: patch =>
    mergeMembers (Entries.insert k (merge ((Entries.find? k target).getD .null) v) target) patch

end

end IdentityGroups.Json
