import IdentityGroups.Group.Basic
import IdentityGroups.Json.Basic

/-! # Bodies of requests

An update sends the optional attributes that are set, an empty collection counting as not set; a
create sends the name and the kind as well.
-/

namespace IdentityGroups.Group

def set? {α : Type} (isEmpty : α → Bool) (o : Option α) : Option α := o.filter fun a => !isEmpty a

def setMembers (g : Group) : List (String × Json) :=
  let texts (name : String) (o : Option (List String)) : List (String × Json) :=
    (set? List.isEmpty o).toList.map fun l => (name, Json.ofTexts l)
  (set? Dict.isEmpty g.metadata).toList.map (fun d => ("metadata", Json.ofTextDict d)) ++
    texts "policies" g.policies ++ texts "member_group_ids" g.memberGroupIds ++
    texts "member_entity_ids" g.memberEntityIds

def updateBody (g : Group) : Json := .object g.setMembers

def createBody (g : Group) : Json :=
  .object ([("name", .str g.name), ("type", .str g.kind.word)] ++ g.setMembers)

end IdentityGroups.Group
