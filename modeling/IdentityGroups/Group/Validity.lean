import IdentityGroups.Group.Basic
import IdentityGroups.Text.Blank

/-! # Groups that may be asked for -/

namespace IdentityGroups.Group

inductive Objection where
  | blankName
  | slashInName (name : String)
  | emptyMetadataKey
  | blankMember (field : String)
  | externalMembers
  deriving DecidableEq, Repr

def Objection.message : Objection → String
  | .blankName => "Group name must not be empty"
  | .slashInName name => s!"Invalid group name '{name}': must not contain '/'"
  | .emptyMetadataKey => "Metadata keys must not be empty"
  | .blankMember field => s!"{field} must not contain empty IDs"
  | .externalMembers =>
    "External groups cannot have member entities; membership comes from group aliases"

def hasBlank (ids : Option (List String)) : Bool := (ids.getD []).any Text.allBlank

def objection? (g : Group) : Option Objection :=
  if Text.allBlank g.name then some .blankName
  else if '/' ∈ g.name.toList then some (.slashInName g.name)
  else if (g.metadata.getD .empty).contains "" then some .emptyMetadataKey
  else if hasBlank g.memberGroupIds then some (.blankMember "memberGroupIds")
  else if hasBlank g.memberEntityIds then some (.blankMember "memberEntityIds")
  else if g.kind = .external ∧ g.memberEntityIds.getD [] ≠ [] then some .externalMembers
  else none

def Valid (g : Group) : Prop := g.objection? = none

instance (g : Group) : Decidable g.Valid := by unfold Valid; infer_instance

end IdentityGroups.Group
