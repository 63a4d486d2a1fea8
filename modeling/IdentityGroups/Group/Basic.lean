import IdentityGroups.Dict

/-! # Identity groups

The attributes of a group, the id under which Vault holds it, and what was last reported of a group
that is tracked. An absent collection differs from an empty one.
-/

namespace IdentityGroups

/-- Whether membership is managed in Vault or derived from an auth method's group alias. -/
inductive GroupKind where
  | internal
  | external
  deriving DecidableEq, Repr, Inhabited

def GroupKind.word : GroupKind → String
  | .internal => "internal"
  | .external => "external"

def GroupKind.ofWord? (s : String) : Option GroupKind :=
  if s = "internal" then some .internal
  else if s = "external" then some .external
  else none

theorem GroupKind.ofWord?_word (k : GroupKind) : ofWord? k.word = some k := by
  cases k <;> rfl

structure Group where
  name : String
  kind : GroupKind := .internal
  metadata : Option (Dict String) := none
  policies : Option (List String) := none
  memberGroupIds : Option (List String) := none
  memberEntityIds : Option (List String) := none
  deriving DecidableEq, Inhabited

/-- A group and the id under which Vault holds it; no id while it is not held. -/
structure GroupState where
  id : Option String := none
  group : Group
  deriving DecidableEq, Inhabited

/-- What Vault last reported of a group it was seen to hold. -/
structure Tracked where
  id : String
  name : Option String := none
  kind : Option GroupKind := none
  deriving DecidableEq, Inhabited

/-- Whether an attribute that cannot change in place differs from the one last reported. What was
not reported does not differ. -/
def Group.mustReplace (desired : Group) (tracked : Tracked) : Bool :=
  tracked.name.any (· ≠ desired.name) || tracked.kind.any (· ≠ desired.kind)

end IdentityGroups
