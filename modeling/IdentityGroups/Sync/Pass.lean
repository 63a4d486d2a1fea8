import IdentityGroups.Sync.Operations

/-! # A pass that brings Vault in line with a group

A tracked group whose name or kind changed is deleted and made anew. What is not tracked is looked
up by name and adopted, or created. What is tracked is updated when its specification changed, and
otherwise read, which shows whether it still exists.
-/

namespace IdentityGroups.Sync

inductive Action where
  | created
  /-- A group with the desired name was taken over and updated. -/
  | adopted
  | replaced (previousId : String)
  | updated
  | refreshed
  deriving DecidableEq, Repr, Inhabited

def Action.word : Action → String
  | .created => "created"
  | .adopted => "adopted"
  | .replaced _ => "replaced"
  | .updated => "updated"
  | .refreshed => "refreshed"

structure Report where
  action : Action
  outcome : Outcome
  deriving DecidableEq, Repr, Inhabited

def Action.orReplaced (otherwise : Action) : (replaced : Option String) → Action
  | some id => .replaced id
  | none => otherwise

/-- Takes over the group with the desired name, or creates it. -/
def claim (replaced : Option String) : Update Report := do
  match ← (lookup (← get).group.name).within with
  | some id =>
    modify fun s => { s with id := some id }
    return ⟨Action.adopted.orReplaced replaced, ← update⟩
  | none =>
    let _ ← create
    let outcome := if (← get).id.isSome then .refreshed else .gone
    return ⟨Action.created.orReplaced replaced, outcome⟩

def maintain (id : String) (specChanged : Bool) : Update Report := do
  modify fun s => { s with id := some id }
  if specChanged then return ⟨.updated, ← update⟩ else return ⟨.refreshed, ← read⟩

def pass (tracked : Option Tracked) (specChanged : Bool) : Update Report := do
  -- Whichever way the pass takes, the id is learnt anew.
  modify fun s => { s with id := none }
  match tracked with
  | none => claim none
  | some t =>
    if (← get).group.mustReplace t then
      (delete t.id).within
      claim (some t.id)
    else maintain t.id specChanged

end IdentityGroups.Sync
