import IdentityGroups.Vault.Failure

/-! # Why bringing a group in line with Vault fails -/

namespace IdentityGroups.Sync

inductive Operation where
  | create
  | update
  | read
  | delete
  | exists
  | lookup
  deriving DecidableEq, Repr, Inhabited

def Operation.word : Operation → String
  | .create => "create"
  | .update => "update"
  | .read => "read"
  | .delete => "delete"
  | .exists => "exists"
  | .lookup => "lookup"

/-- `key` is the id or the name that the request was about. -/
inductive Error where
  | write (operation : Operation) (key : String) (source : Vault.Failure)
  | read (operation : Operation) (key : String) (source : Vault.Failure)
  | delete (key : String) (source : Vault.Failure)
  /-- Vault answered with a payload that cannot be used. -/
  | malformed (path reason : String)
  /-- A group without an id was to be updated. -/
  | untracked
  deriving DecidableEq, Repr

def Error.message : Error → String
  | .write op key source =>
    s!"Error writing identity group '{key}' ({op.word}): " ++ source.message
  | .read op key source =>
    s!"Error reading identity group '{key}' ({op.word}): " ++ source.message
  | .delete key source => s!"Error deleting identity group '{key}': " ++ source.message
  | .malformed path reason => s!"Malformed response from '{path}': {reason}"
  | .untracked => "Validation error: Cannot update an identity group without an id"

def Error.isRemote : Error → Bool
  | .untracked => false
  | _ => true

end IdentityGroups.Sync
