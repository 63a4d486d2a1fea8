import IdentityGroups.Sync.Error

/-! # Errors of the operator and the delay before a retry -/

namespace IdentityGroups.Operator

/-- The last six are what may go wrong around the finalizer of a resource. -/
inductive Error where
  /-- Kubernetes refused a request, in words of its own. -/
  | kubernetes
  /-- A value could not be written as JSON, in words of its own. -/
  | serialization
  | sync (e : Sync.Error)
  | config (message : String)
  | validation (message : String)
  | applyFailed (cause : Error)
  | cleanupFailed (cause : Error)
  | addFinalizer
  | removeFinalizer
  | unnamedObject
  | invalidFinalizer
  deriving DecidableEq, Inhabited, Repr

namespace Error

/-- The text of an error, unless it comes down to words that are not the operator's. -/
def message? : Error → Option String
  | .kubernetes | .serialization | .addFinalizer | .removeFinalizer => none
  | .sync e => some e.message
  | .config m => some ("Configuration error: " ++ m)
  | .validation m => some ("Validation error: " ++ m)
  | .applyFailed e => e.message?.map ("Finalizer error: failed to apply object: " ++ ·)
  | .cleanupFailed e => e.message?.map ("Finalizer error: failed to clean up object: " ++ ·)
  | .unnamedObject => some "Finalizer error: object has no name"
  | .invalidFinalizer => some "Finalizer error: invalid finalizer"

def isRemote : Error → Bool
  | .sync e => e.isRemote
  | _ => false

def invalidDelay : Nat := 300

def remoteDelay : Nat := 60

def requeueAfter : Error → Nat
  | .config _ | .validation _ | .sync .untracked => invalidDelay
  | e => if e.isRemote then remoteDelay else 30

end Error

end IdentityGroups.Operator
