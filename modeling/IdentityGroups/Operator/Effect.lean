import IdentityGroups.Metrics.Family
import IdentityGroups.Operator.Error
import IdentityGroups.Resource.Basic
import IdentityGroups.Sync.Operations

/-! # What handling a resource does

Handling a resource sends requests to Vault and patches to Kubernetes, and counts. It is a program
of such effects, so that it can be run against any Vault and any Kubernetes, and be cut off between
any two of them.
-/

namespace IdentityGroups.Operator

inductive Effect where
  | vault (r : Vault.Request)
  /-- A merge patch of the status of a resource. -/
  | patchStatus (space name : String) (patch : Json)
  /-- A JSON patch (RFC 6902) of a resource. -/
  | patchObject (space name : String) (operations : Json)
  | count (family : Metrics.Family) (labels : List String)
  /-- The time one reconciliation took is recorded. -/
  | timed
  deriving DecidableEq

inductive Verdict where
  | accepted
  /-- Refused, or answered with what cannot be decoded. -/
  | refused
  deriving DecidableEq, Repr, Inhabited

abbrev Effect.Answer : Effect → Type
  | .vault _ => Vault.Reply
  | .patchStatus .. | .patchObject .. => Verdict
  | .count .. | .timed => Unit

abbrev Handling := ExceptT Error (Program Effect.Answer)

def perform (e : Effect) : Handling e.Answer := ExceptT.lift (Program.ask e)

def count (family : Metrics.Family) (labels : List String) : Handling Unit :=
  perform (.count family labels)

def throughVault {α : Type} (p : Sync.Exchange α) : Handling α :=
  ExceptT.lift (p.lift Effect.vault fun _ reply => reply)

/-- Patches the status of a resource. Without a name there is nothing to patch. -/
def patchStatus (r : Resource) (patch : Json) : Handling Unit := do
  if r.anyName = "" then throw .kubernetes
  match ← perform (.patchStatus r.namespaceOrDefault r.anyName patch) with
  | .accepted => return ()
  | .refused => throw .kubernetes

inductive Next where
  | after (seconds : Nat)
  | awaitChange
  deriving DecidableEq, Repr, Inhabited

def kindLabel : String := "VaultIdentityGroup"

end IdentityGroups.Operator
