import IdentityGroups.Group.Validity
import IdentityGroups.Operator.Effect
import IdentityGroups.Resource.StatusPatch
import IdentityGroups.Sync.Pass

/-! # Applying a resource

The group asked for is validated, brought in line with Vault, and reported in the status. A failed
pass clears the generation observed, so that the next one sends the specification again, and keeps
an id that was learnt, so that the group is not lost.
-/

namespace IdentityGroups.Operator

def driftDelay : Nat := 5

def skippedDelay : Nat := 60

def inSyncMessage : Sync.Action → String
  | .replaced previousId => s!"Identity group replaced (previous id {previousId})"
  | _ => "Identity group is in sync with Vault"

def reportPass (resync : Nat) (now : Time.Instant) (r : Resource) (state : GroupState)
    (report : Sync.Report) : Handling Next := do
  match report.outcome, report.action with
  | .gone, _ =>
    count .driftDetected [r.namespaceOrDefault]
    patchStatus r (StatusPatch.drifted r.generation "Identity group was not found in Vault" now)
    return .after driftDelay
  | .skipped, .refreshed => return .after skippedDelay
  | _, action =>
    patchStatus r (StatusPatch.ready state r.status r.generation (inSyncMessage action) now)
    return .after resync

def applyValid (resync : Nat) (now : Time.Instant) (r : Resource) : Handling Next := do
  -- A resource that was never reported on shows that its group is being made.
  if r.tracked?.isNone ∧ (r.status.bind (·.phase)).isNone then
    patchStatus r (StatusPatch.pending r.generation)
  let (result, state) ← throughVault
    ((Sync.pass r.tracked? r.specChanged).run.run { group := r.spec.group })
  match result with
  | .error e =>
    count .groupOperations ["failed", r.namespaceOrDefault]
    patchStatus r (StatusPatch.failed none "VaultError" e.message (some state) now)
    throw (.sync e)
  | .ok report =>
    count .groupOperations [report.action.word, r.namespaceOrDefault]
    reportPass resync now r state report

/-- Handles a resource that is to exist; `resync` seconds lie between looks at a group in line. -/
def apply (resync : Nat) (now : Time.Instant) (r : Resource) : Handling Next := do
  match r.spec.group.objection? with
  | some objection =>
    let message := "Validation error: " ++ objection.message
    patchStatus r (StatusPatch.failed r.generation "ValidationFailed" message none now)
    return .after Error.invalidDelay
  | none => applyValid resync now r

end IdentityGroups.Operator
