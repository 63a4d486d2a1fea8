import IdentityGroups.Operator.Apply

/-! # Cleaning up and reconciling

A resource carries the operator's finalizer from before its group is first made until the group is
gone, so that Kubernetes keeps a deleted resource that long.
-/

namespace IdentityGroups.Operator

def finalizerName : String := "vault.oso.sh/identity-group-finalizer"

def ofQuery {α : Type} (q : Sync.Query α) : Handling α := do
  match ← throughVault q.run with
  | .ok a => return a
  | .error e => throw (.sync e)

def cleanup (r : Resource) : Handling Next := do
  match r.tracked? with
  | none => pure ()
  | some t => if ← ofQuery (Sync.isHeld t.id r.spec.name) then ofQuery (Sync.delete t.id)
  count .cleanups [kindLabel]
  return .awaitChange

namespace FinalizerPatch

def operation (op path : String) (value : Option Json) : Json :=
  .object ([("op", .str op), ("path", .str path)] ++ Json.memberIfSome "value" id value)

/-- Adds the finalizer to those that are there, on condition that they still are. -/
def add (current : List String) : Json :=
  if current = [] then .arr [
    operation "test" "/metadata/finalizers" (some .null),
    operation "add" "/metadata/finalizers" (some (.ofTexts [finalizerName]))]
  else .arr [
    operation "test" "/metadata/finalizers" (some (.ofTexts current)),
    operation "add" "/metadata/finalizers/-" (some (.str finalizerName))]

def remove (index : Nat) : Json :=
  let path := s!"/metadata/finalizers/{index}"
  .arr [operation "test" path (some (.str finalizerName)), operation "remove" path none]

end FinalizerPatch

def patchFinalizers (r : Resource) (name : String) (operations : Json) (error : Error) :
    Handling Unit := do
  if name = "" then throw error
  match ← perform (.patchObject r.namespaceOrDefault name operations) with
  | .accepted => return ()
  | .refused => throw error

def inContext {α : Type} (context : Error → Error) (h : Handling α) : Handling α :=
  ExceptT.adapt context h

def withFinalizer (resync : Nat) (now : Time.Instant) (r : Resource) : Handling Next := do
  let finalizers := r.metadata.finalizers.getD []
  match finalizers.idxOf? finalizerName, r.isDeleting with
  | some _, false => inContext .applyFailed (apply resync now r)
  | some i, true =>
    match r.metadata.name with
    | none => throw .unnamedObject
    | some name =>
      -- The finalizer stays until the group is gone.
      let next ← inContext .cleanupFailed (cleanup r)
      patchFinalizers r name (FinalizerPatch.remove i) .removeFinalizer
      return next
  | none, false =>
    -- The patch is reported in its turn, and the resource applied then.
    match r.metadata.name with
    | none => throw .unnamedObject
    | some name =>
      patchFinalizers r name (FinalizerPatch.add finalizers) .addFinalizer
      return .awaitChange
  | none, true => return .awaitChange

def reconcile (resync : Nat) (now : Time.Instant) (r : Resource) : Handling Next := ExceptT.mk do
  let _ ← Program.ask (Effect.count .reconciliations [kindLabel])
  let result ← (withFinalizer resync now r).run
  let _ ← Program.ask Effect.timed
  return result

end IdentityGroups.Operator
