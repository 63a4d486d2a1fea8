import IdentityGroups.Resource.Status

/-! # Resources

A resource as Kubernetes keeps it: metadata, what it asks for and what it reports. Of the metadata
only what the operator looks at is kept; the rest must still have its proper shape.
-/

namespace IdentityGroups

open Json Json.Decode

structure Metadata where
  name : Option String := none
  generateName : Option String := none
  inNamespace? : Option String := none
  generation : Option Int64 := none
  finalizers : Option (List String) := none
  deletionTimestamp : Option Time.Instant := none
  deriving DecidableEq

namespace Metadata

def checkManagedFields : Decoder Unit
  | .obj m => do
    let _ ← optionalMember m "apiVersion" text
    let _ ← optionalMember m "fieldsType" text
    let _ ← optionalMember m "manager" text
    let _ ← optionalMember m "operation" text
    let _ ← optionalMember m "subresource" text
    let _ ← optionalMember m "time" instant
  | j => .error (.wrongKind j "ManagedFieldsEntry")

def checkOwner : Decoder Unit
  | .obj m => do
    let _ ← optionalMember m "apiVersion" text
    let _ ← optionalMember m "blockOwnerDeletion" flag
    let _ ← optionalMember m "controller" flag
    let _ ← optionalMember m "kind" text
    let _ ← optionalMember m "name" text
    let _ ← optionalMember m "uid" text
  | j => .error (.wrongKind j "OwnerReference")

def decode : Decoder Metadata
  | .obj m => do
    let _ ← optionalMember m "annotations" (dict text)
    let _ ← optionalMember m "creationTimestamp" instant
    let _ ← optionalMember m "deletionGracePeriodSeconds" int64
    let deletionTimestamp ← optionalMember m "deletionTimestamp" instant
    let finalizers ← optionalMember m "finalizers" (list text)
    let generateName ← optionalMember m "generateName" text
    let generation ← optionalMember m "generation" int64
    let _ ← optionalMember m "labels" (dict text)
    let _ ← optionalMember m "managedFields" (list checkManagedFields)
    let name ← optionalMember m "name" text
    let inNamespace? ← optionalMember m "namespace" text
    let _ ← optionalMember m "ownerReferences" (list checkOwner)
    let _ ← optionalMember m "resourceVersion" text
    let _ ← optionalMember m "selfLink" text
    let _ ← optionalMember m "uid" text
    return { name, generateName, inNamespace?, generation, finalizers, deletionTimestamp }
  | j => .error (.wrongKind j "ObjectMeta")

end Metadata

structure Resource where
  metadata : Metadata
  spec : Spec
  status : Option Status := none
  deriving DecidableEq

namespace Resource

def decode : Decoder Resource
  | .obj m => do
    let metadata ← present? m "metadata" Metadata.decode
    let spec ← present? m "spec" Spec.decode
    let status ← optionalMember m "status" Status.decode
    let metadata ← require "metadata" metadata
    let spec ← require "spec" spec
    return { metadata, spec, status }
  | .arr items => do
    let expected := "struct VaultIdentityGroup with 3 elements"
    let metadata ← item items expected 0 Metadata.decode
    let spec ← item items expected 1 Spec.decode
    let status ← item items expected 2 (optional Status.decode)
    noMore items 3
    return { metadata, spec, status }
  | j => .error (.wrongKind j "struct VaultIdentityGroup")

/-- The name, or what Kubernetes would generate it from. -/
def anyName (r : Resource) : String :=
  (r.metadata.name.orElse fun _ => r.metadata.generateName).getD ""

def namespaceOrDefault (r : Resource) : String := r.metadata.inNamespace?.getD "default"

def generation (r : Resource) : Option Int64 := r.metadata.generation

def isDeleting (r : Resource) : Bool := r.metadata.deletionTimestamp.isSome

def tracked? (r : Resource) : Option Tracked := r.status.bind Status.tracked?

def specChanged (r : Resource) : Bool := r.status.bind (·.observedGeneration) ≠ r.generation

end Resource

end IdentityGroups
