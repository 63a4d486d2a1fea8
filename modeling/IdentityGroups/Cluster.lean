import IdentityGroups.Json.Merge
import IdentityGroups.Operator.Effect

/-! # A Kubernetes API that keeps one resource

Each request is answered with the next of the statuses laid out for it, 200 when there are none
left. A status from 400 on refuses the request; otherwise a patch changes the resource kept, which
is the answer and must be one that can be decoded.
-/

namespace IdentityGroups

structure Cluster.Call where
  method : String
  path : String
  query : List (String × String)
  contentType : String
  body : Json
  code : Nat
  deriving DecidableEq

structure Cluster where
  object : Json
  codes : List Nat := []
  log : List Cluster.Call := []

namespace Cluster

open Operator (Verdict)

def groupPath : String := "/apis/vault.oso.sh/v1alpha1"

def resourcePath (space name : String) : String :=
  groupPath ++ "/namespaces/" ++ space ++ "/vaultidentitygroups/" ++ name

def listPath : String := groupPath ++ "/vaultidentitygroups"

def takeCode (c : Cluster) : Nat × Cluster :=
  match c.codes with
  | [] => (200, c)
  | code :: codes => (code, { c with codes })

def receive (call : Nat → Call) (c : Cluster) : Nat × Cluster :=
  let (code, c) := c.takeCode
  (code, { c with log := c.log ++ [call code] })

def answer (call : Nat → Call) (change : Json → Json) (c : Cluster) : Verdict × Cluster :=
  let (code, c) := c.receive call
  if 400 ≤ code then (.refused, c)
  else
    let object := change c.object
    match Resource.decode object with
    | .ok _ => (.accepted, { c with object })
    | .error _ => (.refused, { c with object })

def fieldManager : String := "vault-identity-operator"

def patchStatus (space name : String) (patch : Json) : Cluster → Verdict × Cluster :=
  answer (fun code => {
    method := "PATCH"
    path := resourcePath space name ++ "/status"
    query := [("fieldManager", fieldManager)]
    contentType := "application/merge-patch+json"
    body := patch
    code }) (fun object => object.merge patch)

def finalizerIndex? (path : String) : Option Nat :=
  (Text.afterLead? "/metadata/finalizers/".toList path.toList).bind fun rest =>
    if rest ≠ [] ∧ rest.all (·.isDigit) then
      some (rest.foldl (fun n c => n * 10 + (c.toNat - 48)) 0)
    else none

def editFinalizers (finalizers : Json) (operation : Json) : Json :=
  let items : List Json := match finalizers with
    | .arr items => items
    | _ => []
  match (operation.member? "op").bind Json.text?, (operation.member? "path").bind Json.text? with
  | some "add", some "/metadata/finalizers" => (operation.member? "value").getD .null
  | some "add", some "/metadata/finalizers/-" =>
    .arr (items ++ (operation.member? "value").toList)
  | some "remove", some path =>
    match finalizerIndex? path with
    | some i => if i < items.length then .arr (items.eraseIdx i) else finalizers
    | none => finalizers
  | _, _ => finalizers

/-- A JSON patch of the finalizers. Its tests are taken to hold. -/
def patchFinalizers (operations : Json) (object : Json) : Json :=
  let metadata := (object.member? "metadata").getD .null
  let finalizers := (metadata.member? "finalizers").getD .null
  let operations : List Json := match operations with
    | .arr items => items
    | _ => []
  let finalizers := operations.foldl editFinalizers finalizers
  .obj (Entries.insert "metadata"
    (.obj (Entries.insert "finalizers" finalizers metadata.membersOrNone)) object.membersOrNone)

def patchObject (space name : String) (operations : Json) : Cluster → Verdict × Cluster :=
  answer (fun code => {
    method := "PATCH"
    path := resourcePath space name
    query := []
    contentType := "application/json-patch+json"
    body := operations
    code }) (patchFinalizers operations)

/-- Lists all resources, at most one of which is asked for. The list is empty when none is kept. -/
def listOne (c : Cluster) : Verdict × Cluster :=
  let (code, c) := c.receive fun code => {
    method := "GET"
    path := listPath
    query := [("limit", "1")]
    contentType := ""
    body := .null
    code }
  if 400 ≤ code then (.refused, c)
  else
    match c.object, Resource.decode c.object with
    | .null, _ | _, .ok _ => (.accepted, c)
    | _, .error _ => (.refused, c)

end Cluster

end IdentityGroups
