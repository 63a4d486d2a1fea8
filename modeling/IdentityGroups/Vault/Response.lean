import IdentityGroups.Json.Document
import IdentityGroups.Vault.Request

/-! # Vault's answers over HTTP

A status and a body become a reply. That nothing is stored is reported by a status without content,
by a blank body, or, for a read, by status 404 without error messages; every other status outside
the two hundreds is a failure, with the messages of the body or else the body as its message.
-/

namespace IdentityGroups.Vault

open Json

def Secret.read? (body : String) : Option Secret := do
  let d ← Document.parse? body
  let fields ← d.fields?
    ["request_id", "lease_id", "lease_duration", "renewable", "data", "warnings"]
  let requestId ← Document.field? "" "request_id" Document.text? fields
  let leaseId ← Document.field? "" "lease_id" Document.text? fields
  let leaseDuration ← Document.field? 0 "lease_duration" Document.natural? fields
  let renewable ← Document.field? false "renewable" Document.flag? fields
  let data ← Document.field? none "data" (Document.optional? (Document.dict? (deepest - 1))) fields
  let warnings ← Document.field? none "warnings" (Document.optional? Document.texts?) fields
  return { requestId, leaseId, leaseDuration, renewable, data, warnings }

def messages? (body : String) : Option (List String) := do
  let d ← Document.parse? body
  Document.field? [] "errors" Document.texts? (← d.fields? ["errors"])

/-- What stands in place of the reader's account of a body that holds no response. -/
def unreadable : String := "<json>"

def interpret (status : UInt16) (body : String) (isRead : Bool) : Reply :=
  if status = 204 then .ok none
  else if 200 ≤ status ∧ status < 300 then
    if Text.allBlank body then .ok none
    else
      match Secret.read? body with
      | some secret => .ok (some secret)
      | none => .error (.decode (unreadable ++ "; body=" ++ body))
  else
    let messages := (messages? body).getD []
    if status = 404 ∧ isRead ∧ messages = [] then .ok none
    else if messages = [] ∧ ¬ Text.allBlank body then .error (.api status [Text.trim body])
    else .error (.api status messages)

end IdentityGroups.Vault
