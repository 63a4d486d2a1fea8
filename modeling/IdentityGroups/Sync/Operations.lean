import IdentityGroups.Group.Body
import IdentityGroups.Group.Decode
import IdentityGroups.Group.Path
import IdentityGroups.Program
import IdentityGroups.Sync.Error
import IdentityGroups.Vault.Request

/-! # Operations on one group in Vault

Each operation is a program of requests. Those that only ask something of Vault are a `Query`;
those that learn something of a group at hand are an `Update` of its state, which keeps what was
learnt before a failure.
-/

namespace IdentityGroups.Sync

abbrev Exchange := Program fun _ : Vault.Request => Vault.Reply

abbrev Query := ExceptT Error Exchange

abbrev Update := ExceptT Error (StateT GroupState Exchange)

def Query.within {α : Type} (q : Query α) : Update α := ExceptT.mk (StateT.lift q.run)

def send (r : Vault.Request) : Query Vault.Reply := ExceptT.lift (Program.ask r)

def sendOr (error : Vault.Failure → Error) (r : Vault.Request) : Query (Option Vault.Secret) := do
  match ← send r with
  | .ok response => return response
  | .error f => throw (error f)

def payload? (response : Option Vault.Secret) : Option Vault.Secret :=
  response.filter (·.hasPayload)

def filled? (s : Option String) : Option String := s.filter (· ≠ "")

def delete (id : String) : Query Unit := do
  let _ ← sendOr (.delete id) (.delete (Group.idPath id))

/-- Whether a group exists, by its id, or by its name when the id is empty. -/
def isHeld (id fallbackName : String) : Query Bool := do
  let (key, path) :=
    if id = "" then (fallbackName, Group.namePath fallbackName) else (id, Group.idPath id)
  return (payload? (← sendOr (.read .exists key) (.read path))).isSome

def lookup (name : String) : Query (Option String) := do
  let path := Group.namePath name
  match payload? (← sendOr (.read .lookup name) (.read path)) with
  | none => return none
  | some secret =>
    match filled? (secret.text? "id") with
    | some id => return some id
    | none => throw (.malformed path "group payload did not contain an id")

inductive Outcome where
  /-- What Vault reported was taken over. -/
  | refreshed
  /-- The group no longer exists; its id was given up. -/
  | gone
  /-- The credential expired; nothing changed. -/
  | skipped
  deriving DecidableEq, Repr, Inhabited

def read : Update Outcome := do
  match (← get).id with
  | none => return .gone
  | some id =>
    let path := Group.idPath id
    match ← (send (.read path)).within with
    | .error f => if f.isExpiredCredential then return .skipped else throw (.read .read id f)
    | .ok response =>
      match payload? response with
      | none =>
        modify fun s => { s with id := none }
        return .gone
      | some secret =>
        match Observed.decode (secret.data.getD .empty) with
        | .error m => throw (.malformed path (Vault.Failure.decode m.message).message)
        | .ok observed =>
          modify fun s => { s with group := observed.applyTo s.group }
          return .refreshed

def create : Update String := do
  let group := (← get).group
  let response ← (sendOr (.write .create group.name)
    (.write Group.collectionPath group.createBody)).within
  let id ← match filled? (response.bind (·.text? "id")) with
    | some id => pure id
    | none =>
      -- Under a name in use Vault updates that group and answers no id.
      match ← (lookup group.name).within with
      | some id => pure id
      | none => throw (.malformed Group.collectionPath "response did not contain a group id")
  -- The id is kept even if the group cannot be read back.
  modify fun s => { s with id := some id }
  let _ ← read
  return id

def update : Update Outcome := do
  match (← get).id with
  | none => throw .untracked
  | some id =>
    let _ ← (sendOr (.write .update id)
      (.write (Group.idPath id) (← get).group.updateBody)).within
    read

end IdentityGroups.Sync
