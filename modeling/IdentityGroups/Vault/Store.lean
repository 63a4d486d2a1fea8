import IdentityGroups.Text.Percent
import IdentityGroups.Text.Quoted
import IdentityGroups.Vault.Request

/-! # An identity store

Vault's group endpoints, as far as one client can tell: ids are assigned on creation, an update
changes the attributes it names, creating under a name in use updates that group and answers no
id, deleting what is not there succeeds. A store logs every request, and failures can be laid in
wait for a method or for a method and a path.
-/

namespace IdentityGroups.Vault

/-- A failure that waits for a request with its method, and its path if it has one. -/
structure Trap where
  method : Method
  path : Option String
  failure : Failure
  deriving DecidableEq

def normalPath (path : String) : String := Text.trimBy (· = '/') path

def Trap.meets (t : Trap) (r : Request) : Bool :=
  t.method = r.method && t.path.all (· = normalPath r.path)

def Trap.spring (r : Request) : List Trap → Option (Failure × List Trap)
  | [] => none
  | t :: ts =>
    if t.meets r then some (t.failure, ts)
    else (spring r ts).map fun (f, ts) => (f, t :: ts)

abbrev Stored := Dict Json

structure Store where
  groups : Dict Stored := .empty
  /-- Ids for the next groups created, before generated ones. -/
  nextIds : List String := []
  /-- How many ids were generated. It has no bound; a counter of 64 bits is the same below `2 ^ 64`. -/
  generated : Nat := 0
  traps : List Trap := []
  /-- Creates are accepted without an effect. -/
  discardsCreates : Bool := false
  log : List Request := []
  deriving DecidableEq

namespace Store

instance : Inhabited Store := ⟨{}⟩

def mutableNames : List String := ["metadata", "policies", "member_group_ids", "member_entity_ids"]

def mergeBody (stored : Stored) (body : Json) : Stored :=
  mutableNames.foldl (fun stored k =>
    match body.member? k with
    | none => stored
    | some v => stored.insert k v) stored

/-- A group as it reads back: attributes never set are null or empty. -/
def readView (stored : Stored) : Secret :=
  .withData <| ((((stored.insertIfNew "metadata" .null).insertIfNew "policies" .null).insertIfNew
    "member_entity_ids" (.arr [])).insertIfNew "member_group_ids" (.arr [])).insertIfNew
    "parent_group_ids" (.arr [])

def nameOf? (stored : Stored) : Option String := (stored.find? "name").bind Json.text?

/-- The smallest id of a group with the given name. -/
def idForName? (s : Store) (name : String) : Option String :=
  (s.groups.entries.find? fun e => nameOf? e.2 = some name).map (·.1)

def fourDigits (n : Nat) : String :=
  let ds := Nat.toDigits 10 n
  String.ofList (List.replicate (4 - ds.length) '0' ++ ds)

def takeId (s : Store) : String × Store :=
  match s.nextIds with
  | id :: ids => (id, { s with nextIds := ids })
  | [] => ("group-" ++ fourDigits (s.generated + 1), { s with generated := s.generated + 1 })

/-- Why a body creates nothing, or the name and kind it asks for. -/
def createTarget (body : Json) : Except Failure (String × String) :=
  match (body.member? "name").bind Json.text? with
  | none => .error (.api 400 ["missing name"])
  | some name =>
    if name = "" then .error (.api 400 ["missing name"])
    else
      let kind := ((body.member? "type").bind Json.text?).getD "internal"
      if kind = "internal" ∨ kind = "external" then .ok (name, kind)
      else .error (.api 400 ["invalid type " ++ Text.Quoted.encode kind])

def create (s : Store) (body : Json) : Reply × Store :=
  match createTarget body with
  | .error e => (.error e, s)
  | .ok (name, kind) =>
    if s.discardsCreates then (.ok none, s)
    else
      match s.idForName? name with
      | some id =>
        match s.groups.find? id with
        | none => (.ok none, s)
        | some stored =>
          (.ok none, { s with groups := s.groups.insert id (mergeBody stored body) })
      | none =>
        let (id, s) := s.takeId
        let stored : Stored := .ofList [("id", .str id), ("name", .str name), ("type", .str kind)]
        let answer : Secret := .withData (.ofList [("id", .str id), ("name", .str name)])
        (.ok (some answer), { s with groups := s.groups.insert id (mergeBody stored body) })

inductive Target where
  | collection
  | byId (id : String)
  | byName (encoded : String)
  | other
  deriving DecidableEq, Repr

def target (path : String) : Target :=
  if path = "identity/group" then .collection
  else
    match Text.afterLead? "identity/group/id/".toList path.toList with
    | some id => .byId (String.ofList id)
    | none =>
      match Text.afterLead? "identity/group/name/".toList path.toList with
      | some name => .byName (String.ofList name)
      | none => .other

def unsupported (path : String) : Failure := .api 405 ["unsupported path " ++ Text.Quoted.encode path]

/-- What the groups are and become, for a request that met no trap. -/
def perform (s : Store) (r : Request) : Reply × Store :=
  let path := normalPath r.path
  match r, target path with
  | .read _, .byId id => (.ok ((s.groups.find? id).map readView), s)
  | .read _, .byName encoded =>
    match Text.Percent.decode encoded with
    | .error e => (.error (.api 400 ["invalid group name: " ++ e.message]), s)
    | .ok name => (.ok (((s.idForName? name).bind s.groups.find?).map readView), s)
  | .write _ body, .collection => s.create body
  | .write _ body, .byId id =>
    match s.groups.find? id with
    | none => (.error (.api 400 ["group not found"]), s)
    | some stored => (.ok none, { s with groups := s.groups.insert id (mergeBody stored body) })
  | .delete _, .byId id => (.ok none, { s with groups := s.groups.erase id })
  | _, _ => (.error (unsupported path), s)

def answer (r : Request) (s : Store) : Reply × Store :=
  let s := { s with log := s.log ++ [r] }
  match Trap.spring r s.traps with
  | some (f, traps) => (.error f, { s with traps })
  | none => s.perform r

/-! ## Arranging a store -/

def assignNextId (s : Store) (id : String) : Store := { s with nextIds := s.nextIds ++ [id] }

def failNext (s : Store) (method : Method) (failure : Failure) : Store :=
  { s with traps := s.traps ++ [⟨method, none, failure⟩] }

def failPath (s : Store) (method : Method) (path : String) (failure : Failure) : Store :=
  { s with traps := s.traps ++ [⟨method, some (normalPath path), failure⟩] }

def discardCreates (s : Store) : Store := { s with discardsCreates := true }

/-- Stores a group under an id; attributes that are no object count as none. -/
def insertGroup (s : Store) (id : String) (attributes : Json) : Store :=
  let stored : Stored := .ofList (match attributes with
    | .obj members => members
    | _ => [])
  { s with groups := s.groups.insert id (stored.insert "id" (.str id)) }

def removeGroup (s : Store) (id : String) : Bool × Store :=
  (s.groups.contains id, { s with groups := s.groups.erase id })

def clearLog (s : Store) : Store := { s with log := [] }

def pathsOf (s : Store) (method : Method) : List String :=
  (s.log.filter fun r => r.method = method).map Request.path

end Store

end IdentityGroups.Vault
