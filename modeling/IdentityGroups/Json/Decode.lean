import IdentityGroups.Json.Basic
import IdentityGroups.Decimal.Shortest
import IdentityGroups.Text.Quoted
import IdentityGroups.Time.Rfc3339

/-! # Values of a given shape

A decoder takes the typed content out of a JSON value or tells why it cannot. A record is an object,
whose members are looked at in ascending order of their names before any is missed, or an array of
its fields in the order of their declaration.
-/

namespace IdentityGroups.Json

inductive Mismatch where
  | wrongKind (found : Json) (expected : String)
  | outOfRange (n : Int) (expected : String)
  /-- An object that should name one variant has no or several members. -/
  | notOneVariant
  | unknownVariant (name expected : String)
  | missingField (name : String)
  | wrongLength (length : Nat) (expected : String)
  | badTime (fault : Time.Fault)
  deriving DecidableEq

def describe : Json → String
  | .null => "null"
  | .bool true => "boolean `true`"
  | .bool false => "boolean `false`"
  | .num (.int n _) => s!"integer `{n}`"
  | .num (.float x) => s!"floating point `{x.pointed}`"
  | .str s => "string " ++ Text.Quoted.encode s
  | .arr _ => "sequence"
  | .obj _ => "map"

def Mismatch.message : Mismatch → String
  | .wrongKind j expected => s!"invalid type: {j.describe}, expected {expected}"
  | .outOfRange n expected => s!"invalid value: integer `{n}`, expected {expected}"
  | .notOneVariant => "invalid value: map, expected map with a single key"
  | .unknownVariant name expected => s!"unknown variant `{name}`, expected {expected}"
  | .missingField name => s!"missing field `{name}`"
  | .wrongLength n expected => s!"invalid length {n}, expected {expected}"
  | .badTime fault => fault.message

abbrev Decoder (α : Type) := Json → Except Mismatch α

namespace Decode

def text : Decoder String
  | .str s => .ok s
  | j => .error (.wrongKind j "a string")

def flag : Decoder Bool
  | .bool b => .ok b
  | j => .error (.wrongKind j "a boolean")

def int64 : Decoder Int64
  | .num (.int n _) =>
    if n < 0x8000000000000000 then .ok (Int64.ofInt n) else .error (.outOfRange n "i64")
  | j => .error (.wrongKind j "i64")

def uint64 : Decoder UInt64
  | .num (.int n _) =>
    if 0 ≤ n then .ok (UInt64.ofNat n.toNat) else .error (.outOfRange n "u64")
  | j => .error (.wrongKind j "u64")

def instant : Decoder Time.Instant
  | .str s => (Time.Instant.parse s).mapError .badTime
  | j => .error (.wrongKind j "an RFC 3339 formatted date and time string")

def list {α : Type} (item : Decoder α) : Decoder (List α)
  | .arr items => items.mapM item
  | j => .error (.wrongKind j "a sequence")

def dict {α : Type} (item : Decoder α) : Decoder (Dict α)
  | .obj members => do
    return Dict.ofList (← members.mapM fun (k, j) => do return (k, ← item j))
  | j => .error (.wrongKind j "a map")

def optional {α : Type} (item : Decoder α) : Decoder (Option α)
  | .null => .ok none
  | j => (item j).map some

def any : Decoder Json := .ok

/-! ## Members of an object -/

def present? {α : Type} (members : List (String × Json)) (k : String) (item : Decoder α) :
    Except Mismatch (Option α) :=
  match Entries.find? k members with
  | none => .ok none
  | some j => (item j).map some

/-- The member `k`; absence and null are the same. -/
def optionalMember {α : Type} (members : List (String × Json)) (k : String) (item : Decoder α) :
    Except Mismatch (Option α) :=
  (present? members k (optional item)).map Option.join

def memberOr {α : Type} (default : α) (members : List (String × Json)) (k : String)
    (item : Decoder α) : Except Mismatch α :=
  (present? members k item).map (·.getD default)

def require {α : Type} (k : String) : Option α → Except Mismatch α
  | none => .error (.missingField k)
  | some a => .ok a

/-! ## Fields in an array -/

def item {α : Type} (items : List Json) (expected : String) (i : Nat) (f : Decoder α) :
    Except Mismatch α :=
  match items[i]? with
  | none => .error (.wrongLength i expected)
  | some j => f j

def itemOr {α : Type} (default : α) (items : List Json) (i : Nat) (f : Decoder α) :
    Except Mismatch α :=
  match items[i]? with
  | none => .ok default
  | some j => f j

def noMore (items : List Json) (n : Nat) : Except Mismatch Unit :=
  if items.length ≤ n then .ok ()
  else .error (.wrongLength items.length "fewer elements in array")

end Decode

end IdentityGroups.Json
