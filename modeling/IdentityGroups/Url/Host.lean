import IdentityGroups.Text.Percent
import IdentityGroups.Url.Address
import IdentityGroups.Url.Domain

/-! # Hosts

A host is named by a domain name, which may be percent-encoded, or given by its address; a name
that ends in a number must be an address.
-/

namespace IdentityGroups.Url

inductive Host where
  /-- The labels of its name, as they are to be read. -/
  | name (labels : List (List Char))
  | v4 (address : Nat)
  | v6 (groups : List Nat)
  deriving DecidableEq, Repr

namespace Host

def ofName? (text : List Char) : Option Host := do
  let name ← (Text.Percent.decode (String.ofList text)).toOption
  let labels ← Domain.labels? name.toList
  if labels = [[]] then none
  else if Address.areNumeric labels then (Address.v4? labels).map .v4
  else some (.name labels)

def parse? : List Char → Option Host
  | '[' :: rest =>
    if rest.getLast? = some ']' then (Address.v6? rest.dropLast).map .v6 else none
  | text => if text = [] then none else ofName? text

end Host

/-- A host and what follows the colon after it, if there is one. Between brackets colons belong to
the host. -/
def splitHost (bracketed : Bool) : List Char → List Char × Option (List Char)
  | [] => ([], none)
  | c :: cs =>
    if c = ':' && !bracketed then ([], some cs)
    else
      let (host, port) := splitHost (c = '[' || (bracketed && c ≠ ']')) cs
      (c :: host, port)

def port? (digits : List Char) : Option (Option Nat) :=
  if digits = [] then some none
  else if digits.all Char.isDigit then
    let n := Address.valueOf 10 digits
    if n ≤ 65535 then some (some n) else none
  else none

def hostPort? (text : List Char) : Option (Host × Option Nat) := do
  let (host, rest) := splitHost false text
  let host ← Host.parse? host
  let port ← port? (rest.getD [])
  return (host, port)

end IdentityGroups.Url
