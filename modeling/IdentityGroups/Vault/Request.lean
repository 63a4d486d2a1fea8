import IdentityGroups.Vault.Failure
import IdentityGroups.Vault.Secret

/-! # Requests to Vault and their answers -/

namespace IdentityGroups.Vault

inductive Method where
  | read
  | write
  | delete
  deriving DecidableEq, Repr, Inhabited

inductive Request where
  | read (path : String)
  | write (path : String) (body : Json)
  | delete (path : String)
  deriving DecidableEq, Inhabited

namespace Request

def method : Request → Method
  | .read _ => .read
  | .write .. => .write
  | .delete _ => .delete

def path : Request → String
  | .read p | .write p _ | .delete p => p

def body? : Request → Option Json
  | .write _ b => some b
  | _ => none

end Request

/-- Nothing, a response, or a failure. -/
abbrev Reply := Except Failure (Option Secret)

instance : Inhabited Reply := ⟨.ok none⟩

end IdentityGroups.Vault
