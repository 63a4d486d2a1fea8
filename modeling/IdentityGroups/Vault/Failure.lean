import IdentityGroups.Text.Blank

/-! # Failures of a call to Vault -/

namespace IdentityGroups.Vault

inductive Failure where
  /-- The request never produced a response. -/
  | transport (message : String)
  /-- Vault answered with a status other than success. -/
  | api (status : UInt16) (errors : List String)
  /-- The response could not be decoded. -/
  | decode (message : String)
  deriving DecidableEq, Repr

namespace Failure

def message : Failure → String
  | .transport m => "Vault request failed: " ++ m
  | .api status errors => s!"Vault returned status {status}: " ++ "; ".intercalate errors
  | .decode m => "Failed to decode Vault response: " ++ m

def expiryNotices : List String := ["invalid accessor", "failed to find accessor entry"]

/-- Whether the credential used for the call has expired. Such a failure says nothing about what
Vault holds. -/
def isExpiredCredential : Failure → Bool
  | .api _ errors =>
    errors.any fun e => expiryNotices.any fun n => Text.occursIn n.toList e.toList
  | _ => false

end Failure

end IdentityGroups.Vault
