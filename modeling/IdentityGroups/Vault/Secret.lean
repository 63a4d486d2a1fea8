import IdentityGroups.Json.Decode

/-! # Vault's response envelope -/

namespace IdentityGroups.Vault

structure Secret where
  requestId : String := ""
  leaseId : String := ""
  leaseDuration : UInt64 := 0
  renewable : Bool := false
  data : Option (Dict Json) := none
  warnings : Option (List String) := none
  deriving DecidableEq, Inhabited

namespace Secret

def withData (data : Dict Json) : Secret := { data := some data }

def hasPayload (s : Secret) : Bool := s.data.any fun d => !d.isEmpty

def text? (s : Secret) (k : String) : Option String :=
  (s.data.bind (·.find? k)).bind Json.text?

def payload (s : Secret) : Json := .ofDict (s.data.getD .empty)

def encode (s : Secret) : Json := .object [
  ("request_id", .str s.requestId), ("lease_id", .str s.leaseId),
  ("lease_duration", .ofUInt64 s.leaseDuration), ("renewable", .bool s.renewable),
  ("data", .ofOption .ofDict s.data), ("warnings", .ofOption .ofTexts s.warnings)]

open Json Json.Decode

def decode : Decoder Secret
  | .obj m => do
    let data ← optionalMember m "data" (dict any)
    let leaseDuration ← memberOr 0 m "lease_duration" uint64
    let leaseId ← memberOr "" m "lease_id" text
    let renewable ← memberOr false m "renewable" flag
    let requestId ← memberOr "" m "request_id" text
    let warnings ← optionalMember m "warnings" (list text)
    return { requestId, leaseId, leaseDuration, renewable, data, warnings }
  | .arr items => do
    let requestId ← itemOr "" items 0 text
    let leaseId ← itemOr "" items 1 text
    let leaseDuration ← itemOr 0 items 2 uint64
    let renewable ← itemOr false items 3 flag
    let data ← itemOr none items 4 (optional (dict any))
    let warnings ← itemOr none items 5 (optional (list text))
    noMore items 6
    return { requestId, leaseId, leaseDuration, renewable, data, warnings }
  | j => .error (.wrongKind j "struct Secret")

end Secret

end IdentityGroups.Vault
