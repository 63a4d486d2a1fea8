import IdentityGroups.Vault.Request

/-! # A scripted Vault

Answers the requests with the replies laid out for it, in order and whatever is asked, and with a
transport failure when there are none left.
-/

namespace IdentityGroups.Vault

structure Script where
  replies : List Reply := []
  log : List Request := []

namespace Script

def exhausted : Failure := .transport "script exhausted"

def answer (r : Request) (s : Script) : Reply × Script :=
  match s.replies with
  | [] => (.error exhausted, { s with log := s.log ++ [r] })
  | reply :: replies => (reply, { replies, log := s.log ++ [r] })

end Script

end IdentityGroups.Vault
