import IdentityGroups.Text.Quoted
import IdentityGroups.Url
import IdentityGroups.Vault.Bundle
import IdentityGroups.Vault.Response

/-! # Asking Vault over HTTP

A request is sent to the server's address under `/v1/`, with the token and perhaps a namespace in
its headers; what comes back over the wire becomes a reply.
-/

namespace IdentityGroups.Vault

structure Settings where
  addr : String
  token : String
  /-- The enterprise namespace. -/
  inNamespace? : Option String := none
  timeoutSeconds : Nat := 15
  /-- The bytes of a bundle of certificates. -/
  caBundle : Option (List UInt8) := none
  skipVerify : Bool := false
  deriving DecidableEq

def apiUrl (addr path : String) : String :=
  Text.trimEnd (· = '/') addr ++ "/v1/" ++ Text.trimStart (· = '/') path

namespace Settings

def describeOption {α : Type} (text : α → String) : Option α → String
  | none => "None"
  | some a => "Some(" ++ text a ++ ")"

def describe (s : Settings) : String :=
  "VaultConfig \x7b addr: " ++ Text.Quoted.encode s.addr ++
    ", namespace: " ++ describeOption Text.Quoted.encode s.inNamespace? ++
    ", timeout: " ++ toString s.timeoutSeconds ++ "s, ca_cert: " ++
    describeOption (fun b => toString b.length) s.caBundle ++
    ", skip_verify: " ++ (if s.skipVerify then "true" else "false") ++ ", .. \x7d"

def isUsable (s : Settings) : Bool := s.caBundle.all Bundle.isUsable

end Settings

def describeClient (s : Settings) : String := "VaultClient \x7b config: " ++ s.describe ++ ", .. \x7d"

def hidesToken (s : Settings) : Bool :=
  s.token = "" || !Text.occursIn s.token.toList (describeClient s).toList

structure HttpRequest where
  method : String
  target : String
  token : String
  inNamespace? : Option String
  contentType : Option String
  body : Option Json
  deriving DecidableEq

def Method.verb : Method → String
  | .read => "GET"
  | .write => "POST"
  | .delete => "DELETE"

def Method.label : Method → String
  | .read => "get"
  | .write => "post"
  | .delete => "delete"

/-- Whether a text can be the value of a header: a control character other than a tab cannot. -/
def isHeaderValue (s : String) : Bool :=
  s.toList.all fun c => c = '\t' || (' ' ≤ c && c ≠ '\x7f')

def Settings.httpRequest? (s : Settings) (r : Request) : Option HttpRequest := do
  let url ← Url.parse? (apiUrl s.addr r.path)
  if isHeaderValue s.token ∧ s.inNamespace?.all isHeaderValue then
    return {
      method := r.method.verb
      target := url.target
      token := s.token
      inNamespace? := s.inNamespace?
      contentType := r.body?.map fun _ => "application/json"
      body := r.body? }
  else none

inductive Wire where
  | complete (status : UInt16) (body : List UInt8)
  /-- The connection ended before the promised length. -/
  | cutShort
  /-- The connection ended with no answer. -/
  | dropped
  deriving DecidableEq

def Settings.receive (s : Settings) (r : Request) (w : Wire) : Reply :=
  match s.httpRequest? r with
  | none => .error (.transport "builder error")
  | some _ =>
    match w with
    | .complete status body => interpret status (Text.Utf8.decodeLossy body) (r.method = .read)
    | .cutShort => .error (.transport "error decoding response body")
    | .dropped => .error (.transport "error sending request")

def outcomeLabels (r : Request) (reply : Reply) : List String :=
  [r.method.label, match reply with
    | .ok _ => "success"
    | .error _ => "failure"]

end IdentityGroups.Vault
