import IdentityGroups.Config.Files
import IdentityGroups.Text.Numeral
import IdentityGroups.Vault.Client

/-! # The operator's configuration

Variables are read in a fixed order, and the first that is missing or malformed decides the fault:
the metrics port, the interval between looks, then the address, the token, the timeout and the
certificates of Vault. Empty texts count as missing where a text is asked for.
-/

namespace IdentityGroups.Config

abbrev Environment := (name : String) → Option String

inductive Fault where
  | badPort (raw : String) (fault : Text.Numeral.Fault)
  | badResync (raw : String)
  | noAddress
  | noToken
  | badTimeout (raw : String) (fault : Text.Numeral.Fault)
  | zeroTimeout
  | unreadableBundle (path : String) (fault : FileFault)
  /-- The certificates cannot be used. -/
  | noClient
  deriving DecidableEq, Repr

def Fault.message : Fault → String
  | .badPort raw fault => s!"Invalid METRICS_PORT '{raw}': {fault.message}"
  | .badResync raw => s!"Invalid RESYNC_INTERVAL_SECS '{raw}'"
  | .noAddress => "set VAULT_ADDR to the Vault server URL"
  | .noToken => "set VAULT_TOKEN for Vault authentication"
  | .badTimeout raw fault => s!"Invalid VAULT_HTTP_TIMEOUT_SECS '{raw}': {fault.message}"
  | .zeroTimeout => "VAULT_HTTP_TIMEOUT_SECS must be greater than 0"
  | .unreadableBundle path fault => s!"Failed to read VAULT_CACERT {path}: {fault.message}"
  | .noClient => "Failed to build Vault HTTP client: builder error"

def isOn (s : String) : Bool := Text.trim s ∈ ["1", "true", "TRUE", "True", "yes"]

def filled? (env : Environment) (k : String) : Option String := (env k).filter (· ≠ "")

def timeout (env : Environment) : Except Fault Nat :=
  match env "VAULT_HTTP_TIMEOUT_SECS" with
  | none => .ok 15
  | some raw =>
    match Text.Numeral.parse Text.Numeral.largest64 raw with
    | .error fault => .error (.badTimeout raw fault)
    | .ok n => if n = 0 then .error .zeroTimeout else .ok n

def bundle (env : Environment) (files : Files) : Except Fault (Option (List UInt8)) :=
  match filled? env "VAULT_CACERT" with
  | none => .ok none
  | some path =>
    match files path with
    | .error fault => .error (.unreadableBundle path fault)
    | .ok content => .ok (some content)

def require (fault : Fault) : Option String → Except Fault String
  | none => .error fault
  | some s => .ok s

def vaultSettings (env : Environment) (files : Files) : Except Fault Vault.Settings := do
  let addr ← require .noAddress (filled? env "VAULT_ADDR")
  let token ← require .noToken (filled? env "VAULT_TOKEN")
  let timeoutSeconds ← timeout env
  let caBundle ← bundle env files
  return {
    addr, token, timeoutSeconds, caBundle
    inNamespace? := filled? env "VAULT_NAMESPACE"
    skipVerify := (env "VAULT_SKIP_VERIFY").any isOn }

structure Settings where
  metricsPort : Nat
  resyncSeconds : Nat
  vault : Vault.Settings
  deriving DecidableEq

def port (env : Environment) : Except Fault Nat :=
  match env "METRICS_PORT" with
  | none => .ok 8080
  | some raw => (Text.Numeral.parse Text.Numeral.largest16 raw).mapError (.badPort raw)

def resync (env : Environment) : Except Fault Nat :=
  match env "RESYNC_INTERVAL_SECS" with
  | none => .ok 300
  | some raw =>
    match Text.Numeral.parse Text.Numeral.largest64 raw with
    | .error _ => .error (.badResync raw)
    | .ok n => if n = 0 then .error (.badResync raw) else .ok n

def settings (env : Environment) (files : Files) : Except Fault Settings := do
  let metricsPort ← port env
  let resyncSeconds ← resync env
  let vault ← vaultSettings env files
  return { metricsPort, resyncSeconds, vault }

end IdentityGroups.Config
