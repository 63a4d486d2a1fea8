import IdentityGroups.Json.Printer
import IdentityGroups.Resource.Definition
import IdentityGroups.Startup

/-! # The command line

`crdgen` prints the manifests. Without it the operator starts, as far as it can without a client for
Kubernetes: it reads the configuration, logs, and tells why it ends.
-/

open IdentityGroups

def variableNames : List String :=
  ["METRICS_PORT", "RESYNC_INTERVAL_SECS", "VAULT_ADDR", "VAULT_TOKEN", "VAULT_NAMESPACE",
    "VAULT_HTTP_TIMEOUT_SECS", "VAULT_CACERT", "VAULT_SKIP_VERIFY", "RUST_LOG"]

def readVariables : IO Config.Environment := do
  let pairs ← variableNames.mapM fun name => do return (name, ← IO.getEnv name)
  return fun name => (pairs.lookup name).join

def readBundle (path : String) : IO (Except Config.FileFault (List UInt8)) := do
  try return .ok (← IO.FS.readBinFile path).toList
  catch
    | .noFileOrDirectory .. => return .error .notFound
    | e => return .error (.other (toString e))

def logLine (l : Startup.LogLine) : String :=
  (Json.object [("level", .str l.level.word), ("target", .str l.target),
    ("fields", .object (("message", .str l.message) :: l.fields.map fun (k, v) => (k, .str v)))]).render

def startOperator : IO UInt32 := do
  let env ← readVariables
  let content ← readBundle ((env "VAULT_CACERT").getD "")
  match Startup.run env (fun _ => content) { kubernetes := none } with
  | none => return 0
  | some t =>
    for l in t.written env do IO.println (logLine l)
    match t.failure with
    | none => pure ()
    | some f => IO.eprintln ("Error: " ++ f.message?.getD "no Kubernetes client can be made")
    return UInt32.ofNat t.exitCode

def main (args : List String) : IO UInt32 := do
  match args with
  | ["crdgen"] =>
    IO.print Definition.stream
    return 0
  | _ => startOperator
