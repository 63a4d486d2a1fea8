import IdentityGroups.Config.Environment
import IdentityGroups.Config.LogFilter

/-! # Starting the operator

The operator reads its configuration, makes its clients, and runs the controller and the metrics
endpoint until one of them ends or a signal comes. What it meets on the way is given; what it logs
and how it ends is told.
-/

namespace IdentityGroups.Startup

open Config

structure LogLine where
  /-- The part of the program that writes the line. -/
  target : String
  level : Level
  message : String
  fields : List (String × String) := []
  deriving DecidableEq, Repr

inductive Signal where
  | terminate
  | interrupt
  deriving DecidableEq, Repr, Inhabited

def Signal.name : Signal → String
  | .terminate => "SIGTERM"
  | .interrupt => "CTRL+C"

inductive FirstList where
  | refused (account : String)
  | unanswered
  deriving DecidableEq, Repr, Inhabited

structure Surroundings where
  /-- None when no client can be made. -/
  kubernetes : Option FirstList
  portTaken : Bool := false
  /-- Comes once the first request to Kubernetes was made. -/
  signal : Option Signal := none
  deriving DecidableEq, Repr

inductive Failure where
  | config (fault : Fault)
  | noKubernetes
  deriving DecidableEq, Repr

def Failure.message? : Failure → Option String
  | .config fault => some ("Configuration error: " ++ fault.message)
  | .noKubernetes => none

structure Transcript where
  lines : List LogLine
  failure : Option Failure
  deriving DecidableEq, Repr

def Transcript.exitCode (t : Transcript) : Nat := if t.failure.isSome then 1 else 0

def mainTarget : String := "vault_identity_operator"
def controllerTarget : String := mainTarget ++ "::controllers::identity_group_controller"
def metricsTarget : String := mainTarget ++ "::metrics::prometheus"

def info (message : String) (fields : List (String × String)) : LogLine :=
  { target := mainTarget, level := .info, message, fields }

def untilEnd (settings : Settings) (kubernetes : FirstList) (s : Surroundings) :
    Option (List LogLine) :=
  let stopped := info "Vault Identity Operator stopped" []
  let listening : LogLine :=
    { target := metricsTarget, level := .info
      message := s!"Metrics server listening on 0.0.0.0:{settings.metricsPort}" }
  if s.portTaken then
    some [⟨mainTarget, .error, "Metrics server exited unexpectedly", []⟩, stopped]
  else
    match s.signal, kubernetes with
    | some signal, _ => some [listening, info s!"Received {signal.name} signal" [],
        info "Received shutdown signal, stopping operator" [], stopped]
    | none, .refused account => some [listening,
        ⟨controllerTarget, .error, "VaultIdentityGroup CRD not installed: " ++ account, []⟩,
        ⟨mainTarget, .error, "VaultIdentityGroup controller exited unexpectedly", []⟩, stopped]
    | none, .unanswered => none

/-- The whole run; none when it never ends. -/
def run (env : Environment) (files : Files) (s : Surroundings) : Option Transcript :=
  let starting := [info "Starting Vault Identity Operator" []]
  match Config.settings env files with
  | .error fault => some ⟨starting, some (.config fault)⟩
  | .ok settings =>
    let loaded := starting ++ [info "Loaded configuration" [
      ("vault_addr", settings.vault.addr), ("namespace", settings.vault.inNamespace?.getD "")]]
    if ¬ settings.vault.isUsable then some ⟨loaded, some (.config .noClient)⟩
    else
      match s.kubernetes with
      | none => some ⟨loaded, some .noKubernetes⟩
      | some kubernetes =>
        (untilEnd settings kubernetes s).map fun rest =>
          ⟨loaded ++ [info "Connected to Kubernetes API server" [],
            info s!"Metrics server starting on port {settings.metricsPort}" []] ++ rest, none⟩

def logFilter (env : Environment) : List Directive :=
  ((env "RUST_LOG").bind LogFilter.parse?).getD LogFilter.default

def Transcript.written (t : Transcript) (env : Environment) : List LogLine :=
  t.lines.filter fun l => LogFilter.admits (logFilter env) l.target l.level

end IdentityGroups.Startup
