import IdentityGroups.Operator.World

/-! # The loop that watches resources

The loop lists the resources once and then keeps the one there is in a cache, as the last event
reported it. It handles the resource as cached when it first sees it, at each event that reports it
anew, and again after the delay that the last handling asked for. Time passes only by being told
to, in tenths of a second, and handling takes none.
-/

namespace IdentityGroups.Operator

/-- Tenths of a second. -/
abbrev Ticks := Nat

inductive Phase where
  | idle
  | running
  | returned
  deriving DecidableEq, Repr, Inhabited

inductive Event where
  | added
  | modified
  | deleted
  deriving DecidableEq, Repr, Inhabited

structure Loop (V : Type) where
  world : World V
  phase : Phase := .idle
  now : Ticks := 0
  /-- The resource as last reported. -/
  cache : Option Json := none
  /-- When the resource is to be handled again. -/
  due : Option Ticks := none

namespace Loop
variable {V : Type} (answer : Vault.Request → V → Vault.Reply × V)
variable (resync : Nat) (clock : Time.Instant)

def countError (l : Loop V) : Loop V :=
  { l with world.metrics := l.world.metrics.increment ⟨.reconciliationErrors, [kindLabel]⟩ }

def handle (l : Loop V) : Loop V :=
  match l.cache.map Resource.decode with
  | some (.ok r) =>
    let (result, world) := l.world.run answer (reconcile resync clock r)
    let l := { l with world }
    match result with
    | .ok (.after seconds) => { l with due := some (l.now + 10 * seconds) }
    | .ok .awaitChange => { l with due := none }
    | .error e => { l.countError with due := some (l.now + 10 * e.requeueAfter) }
  | _ => { l.countError with due := none }

/-- Lets `ticks` pass, handling the resource each time it comes due; `fuel` bounds how often. -/
def pass (stop : Ticks) : (fuel : Nat) → Loop V → Loop V
  | 0, l => { l with now := stop }
  | fuel + 1, l =>
    match l.due with
    | some t =>
      if t ≤ stop ∧ l.phase = .running then
        pass stop fuel ({ l with now := max t l.now, due := none }.handle answer resync clock)
      else { l with now := stop }
    | none => { l with now := stop }

/-- Lets time pass. Each handling lies a second or more after the one before. -/
def advance (ticks : Ticks) (l : Loop V) : Loop V :=
  pass answer resync clock (l.now + ticks) (ticks + 2) l

def moment : Ticks := 1

def start (l : Loop V) : Loop V :=
  match l.phase with
  | .idle =>
    let (verdict, cluster) := l.world.cluster.listOne
    let l := { l with world.cluster := cluster }
    match verdict with
    | .refused => { l with phase := .returned }
    | .accepted =>
      let l := match cluster.object with
        | .null => { l with phase := .running }
        | object => { l with phase := .running, cache := some object }.handle answer resync clock
      l.advance answer resync clock moment
  | _ => l

/-- Reports the resource that Kubernetes keeps. A report that cannot be decoded changes nothing but
is counted. -/
def report (e : Event) (l : Loop V) : Loop V :=
  match l.phase with
  | .running =>
    let object := l.world.cluster.object
    let l := match e, Resource.decode object with
      | _, .error _ => l.countError
      | .deleted, .ok _ => { l with cache := none }
      | _, .ok _ => { l with cache := some object, due := none }.handle answer resync clock
    l.advance answer resync clock moment
  | _ => l

def signal (l : Loop V) : Loop V :=
  match l.phase with
  | .running => { l with phase := .returned, due := none }
  | _ => l

end Loop

end IdentityGroups.Operator
