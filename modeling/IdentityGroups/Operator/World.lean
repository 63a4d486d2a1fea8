import IdentityGroups.Cluster
import IdentityGroups.Metrics.Registry
import IdentityGroups.Operator.Reconcile

/-! # The operator in its world

Kubernetes, Vault and the counters, against which a handling is run.
-/

namespace IdentityGroups.Operator

structure World (V : Type) where
  cluster : Cluster
  vault : V
  metrics : Metrics.Registry := {}

namespace World
variable {V : Type} (answer : Vault.Request → V → Vault.Reply × V)

/-- What an effect does to the world. A reconciliation takes no time. -/
def handle : (e : Effect) → World V → e.Answer × World V
  | .vault r, w =>
    let (reply, vault) := answer r w.vault
    (reply, { w with vault })
  | .patchStatus space name patch, w =>
    let (verdict, cluster) := w.cluster.patchStatus space name patch
    (verdict, { w with cluster })
  | .patchObject space name operations, w =>
    let (verdict, cluster) := w.cluster.patchObject space name operations
    (verdict, { w with cluster })
  | .count family labels, w => ((), { w with metrics := w.metrics.increment ⟨family, labels⟩ })
  | .timed, w => ((), { w with metrics := w.metrics.observe [kindLabel] 0.0 })

def run {α : Type} (h : Handling α) (w : World V) : Except Error α × World V :=
  Program.run (handle answer) h.run w

def runOn (handling : Resource → Handling Next) (w : World V) :
    Except Json.Mismatch (Except Error Next) × World V :=
  match Resource.decode w.cluster.object with
  | .error m => (.error m, w)
  | .ok r =>
    let (result, w) := w.run answer (handling r)
    (.ok result, w)

end World

end IdentityGroups.Operator
