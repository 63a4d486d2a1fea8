/-! # What the operator counts -/

namespace IdentityGroups.Metrics

inductive Family where
  | reconciliations
  | reconciliationErrors
  | groupOperations
  | driftDetected
  | vaultRequests
  | cleanups
  deriving DecidableEq, Repr, Inhabited

namespace Family

def all : List Family :=
  [.reconciliations, .reconciliationErrors, .groupOperations, .driftDetected, .vaultRequests,
    .cleanups]

def shortName : Family → String
  | .reconciliations => "reconciliations_total"
  | .reconciliationErrors => "reconciliation_errors_total"
  | .groupOperations => "group_operations_total"
  | .driftDetected => "drift_detected_total"
  | .vaultRequests => "vault_requests_total"
  | .cleanups => "cleanups_total"

def help : Family → String
  | .reconciliations => "Total number of reconciliations"
  | .reconciliationErrors => "Total number of reconciliation errors"
  | .groupOperations => "Identity group sync passes by action " ++
      "(created, adopted, replaced, updated, refreshed, failed)"
  | .driftDetected => "Number of identity groups found deleted in Vault"
  | .vaultRequests => "Vault API requests by method and outcome"
  | .cleanups => "Total number of cleanup operations"

def labelNames : Family → List String
  | .reconciliations | .reconciliationErrors | .cleanups => ["kind"]
  | .groupOperations => ["action", "namespace"]
  | .driftDetected => ["namespace"]
  | .vaultRequests => ["method", "outcome"]

end Family

end IdentityGroups.Metrics
