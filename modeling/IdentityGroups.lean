import IdentityGroups.Main
import IdentityGroups.Metrics.Endpoint
import IdentityGroups.Operator.Watch
import IdentityGroups.Vault.Script
import IdentityGroups.Vault.Store
import IdentityGroups.Proofs.Json.Decode
import IdentityGroups.Proofs.Resource.Report
import IdentityGroups.Proofs.Program.Transcript
import IdentityGroups.Proofs.Sync.Course
import IdentityGroups.Proofs.Sync.Learning
import IdentityGroups.Proofs.Operator.Report
import IdentityGroups.Proofs.Operator.Tracking
import IdentityGroups.Proofs.Resource.RoundTrip
import IdentityGroups.Proofs.Group.Body
import IdentityGroups.Proofs.Operator.Lifecycle
import IdentityGroups.Proofs.Text.Percent
import IdentityGroups.Proofs.Vault.Address
import IdentityGroups.Proofs.Vault.Contents
import IdentityGroups.Proofs.Program.Cut
import IdentityGroups.Proofs.Vault.Serve
import IdentityGroups.Proofs.Sync.OnStore
import IdentityGroups.Proofs.Sync.CrashSafety
import IdentityGroups.Proofs.Operator.OnWorld
import IdentityGroups.Proofs.Operator.Recovery
import IdentityGroups.Proofs.Program.Interleaving
import IdentityGroups.Proofs.Vault.Naming
import IdentityGroups.Proofs.Sync.Racing
import IdentityGroups.Proofs.Operator.Delay
import IdentityGroups.Proofs.Sync.Alone
import IdentityGroups.Proofs.Sync.Independence
import IdentityGroups.Proofs.Sync.Undisturbed
import IdentityGroups.Proofs.Program.Fault
import IdentityGroups.Proofs.Sync.Faults
import IdentityGroups.Proofs.Operator.Repair
import IdentityGroups.Proofs.Sync.Effect
import IdentityGroups.Proofs.Sync.Protocol
import IdentityGroups.Proofs.Operator.Convergence
import IdentityGroups.Proofs.Program.Answered
import IdentityGroups.Proofs.Sync.Fitting
import IdentityGroups.Proofs.Operator.Ready
import IdentityGroups.Proofs.Sync.Aftermath
import IdentityGroups.Proofs.Sync.Showing
import IdentityGroups.Proofs.Operator.Observed
import IdentityGroups.Proofs.Operator.Idempotence
import IdentityGroups.Proofs.Json.ReadBack
import IdentityGroups.Proofs.Vault.Rendering
import IdentityGroups.Proofs.Vault.Absence
import IdentityGroups.Proofs.Url.Parse
import IdentityGroups.Proofs.Vault.Lookup
import IdentityGroups.Proofs.Resource.Replacement
import IdentityGroups.Proofs.Operator.Cleanup
import IdentityGroups.Proofs.Vault.History
import IdentityGroups.Proofs.Vault.Identity
import IdentityGroups.Proofs.Vault.Addressing
import IdentityGroups.Proofs.Operator.Accounting
import IdentityGroups.Proofs.Time.Calendar
import IdentityGroups.Proofs.Time.Stamp
import IdentityGroups.Proofs.Resource.Storage
import IdentityGroups.Proofs.Group.Faithful
import IdentityGroups.Proofs.Vault.Traps
import IdentityGroups.Proofs.Text.Numeral
import IdentityGroups.Proofs.Config.Settings
