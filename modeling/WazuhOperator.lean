import WazuhOperator.Authentication.Admission
import WazuhOperator.Certificates.DurationValues
import WazuhOperator.Certificates.HotReload
import WazuhOperator.Certificates.TrustStore
import WazuhOperator.Certificates.Windows
import WazuhOperator.Controller.DrainProgress
import WazuhOperator.Controller.Topology
import WazuhOperator.Controller.WorkerGate
import WazuhOperator.Credentials.RestartOnce
import WazuhOperator.Dashboard.Autoscaling
import WazuhOperator.Indexer.InternalUsers
import WazuhOperator.Indexer.RestartStep
import WazuhOperator.Jobs.LogRotation
import WazuhOperator.Jobs.Mode
import WazuhOperator.Jobs.OneShot
import WazuhOperator.Jobs.RestoreCourse
import WazuhOperator.Networking.Connectivity
import WazuhOperator.Networking.Scheduling
import WazuhOperator.NodePools.Hashes
import WazuhOperator.NodePools.Independence
import WazuhOperator.NodePools.Names
import WazuhOperator.NodePools.Settings
import WazuhOperator.Reporting.Readiness
import WazuhOperator.Reporting.Rollouts
import WazuhOperator.Reporting.Survival
import WazuhOperator.Rolling.Managers
import WazuhOperator.Rules.FailedLookups
import WazuhOperator.Rules.Identifiers
import WazuhOperator.Security.ClientFactory
import WazuhOperator.Security.Deletion
import WazuhOperator.Security.Finalizers
import WazuhOperator.Security.Grants
import WazuhOperator.Security.RoleMappings
import WazuhOperator.Security.Scope
import WazuhOperator.Snapshots.Completion
import WazuhOperator.Snapshots.Once
import WazuhOperator.Snapshots.Policy
import WazuhOperator.Storage.Completion
import WazuhOperator.System.Authorisation
import WazuhOperator.System.Drained
import WazuhOperator.System.Exclusion
import WazuhOperator.System.Isolation
import WazuhOperator.System.Leftovers
import WazuhOperator.System.Progress
import WazuhOperator.Webhook.Modes
import WazuhOperator.Webhook.NodePools
import WazuhOperator.Worker.GracePeriod
