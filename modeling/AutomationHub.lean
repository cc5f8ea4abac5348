import AutomationHub.System.Knowledge
import AutomationHub.System.DecisionAuthority
import AutomationHub.Workflow.EngineProperties
import AutomationHub.System.Escalations
import AutomationHub.Database.Transport
import AutomationHub.Services.WorkflowDefinitionService
import AutomationHub.System.DefinitionHistory
import AutomationHub.Api.Administration
import AutomationHub.System.TenantIsolation
import AutomationHub.System.SearchIsolation
import AutomationHub.System.PinnedDefinitions
import AutomationHub.System.StageStaffing
import AutomationHub.System.BulkDecisions
import AutomationHub.System.Activations
import AutomationHub.System.ActivationRaces
import AutomationHub.Jobs.Coverage
import AutomationHub.Jobs.Lifecycle
import AutomationHub.Jobs.Attempts
import AutomationHub.Foundation.Leases
import AutomationHub.Scheduler.Coordinator
import AutomationHub.Scheduler.Runner
import AutomationHub.Scheduler.RunnerDiscipline
import AutomationHub.Scheduler.Instances
import AutomationHub.Scheduler.Toggles
import AutomationHub.Scheduler.JobLocks
import AutomationHub.Scheduler.JobRuns
import AutomationHub.Invitations.Directory
import AutomationHub.Invitations.Provisioning
import AutomationHub.Invitations.Acceptance
import AutomationHub.Attachments.Store
import AutomationHub.Attachments.VersionChains
import AutomationHub.System.VisibilityPolicies
import AutomationHub.System.DefinitionClients
import AutomationHub.System.NotificationContexts
import AutomationHub.Users.Administrators
import AutomationHub.Comments.CommentService
import AutomationHub.Foundation.Writes
import AutomationHub.RateLimiting.RateLimits
import AutomationHub.RateLimiting.RateLimiterProperties
import AutomationHub.Database.Policies
import AutomationHub.Comments.CommentWrites
import AutomationHub.Users.UserWrites
import AutomationHub.Attachments.AttachmentWrites
import AutomationHub.System.AuditedWrites
import AutomationHub.Comments.CommentPolicies
import AutomationHub.Attachments.AttachmentPolicies
import AutomationHub.System.WritePolicies
import AutomationHub.Database.Statements
import AutomationHub.System.DirectStatements
import AutomationHub.System.SerialOperations
import AutomationHub.System.SerialRuns
import AutomationHub.System.RequestVisibility
import AutomationHub.System.DecisionReplay
import AutomationHub.Analytics.OperationalProperties
import AutomationHub.System.PendingFigures
import AutomationHub.Workflow.DecidedStages
import AutomationHub.System.ProgressViews
import AutomationHub.System.AssigneeTenancy
import AutomationHub.System.ManagerAssignment
import AutomationHub.Foundation.Arrangement
import AutomationHub.System.ManagerChoice
import AutomationHub.System.VersionNumbers
import AutomationHub.Analytics.DelayReports
import AutomationHub.System.ThresholdRange
import AutomationHub.Foundation.Queues
import AutomationHub.Jobs.RedisQueue
import AutomationHub.Jobs.RedisDelivery
import AutomationHub.Jobs.Fairness
import AutomationHub.Foundation.OffsetSweep
import AutomationHub.System.PendingSweep
import AutomationHub.Foundation.Escaping
import AutomationHub.Database.SearchFilters
import AutomationHub.Users.Erasure
import AutomationHub.Foundation.Failures
import AutomationHub.Users.ErasureRetries
import AutomationHub.Attachments.StoredObjects
import AutomationHub.System.NotificationDelivery
import AutomationHub.System.Reminders
import AutomationHub.Caching.ResponseCache
import AutomationHub.Caching.CacheRuns
import AutomationHub.Caching.Freshness
import AutomationHub.Caching.TokenVerifier
import AutomationHub.Foundation.PartialUpdates
import AutomationHub.Companies.CompanyLicenses
import AutomationHub.System.ConcurrentPatches
import AutomationHub.Utilities.RetryPolicy
import AutomationHub.Invitations.Listing
import AutomationHub.System.DecisionAverages
import AutomationHub.Database.PageFetches
import AutomationHub.Analytics.Workload
import AutomationHub.System.WorkloadSummaries
import AutomationHub.System.ReminderWindow
import AutomationHub.Services.SnippetHighlights
import AutomationHub.Auth.Authentication
import AutomationHub.Services.DashboardService
import AutomationHub.System.DashboardFigures
import AutomationHub.Model.Calendar
import AutomationHub.Analytics.TimeSeries
import AutomationHub.Workflow.WorkflowProgress
import AutomationHub.System.WorkflowLaw
import AutomationHub.Foundation.Rollbacks
import AutomationHub.System.DecisionAtomicity
import AutomationHub.Model.Identifiers
import AutomationHub.Utilities.FileUtils
import AutomationHub.Attachments.StoredFiles
import AutomationHub.System.EscalationAtomicity
import AutomationHub.System.CreationOutcomes
import AutomationHub.Platform.CompanyService
import AutomationHub.Platform.Tenants
import AutomationHub.Foundation.Embeddings
import AutomationHub.Invitations.Issuing
import AutomationHub.Foundation.Returning
import AutomationHub.Invitations.TokenDiscipline
import AutomationHub.Invitations.TokenWrites
import AutomationHub.Invitations.Tokens
import AutomationHub.Scheduler.Election
import AutomationHub.Scheduler.Leadership
