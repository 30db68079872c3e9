import AuthzKit.Agents.Resolver
import AuthzKit.Caching.Client
import AuthzKit.Caching.History
import AuthzKit.Caching.OrderedMap
import AuthzKit.Effects.Outcomes
import AuthzKit.Paging.Pages
import AuthzKit.Policies.Absence
import AuthzKit.Policies.Engine
import AuthzKit.Policies.Expressions
import AuthzKit.Policies.Operands
import AuthzKit.Policies.RuleSemantics
import AuthzKit.Provisioning
import AuthzKit.Rbac.Checker
import AuthzKit.Rbac.ContextErrors
import AuthzKit.Rbac.Decisions
import AuthzKit.Rbac.ListedPermissions
import AuthzKit.Rbac.Models
import AuthzKit.Rbac.PolicyRules
import AuthzKit.Rbac.References
import AuthzKit.Rbac.Relation
import AuthzKit.Rbac.Requests
import AuthzKit.Relational.Expiring
import AuthzKit.Relational.Interleaving
import AuthzKit.Relational.Keyed
import AuthzKit.Relational.Links
import AuthzKit.Relational.Redirect
import AuthzKit.Relational.Runs
import AuthzKit.Sdk.AgentSessions
import AuthzKit.Sdk.CSharpCache
import AuthzKit.Sdk.CSharpHistory
import AuthzKit.Sdk.JoinedKeys
import AuthzKit.Sdk.PythonCache
import AuthzKit.Sdk.PythonStaleness
import AuthzKit.Sdk.Retries
import AuthzKit.Sdk.RoleUpsert
import AuthzKit.Security.ApiKeyRotation
import AuthzKit.Security.ApiKeys
import AuthzKit.Security.ClientRuns
import AuthzKit.Security.Delegations
import AuthzKit.Security.GrantRuns
import AuthzKit.Security.InvitationRuns
import AuthzKit.Security.Invitations
import AuthzKit.Security.InvitedRoles
import AuthzKit.Security.Issuance
import AuthzKit.Security.JwksProvenance
import AuthzKit.Security.JwksRefresh
import AuthzKit.Security.JwtValidation
import AuthzKit.Security.KeyCalls
import AuthzKit.Security.KeyInstances
import AuthzKit.Security.KeyLifecycle
import AuthzKit.Security.KeyRotation
import AuthzKit.Security.KeyRotationRuns
import AuthzKit.Security.LoginAttempts
import AuthzKit.Security.OauthClients
import AuthzKit.Security.OauthResource
import AuthzKit.Security.SigningKeys
import AuthzKit.Service.AdminLogin
import AuthzKit.Service.AdminLoginRuns
import AuthzKit.Service.AdminProvenance
import AuthzKit.Service.AdminSessions
import AuthzKit.Service.AssignmentRoutes
import AuthzKit.Service.AuditTrail
import AuthzKit.Service.Authorize
import AuthzKit.Service.BasicAuth
import AuthzKit.Service.BearerTokens
import AuthzKit.Service.CachePartition
import AuthzKit.Service.CallerLabels
import AuthzKit.Service.Callers
import AuthzKit.Service.ContextProbes
import AuthzKit.Service.Endpoints
import AuthzKit.Service.GrantPages
import AuthzKit.Service.IssuedGrants
import AuthzKit.Service.KillSwitch
import AuthzKit.Service.Management
import AuthzKit.Service.ManagementRuns
import AuthzKit.Service.MemoryLimiter
import AuthzKit.Service.Middleware
import AuthzKit.Service.Probes
import AuthzKit.Service.RedisLimiter
import AuthzKit.Service.References
import AuthzKit.Service.RefusedRetries
import AuthzKit.Service.Revocation
import AuthzKit.Service.Roles
import AuthzKit.Service.Runtime
import AuthzKit.Service.Schemas
import AuthzKit.Service.Stack
import AuthzKit.Service.StackRuns
import AuthzKit.Service.TenantBinding
import AuthzKit.Service.TokenEndpoint
import AuthzKit.Service.TokenRuns
import AuthzKit.Service.UnknownReferences
import AuthzKit.Storage.AgentsSpec
import AuthzKit.Storage.Assignments
import AuthzKit.Storage.Catalog
import AuthzKit.Storage.CatalogExact
import AuthzKit.Storage.CatalogLinks
import AuthzKit.Storage.CatalogReport
import AuthzKit.Storage.CatalogRoles
import AuthzKit.Storage.CatalogRows
import AuthzKit.Storage.CatalogSpec
import AuthzKit.Storage.Counts
import AuthzKit.Storage.Evolution
import AuthzKit.Storage.Invariant
import AuthzKit.Storage.Isolation
import AuthzKit.Storage.Matching
import AuthzKit.Storage.MembersSpec
import AuthzKit.Storage.Memory
import AuthzKit.Storage.Operations
import AuthzKit.Storage.Orm
import AuthzKit.Storage.OverrideErasure
import AuthzKit.Storage.OverrideRuns
import AuthzKit.Storage.OverrideStates
import AuthzKit.Storage.Permissions
import AuthzKit.Storage.Provision
import AuthzKit.Storage.Reads
import AuthzKit.Storage.Resolve
import AuthzKit.Storage.RoleOverrides
import AuthzKit.Storage.RoleViews
import AuthzKit.Storage.Sqlalchemy
import AuthzKit.Storage.StableReferences
import AuthzKit.Storage.StateSpec
import AuthzKit.Storage.TenantState
import AuthzKit.Storage.Uuid
import AuthzKit.Storage.Validation
import AuthzKit.Storage.Views
import AuthzKit.Storage.WellFormed
import AuthzKit.Tenancy.Resolver
import AuthzKit.Text.Base64
import AuthzKit.Text.Delimited
import AuthzKit.Text.Urls
import AuthzKit.Text.Words
import AuthzKit.Windows.Sliding
