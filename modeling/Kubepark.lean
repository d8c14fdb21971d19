import Kubepark.KeyedStore
import Kubepark.Prog
import Kubepark.Fairness
import Kubepark.Pool
import Kubepark.ApiServer
import Kubepark.ApiEffects
import Kubepark.ResourceVersions
import Kubepark.Changes
import Kubepark.ApiClient
import Kubepark.Stutter
import Kubepark.Types
import Kubepark.Cluster
import Kubepark.Podspec
import Kubepark.ContainerEnv
import Kubepark.Sshca
import Kubepark.CaBootstrap
import Kubepark.SandboxRbac
import Kubepark.SandboxHome
import Kubepark.SandboxController
import Kubepark.SandboxGates
import Kubepark.SandboxReport
import Kubepark.SandboxRecord
import Kubepark.SandboxPass
import Kubepark.SandboxTeardown
import Kubepark.ClusterRuns
import Kubepark.TeardownComplete
import Kubepark.NetworkCover
import Kubepark.HomeExclusive
import Kubepark.RbacTenants
import Kubepark.AccessProfileController
import Kubepark.PartialGrants
import Kubepark.SandboxProgress
import Kubepark.RbacExact
import Kubepark.SandboxSettled
import Kubepark.PodGuards
import Kubepark.ProfileRoles
import Kubepark.AccountAudit
import Kubepark.CertificateValidity
import Kubepark.ListOrder
import Kubepark.ClaimTieBreak
import Kubepark.IpAddress
import Kubepark.NetworkTraffic
import Kubepark.GatewayStore
import Kubepark.SshJump
import Kubepark.Durations
import Kubepark.SessionController
import Kubepark.IdleClock
import Kubepark.HeartbeatDeadline
import Kubepark.SessionHistory
import Kubepark.SessionUpkeep
import Kubepark.SessionAudit
import Kubepark.SuspendRoute
import Kubepark.IdleClockRace
import Kubepark.PassEnds
import Kubepark.HomeClaims
import Kubepark.PassGuarantees
import Kubepark.OrphanedHomes
import Kubepark.PassReport
import Kubepark.TemplateDrift
import Kubepark.Encoding
import Kubepark.WebBrowser
import Kubepark.HttpProxy
import Kubepark.BrowserLogin
import Kubepark.AgentIdentity
import Kubepark.PolicyStability
import Kubepark.RouteNames
import Kubepark.Json
import Kubepark.JsonFields
import Kubepark.CookieCodec
import Kubepark.SignEndpoint
import Kubepark.SshAccess
import Kubepark.Cli
import Kubepark.CliKeys
import Kubepark.CliLogin
import Kubepark.RunningClocks
import Kubepark.IdleDeadline
import Kubepark.SandboxConverges
import Kubepark.PendingWakes
import Kubepark.SandboxWatches
import Kubepark.SandboxLiveness
import Kubepark.Shlex
import Kubepark.AgentExec
import Kubepark.AgentShell
import Kubepark.PodAdmission
