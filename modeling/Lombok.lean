import Lombok.Tasks.Retry
import Lombok.Tasks.ScheduleBatch
import Lombok.Events.FanOut
import Lombok.Tunnel.Response
import Lombok.Apps.ConfigChecks
import Lombok.Tunnel.Credentials
import Lombok.Tunnel.Spawn
import Lombok.Worker.Fidelity
import Lombok.Docker.TunnelDeletion
import Lombok.Tunnel.WsRelay
import Lombok.Tunnel.Teardown
import Lombok.Tunnel.SlotAccounting
import Lombok.Tunnel.ClientRouting
import Lombok.Folders.MetadataRuns
import Lombok.Worker.AppHashes
import Lombok.Worker.CoreWorkerService
import Lombok.Docker.ContainerRequests
import Lombok.Worker.ErrorReports
import Lombok.Worker.Lifecycle
import Lombok.Socket.UserSocket
import Lombok.Auth.Revocation
import Lombok.Docker.BridgeRuns
import Lombok.Docker.StaleAttempts
import Lombok.Agent.Agreement
import Lombok.Auth.SsoRuns
import Lombok.Docker.UninstallRuns
import Lombok.Tunnel.ProtocolParser
import Lombok.Agent.LogRotation
import Lombok.Tunnel.AgentTarget
import Lombok.Tasks.CompletionView
import Lombok.Tasks.HeartbeatLog
import Lombok.Tasks.ProgressAtomicity
import Lombok.Agent.LineInterceptor
import Lombok.Notifications.EmailRuns
import Lombok.Notifications.MaxInterval
import Lombok.Docker.DefaultHost
import Lombok.Templates.KeyFilters
import Lombok.Templates.Arguments
import Lombok.Templates.Concatenation
import Lombok.Folders.ListingPages
import Lombok.Storage.KeyRotation
import Lombok.Storage.PrefixDeletion
import Lombok.Auth.EmailVerification
import Lombok.Orm.MigrationRuns
import Lombok.Orm.JsonbStorage
import Lombok.Worker.DaemonLoop
import Lombok.Apps.UiBundleRuns
import Lombok.Agent.WorkerStartRuns
import Lombok.Apps.SettingsPatch
import Lombok.Tasks.LogEncoder
import Lombok.Tasks.UpdateBroadcaster
import Lombok.Comments.Listing
import Lombok.Tasks.Drain
