import LanAgent.Library.Runs
import LanAgent.Library.Table
import LanAgent.Python.Json
import LanAgent.Models
import LanAgent.AgentRoutes
import LanAgent.DeviceRoutes
import LanAgent.ImportRoutes
import LanAgent.WsRoutes
import LanAgent.TaskRoutes
import LanAgent.Dispatch
import LanAgent.Clones
import LanAgent.Connections
import LanAgent.Credentials
import LanAgent.Server
import LanAgent.Tokens
import LanAgent.Enrolment
import LanAgent.Terminal
import LanAgent.Isolation
import LanAgent.WholeFrames
import LanAgent.DeviceTypes
import LanAgent.Broadcasts
import LanAgent.Upgrade
import LanAgent.Addresses
import LanAgent.Records
import LanAgent.Hostnames
import LanAgent.Deletions
import LanAgent.Library.CriticalSection
import LanAgent.Registration
import LanAgent.ParentTask
import LanAgent.RateLimit
import LanAgent.BruteForce
import LanAgent.Agent
import LanAgent.HardwareInfo
import LanAgent.Go.Strings
import LanAgent.Go.Url
import LanAgent.ServerUrl
import LanAgent.HeartbeatPaths
import LanAgent.Cancellation
import LanAgent.Lockout
import LanAgent.UpgradeRuns
import LanAgent.UpgradeTimeouts
import LanAgent.Library.Calendar
import LanAgent.Library.Decimals
import LanAgent.Python.DateTime
import LanAgent.HeartbeatTimeout
import LanAgent.DeployConf
import LanAgent.ForwardedFor
import LanAgent.Go.Json
import LanAgent.HardwareReports
import LanAgent.Go.Http
import LanAgent.Downloads
import LanAgent.Library.Pages
import LanAgent.Sqlite.Like
import LanAgent.DeviceList
import LanAgent.DeviceFilters
import LanAgent.DevicePages
import LanAgent.Dedupe
import LanAgent.BulkImport
import LanAgent.AddressRanges
import LanAgent.CsvImport
import LanAgent.ImportedAddresses
import LanAgent.PreissuedTokens
import LanAgent.TaskPage
import LanAgent.DispatchAccounts
import LanAgent.AuditPurge
import LanAgent.Migration
import LanAgent.Install
import LanAgent.FilePush
import LanAgent.Library.Components
import LanAgent.Go.FilePath
import LanAgent.PushedPaths
import LanAgent.Python.PosixPath
import LanAgent.StaticFiles
import LanAgent.Passwords
import LanAgent.BatchDeletion
import LanAgent.Uploads
import LanAgent.Go.Utf16
import LanAgent.HostMessage
import LanAgent.Library.Escaping
import LanAgent.Library.Markup
import LanAgent.Unattend
import LanAgent.Loopback
import LanAgent.Rearm
import LanAgent.Go.Unmarshal
import LanAgent.Go.PythonTexts
import LanAgent.Commands
import LanAgent.CommandFrames
import LanAgent.Protocol
import LanAgent.CommandRuns
import LanAgent.Go.Truncated
import LanAgent.ConfigFile
import LanAgent.Deployment
import LanAgent.Lifecycle
import LanAgent.Ledger
import LanAgent.Go.UrlPath
import LanAgent.Distribution
import LanAgent.Sessions
