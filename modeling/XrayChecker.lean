import XrayChecker.Machine.Run
import XrayChecker.Machine.Periods
import XrayChecker.Machine.Grants
import XrayChecker.Go.Unicode
import XrayChecker.Go.Text
import XrayChecker.Go.Check
import XrayChecker.Go.Map
import XrayChecker.Machine.Proc
import XrayChecker.Machine.Files
import XrayChecker.Machine.DiskProc
import XrayChecker.Go.Time
import XrayChecker.Go.Decimal
import XrayChecker.Models.ProxyConfig
import XrayChecker.Checker.Failure
import XrayChecker.Checker.Status
import XrayChecker.Checker.Store
import XrayChecker.Checker.Probe
import XrayChecker.Checker.Runs
import XrayChecker.Checker.Frames
import XrayChecker.Checker.Export
import XrayChecker.Checker.Series
import XrayChecker.Checker.Readers
import XrayChecker.Checker.Outage
import XrayChecker.Checker.Cancel
import XrayChecker.Checker.Classified
import XrayChecker.NodeArchive.Types
import XrayChecker.NodeArchive.Availability
import XrayChecker.NodeArchive.Incidents
import XrayChecker.NodeArchive.Store
import XrayChecker.NodeArchive.Record
import XrayChecker.NodeArchive.Journal
import XrayChecker.NodeArchive.OpenIncidents
import XrayChecker.NodeArchive.Downtime
import XrayChecker.NodeArchive.DowntimeRuns
import XrayChecker.NodeArchive.CountedOnce
import XrayChecker.NodeArchive.Reload
import XrayChecker.Remnawave.Types
import XrayChecker.Remnawave.Announce
import XrayChecker.Remnawave.Messages
import XrayChecker.Remnawave.Config
import XrayChecker.Remnawave.Runtime
import XrayChecker.Remnawave.Evaluate
import XrayChecker.Remnawave.Desired
import XrayChecker.Remnawave.Squad
import XrayChecker.Remnawave.Service
import XrayChecker.Remnawave.Pass
import XrayChecker.Remnawave.RuntimeReload
import XrayChecker.Remnawave.Deployment
import XrayChecker.Remnawave.BaseRestoration
import XrayChecker.Remnawave.StatusLine
import XrayChecker.Remnawave.ForeignText
import XrayChecker.Remnawave.Settings
import XrayChecker.Remnawave.SettingsRoundTrip
import XrayChecker.Remnawave.RecoveryClock
import XrayChecker.Remnawave.Hysteresis
import XrayChecker.Remnawave.FailedUpdate
import XrayChecker.Diagnostics.Types
import XrayChecker.Diagnostics.Profiles
import XrayChecker.Diagnostics.Validate
import XrayChecker.Diagnostics.Manager
import XrayChecker.Diagnostics.Sessions
import XrayChecker.Diagnostics.Indexes
import XrayChecker.Diagnostics.SessionRuns
import XrayChecker.Diagnostics.Minted
import XrayChecker.Probeagent.Protocol
import XrayChecker.Probeagent.Registry
import XrayChecker.Probeagent.Runs
import XrayChecker.Probeagent.Changes
import XrayChecker.Probeagent.AcceptedOnce
import XrayChecker.Probeagent.Reloads
import XrayChecker.Probeagent.Executor
import XrayChecker.Probeagent.Honest
import XrayChecker.Probeagent.Delivered
import XrayChecker.Diagnostics.LocalResult
import XrayChecker.Remoteprobe.Controller
import XrayChecker.Remoteprobe.OwnFailure
import XrayChecker.Xray.StableIDs
import XrayChecker.Xray.Refresh
import XrayChecker.Xray.Lifecycle
import XrayChecker.Speedtest.Results
import XrayChecker.Speedtest.DeleteRace
import XrayChecker.Speedtest.Persistence
import XrayChecker.Speedtest.Histories
import XrayChecker.Speedtest.Restarts
import XrayChecker.Reachability.Matrix
import XrayChecker.Reachability.Repeated
import XrayChecker.Reachability.Confirmed
import XrayChecker.Diagnostics.Lineage
import XrayChecker.Remoteprobe.Withdrawals
import XrayChecker.Remoteprobe.Withdrawn
import XrayChecker.Remoteprobe.HandedOut
import XrayChecker.Speedtest.Fallback
import XrayChecker.Speedtest.Phases
import XrayChecker.Speedtest.ReserveOrder
import XrayChecker.Speedtest.Reserves
import XrayChecker.Speedtest.Cancellation
import XrayChecker.Subsource.Store
import XrayChecker.Subsource.Agreement
import XrayChecker.Xray.Deduplicate
import XrayChecker.Xray.Restart
import XrayChecker.Subscription.Feeds
import XrayChecker.Telegram.Transport
import XrayChecker.Go.Bytes
import XrayChecker.Go.Stable
import XrayChecker.Go.Submap
import XrayChecker.Go.Replacer
import XrayChecker.Verdictlog.Journal
import XrayChecker.Verdictlog.Lines
import XrayChecker.Verdictlog.Compaction
import XrayChecker.Verdictlog.Keeps
import XrayChecker.Verdictlog.Accepted
import XrayChecker.Go.Utf8
import XrayChecker.Go.Base64
import XrayChecker.Subscription.Title
import XrayChecker.Subscription.SafeTitle
import XrayChecker.Telegram.Markup
import XrayChecker.Telegram.Trim
import XrayChecker.Telegram.Shorten
import XrayChecker.Telegram.RichBody
import XrayChecker.Telegram.Alerts
import XrayChecker.Telegram.Compact
import XrayChecker.Telegram.Deliverable
import XrayChecker.Remnawave.Tally
import XrayChecker.Remnawave.TwoLevel
import XrayChecker.Telegram.SpeedResults
import XrayChecker.Telegram.Mutes
import XrayChecker.Telegram.MutesKept
import XrayChecker.Telegram.NodeAlerts
import XrayChecker.Telegram.AlertEpisodes
import XrayChecker.Telegram.AlertPasses
import XrayChecker.Speedtest.Judged
import XrayChecker.Speedtest.Schedule
import XrayChecker.Speedtest.Deadlines
import XrayChecker.Agentautomation.Coordinator
import XrayChecker.Speedprobe.FiledOnce
import XrayChecker.Probeagent.Converges
import XrayChecker.Remnawave.Conflicting
import XrayChecker.Remnawave.Placeholders
import XrayChecker.Remnawave.Episodes
import XrayChecker.NodeArchive.MassIncidents
import XrayChecker.Diagnostics.Verdict
import XrayChecker.Reachability.Findings
import XrayChecker.Telegram.MassAlerts
import XrayChecker.Telegram.Digest
import XrayChecker.Telegram.DigestSlots
import XrayChecker.Go.Json
import XrayChecker.Xray.Config
import XrayChecker.Xray.Fingerprint
import XrayChecker.Xray.Confirmation
import XrayChecker.Go.Url
import XrayChecker.Go.UrlQuery
import XrayChecker.Go.Tally
import XrayChecker.Go.Zone
import XrayChecker.Pathquality.Report
import XrayChecker.Pathquality.Partition
import XrayChecker.Pathquality.Counts
import XrayChecker.Subsource.Masked
import XrayChecker.Subscription.EncodedLinks
import XrayChecker.Subscription.OriginalLinks
import XrayChecker.Go.Base64Text
import XrayChecker.Go.Distinct
import XrayChecker.Go.Total
import XrayChecker.Nodemerge.Merge
import XrayChecker.Nodemerge.Conserved
import XrayChecker.Nodemerge.Measurements
import XrayChecker.Nodemerge.Transaction
import XrayChecker.Nodemerge.Settled
import XrayChecker.Nodemerge.Recovery
import XrayChecker.Nodemerge.Trial
import XrayChecker.Nodemerge.Install
import XrayChecker.Nodemerge.Startups
