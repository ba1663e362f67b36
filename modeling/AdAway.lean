import AdAway.Db.HostEntrySync
import AdAway.Db.SyncInterleaving
import AdAway.Db.MigrationRuns
import AdAway.Source.SourceLoader
import AdAway.Source.SourceLoaderRun
import AdAway.Source.SourceModel
import AdAway.Source.RetrieveInterleaving
import AdAway.Source.Validators
import AdAway.Vpn.VpnModel
import AdAway.Vpn.DnsQuery
import AdAway.Vpn.VpnServiceControls
import AdAway.Source.DownloadFailures
import AdAway.Vpn.VpnServiceLifecycle
import AdAway.Vpn.VpnConnectionMonitor
import AdAway.Vpn.VpnWorker
import AdAway.Ui.ItemInvariants
import AdAway.Ui.ListsFilter
import AdAway.Ui.HomeViewModel
import AdAway.Backup.BackupRoundTrip
import AdAway.Backup.ImportRuns
import AdAway.Root.RootModel
import AdAway.Source.AllowLines
import AdAway.Util.HostsParserPattern
import AdAway.Source.LoadThenSync
import AdAway.Vpn.DnsAliases
import AdAway.Vpn.DnsQueryQueue
import AdAway.Vpn.DnsQueryRuns
import AdAway.Vpn.DnsQuerySenders
import AdAway.Vpn.ThrottleRuns
import AdAway.Vpn.WorkCalls
import AdAway.Vpn.WatchdogRuns
import AdAway.Vpn.DnsAnswers
import AdAway.Ui.SourceEdit
import AdAway.Ui.SourceToggles
import AdAway.Git.CommitApi
import AdAway.Source.StampedSources
import AdAway.Ui.LogEntrySort
import AdAway.Ui.UpdateViewModel
import AdAway.Util.WildcardRegex
import AdAway.Ui.ListQuery
import AdAway.Ui.LogViewModel
import AdAway.Vpn.TunnelRuns
import AdAway.Vpn.TunnelAnswers
import AdAway.Tcpdump.TcpdumpUtils
import AdAway.Tcpdump.RequestLogs
import AdAway.Root.HostsInstall
import AdAway.Root.HostsLookup
import AdAway.Vpn.NetworkDns
import AdAway.Root.WebServer
import AdAway.Update.UpdateServices
import AdAway.Tcpdump.PrintResponse
import AdAway.Vpn.VpnExclusions
