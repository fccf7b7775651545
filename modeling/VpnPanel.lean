import VpnPanel.Lib.Run
import VpnPanel.Lib.Dict
import VpnPanel.Lib.Eff
import VpnPanel.Inbound
import VpnPanel.ConfigData
import VpnPanel.HostSteps
import VpnPanel.VersionNumbers
import VpnPanel.RowLocks
import VpnPanel.CurrentVersion
import VpnPanel.PendingTasks
import VpnPanel.DeletedConfigs
import VpnPanel.RegenerateExclusion
import VpnPanel.ServedDocument
import VpnPanel.FailedTask
import VpnPanel.FailedEdit
import VpnPanel.LiveDocuments
import VpnPanel.AccessCount
import VpnPanel.PinnedShares
import VpnPanel.DeletedShares
import VpnPanel.ConfigBuild
import VpnPanel.BuiltDocuments
import VpnPanel.StoredVersions
import VpnPanel.GivenDocuments
import VpnPanel.SealedSecrets
import VpnPanel.KeyRecords
import VpnPanel.ServableEdits
import VpnPanel.ServedCertificates
import VpnPanel.PortUniqueness
import VpnPanel.MuxMap
import VpnPanel.MuxRoutes
import VpnPanel.StreamConf
import VpnPanel.UnitText
import VpnPanel.VpnSystemctl
import VpnPanel.CountedAttempts
import VpnPanel.PeerLimit
import VpnPanel.PolicyUpdates
import VpnPanel.VpnConnectivity
import VpnPanel.ProbedClient
import VpnPanel.FixedWindow
import VpnPanel.FieldEncryption
import VpnPanel.AliasedData
import VpnPanel.DeletedUnits
import VpnPanel.RegenerateAll
import VpnPanel.PortRuns
import VpnPanel.RotationIndependence
import VpnPanel.CertifiedSni
import VpnPanel.UriRoundTrip
import VpnPanel.TemplateFiles
import VpnPanel.Lib.PyLower
import VpnPanel.Lib.PyRegex
import VpnPanel.ShareCreation
import VpnPanel.SharePublicHost
import VpnPanel.AuditSanitizer
import VpnPanel.CertLinks
import VpnPanel.PinnedCertificates
import VpnPanel.Lib.TtlCache
import VpnPanel.ProbeCache
import VpnPanel.Lib.PyObj
import VpnPanel.Lib.PyGraph
import VpnPanel.ReadAfterWrite
import VpnPanel.Lib.Poll
import VpnPanel.ServiceReady
import VpnPanel.ReadyWait
import VpnPanel.ReadyProgress
import VpnPanel.WorkerMain
import VpnPanel.WorkerSite
import VpnPanel.RealityNames
import VpnPanel.AcceptedLinks
import VpnPanel.Lib.Finally
import VpnPanel.ProbeRun
import VpnPanel.ProbeReach
import VpnPanel.ProbeTime
