import MusicServer.AmbientClock
import MusicServer.SkipRace
import MusicServer.CatalogContinuity
import MusicServer.TrackClosure
import MusicServer.ModeClosure
import MusicServer.PresetSelection
import MusicServer.FolderScope
import MusicServer.IndexBookkeeping
import MusicServer.OriginalsOwnership
import MusicServer.JobUniqueness
import MusicServer.TagLimit
import MusicServer.BatchOnce
import MusicServer.RecordedLedger
import MusicServer.BatchCollection
import MusicServer.SfxWrites
import MusicServer.ProposalsApplicable
import MusicServer.BrowserRuns
import MusicServer.AmbientRuns
import MusicServer.PresetSync
import MusicServer.PasswordBounds
import MusicServer.ExecutionGate
import MusicServer.FollowCycle
import MusicServer.QueueNavigation
import MusicServer.LoopRuns
import MusicServer.SessionDowngrade
import MusicServer.CredentialDeadlock
import MusicServer.KeyLifecycle
import MusicServer.HeadlessOutput
import MusicServer.ChangeFlag
import MusicServer.TagCleanup
import MusicServer.PlaylistHistory
import MusicServer.RetrievalOrder
import MusicServer.CleanupInheritance
import MusicServer.CleanupFolders
import MusicServer.CleanupNames
import MusicServer.FullCredit
import MusicServer.TaggerPartition
import MusicServer.AlbumAssignment
import MusicServer.RememberedDevices
import MusicServer.PlannedPlaylist
import MusicServer.SfxCounts
import MusicServer.Timestamps
import MusicServer.CatalogBrowsing
import MusicServer.MetadataDates
import MusicServer.CatalogPacing
import MusicServer.ProviderDestinations
import MusicServer.PathConfinement
