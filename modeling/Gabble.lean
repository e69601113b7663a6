import Gabble.Transition
import Gabble.CInt
import Gabble.RequestPipeline
import Gabble.RequestPipelineOrder
import Gabble.RequestPipelineOnce
import Gabble.RequestPipelineDispose
import Gabble.RequestPipelineZombies
import Gabble.VCard
import Gabble.VCardManager
import Gabble.VCardManagerRequests
import Gabble.VCardManagerReplies
import Gabble.VCardManagerRuns
import Gabble.VCardManagerEdits
import Gabble.VCardManagerSettle
import Gabble.VCardPatch
import Gabble.VCardManagerServer
import Gabble.Tally
import Gabble.RosterItem
import Gabble.RosterEdit
import Gabble.Roster
import Gabble.RosterMoves
import Gabble.RosterLedger
import Gabble.RosterWiring
import Gabble.RosterTurns
import Gabble.RosterRuns
import Gabble.RosterValidity
import Gabble.RosterPending
import Gabble.RosterRefused
import Gabble.RosterRemoval
import Gabble.RosterRequests
import Gabble.Base64
import Gabble.BytestreamIbb
import Gabble.BytestreamIbbSend
import Gabble.BytestreamIbbClose
import Gabble.BytestreamIbbReceive
import Gabble.Presence
import Gabble.PresenceAggregate
import Gabble.RunningChoice
import Gabble.PresenceChoice
import Gabble.DiscoReply
import Gabble.PresenceCache
import Gabble.PresenceCacheMoves
import Gabble.PresenceCacheWaiters
import Gabble.PresenceCacheErrors
import Gabble.Poll
import Gabble.PresenceCacheTrust
import Gabble.PresenceCacheVerified
import Gabble.PresenceCacheOrigin
import Gabble.PresenceCacheForms
import Gabble.Versioned
import Gabble.PresenceCacheVersions
import Gabble.PresenceCacheBuilding
import Gabble.PresenceCacheSettle
import Gabble.Segments
import Gabble.BytestreamMuc
import Gabble.TubeStream
import Gabble.TubeStreamConnections
import Gabble.TubeStreamTables
import Gabble.TubeDbus
import Gabble.TubeDbusFraming
import Gabble.TubeDbusReassembly
import Gabble.TubeDbusMessages
import Gabble.FtChannel
import Gabble.FtChannelEnded
import Gabble.CText
import Gabble.GtalkCollection
import Gabble.GtalkCollectionResponse
import Gabble.GtalkCollectionReceive
import Gabble.GtalkCollectionFraming
import Gabble.GtalkSender
import Gabble.GtalkSenderChannels
import Gabble.GtalkSenderRequests
import Gabble.GtalkSenderDelivery
import Gabble.BytestreamSocks5
import Gabble.BytestreamSocks5Messages
import Gabble.BytestreamSocks5Grammar
import Gabble.BytestreamSocks5Read
import Gabble.BytestreamSocks5Outcome
import Gabble.BytestreamSocks5Start
import Gabble.BytestreamSocks5Segments
import Gabble.BytestreamClosed
import Gabble.MediaChannelHold
import Gabble.MediaChannelPeer
import Gabble.InverseTables
import Gabble.TubeDbusNames
import Gabble.TubeDbusSenders
import Gabble.BytestreamMultiple
import Gabble.BytestreamMultipleFallback
import Gabble.VCardManagerExpiry
import Gabble.PresenceCacheOwn
import Gabble.FtChannelFrame
import Gabble.FtChannelCounts
import Gabble.BytestreamSocks5Pairs
import Gabble.BytestreamSocks5Asserts
import Gabble.BytestreamSocks5Target
import Gabble.BytestreamSocks5Negotiation
import Gabble.BytestreamSocks5Answers
import Gabble.ListCursor
import Gabble.Lifecycle
import Gabble.ListFrame
import Gabble.RecentList
import Gabble.Socks5Proxies
import Gabble.Socks5ProxiesQueries
import Gabble.Socks5ProxiesOffer
import Gabble.BytestreamFactory
import Gabble.BytestreamFactoryTables
import Gabble.DiscoPipeline
import Gabble.DiscoPipelineFill
import Gabble.DiscoPipelineRuns
import Gabble.PresenceCacheRequests
import Gabble.RosterAcknowledged
import Gabble.BytestreamSocks5Attempts
import Gabble.BytestreamConsent
import Gabble.Answered
import Gabble.BytestreamAnswers
import Gabble.BytestreamSi
import Gabble.BytestreamMultiplePending
import Gabble.BytestreamSiAnswers
import Gabble.PhasedLog
import Gabble.BytestreamSocks5Early
import Gabble.BytestreamIbbCloseIqs
import Gabble.TubeDbusQueue
import Gabble.TubeDbusSegments
import Gabble.TubeDbusUniqueNames
import Gabble.UriEscape
import Gabble.GtalkShareServer
import Gabble.RosterGroupMembers
import Gabble.RosterSteady
import Gabble.RosterFlicker
import Gabble.DecimalText
import Gabble.NodeProperties
import Gabble.AddressingUri
import Gabble.AddressingEscape
import Gabble.AddressingUriRoundTrip
import Gabble.AddressingVcard
import Gabble.RosterBlockedRemoval
import Gabble.RosterUnpublish
import Gabble.Strv
import Gabble.SharedStatuses
import Gabble.WockyStanza
import Gabble.Porter
import Gabble.PorterCalm
import Gabble.PorterCallbacks
import Gabble.PorterReplies
import Gabble.PorterPowerSaving
import Gabble.PorterDispatch
import Gabble.CapsHash
import Gabble.CapsHashOrder
import Gabble.CapsHashCollisions
import Gabble.JingleActions
import Gabble.JingleContent
import Gabble.JingleSession
import Gabble.JingleStanzas
import Gabble.JingleLife
import Gabble.JingleRuns
