import Youtick.AccessControl.Agreement
import Youtick.AccessControl.Contract
import Youtick.AccessControl.EmergencyPause
import Youtick.AccessControl.Governance
import Youtick.AccessControl.Grants
import Youtick.AccessControl.GuardianSeparation
import Youtick.AccessControl.KeyOwnership
import Youtick.AccessControl.StoredGrants
import Youtick.Bridge.ArchiveRuns
import Youtick.Bridge.Base58
import Youtick.Bridge.HlsDenial
import Youtick.Bridge.HlsReady
import Youtick.Bridge.HlsText
import Youtick.Bridge.HlsVerification
import Youtick.Bridge.Job
import Youtick.Bridge.JobEvents
import Youtick.Bridge.JobMarkers
import Youtick.Bridge.JobRequests
import Youtick.Bridge.JobRules
import Youtick.Bridge.JobRuns
import Youtick.Bridge.JobStates
import Youtick.Bridge.JobSteps
import Youtick.Bridge.JobUploads
import Youtick.Bridge.JobUses
import Youtick.Bridge.Operator
import Youtick.Bridge.OperatorArchive
import Youtick.Bridge.OperatorJournal
import Youtick.Bridge.OperatorRequests
import Youtick.Bridge.OperatorRuns
import Youtick.Bridge.Playback
import Youtick.Bridge.PlaybackCache
import Youtick.Bridge.PlaybackRuns
import Youtick.Bridge.PlaybackTokens
import Youtick.Bridge.Reconcile
import Youtick.Bridge.ReconcileRuns
import Youtick.Bridge.RecordCapacity
import Youtick.Bridge.RecordCapacityRuns
import Youtick.Bridge.RecordRefusals
import Youtick.Bridge.Renditions
import Youtick.Bridge.SponsorRelay
import Youtick.Bridge.SponsorRelayBooks
import Youtick.Bridge.SponsorRelayRuns
import Youtick.Bridge.StatelessDecisions
import Youtick.Bridge.StatelessPlayback
import Youtick.Bridge.StatelessPrograms
import Youtick.Bridge.StatelessRuns
import Youtick.Bridge.StatelessStaleness
import Youtick.Bridge.StreamKeys
import Youtick.Bridge.StreamRouting
import Youtick.Ckd.Contract
import Youtick.Ckd.KeyRelease
import Youtick.Ckd.NonceBinding
import Youtick.Lib.Base64
import Youtick.Lib.BigEndian
import Youtick.Lib.Custody
import Youtick.Lib.Der
import Youtick.Lib.Enumeration
import Youtick.Lib.Fallible
import Youtick.Lib.Fence
import Youtick.Lib.GapScan
import Youtick.Lib.Gate
import Youtick.Lib.Handlers
import Youtick.Lib.Keys
import Youtick.Lib.Keyset
import Youtick.Lib.Keyspace
import Youtick.Lib.LookupMap
import Youtick.Lib.Obligations
import Youtick.Lib.Outbox
import Youtick.Lib.Panic
import Youtick.Lib.RecencyCache
import Youtick.Lib.Requests
import Youtick.Lib.Since
import Youtick.Lib.Table
import Youtick.Lib.Text
import Youtick.Lib.Trace
import Youtick.MarketV2.Books
import Youtick.MarketV2.Checks
import Youtick.MarketV2.CodeUpgrade
import Youtick.MarketV2.DeviceTerms
import Youtick.MarketV2.Devices
import Youtick.MarketV2.Effects
import Youtick.MarketV2.Escrow
import Youtick.MarketV2.EventKeys
import Youtick.MarketV2.EventLog
import Youtick.MarketV2.Events
import Youtick.MarketV2.Governance
import Youtick.MarketV2.GovernanceEffects
import Youtick.MarketV2.GovernanceLogs
import Youtick.MarketV2.Guards
import Youtick.MarketV2.Host
import Youtick.MarketV2.Ledger
import Youtick.MarketV2.Liabilities
import Youtick.MarketV2.Lifecycle
import Youtick.MarketV2.PublicBeta
import Youtick.MarketV2.PublicUpload
import Youtick.MarketV2.PublicationIndex
import Youtick.MarketV2.Publications
import Youtick.MarketV2.Reopening
import Youtick.MarketV2.RoleSeparation
import Youtick.MarketV2.Runs
import Youtick.MarketV2.SignedMessages
import Youtick.MarketV2.Solvency
import Youtick.MarketV2.StorageKeys
import Youtick.MarketV2.StorageReserve
import Youtick.MarketV2.System
import Youtick.MarketV2.TicketEffects
import Youtick.MarketV2.TicketLogs
import Youtick.MarketV2.TicketRuns
import Youtick.MarketV2.TicketUniqueness
import Youtick.MarketV2.Tickets
import Youtick.MarketV2.Transfer
import Youtick.MarketV2.Types
import Youtick.MarketV2.UploadEffects
import Youtick.MarketV2.UploadLogs
import Youtick.MarketV2.Uploads
import Youtick.MarketV2.WatchedTickets
import Youtick.MarketV2.Withdrawals
import Youtick.NftTicket.Books
import Youtick.NftTicket.Contract
import Youtick.NftTicket.Effects
import Youtick.NftTicket.Governance
import Youtick.NftTicket.Ledger
import Youtick.NftTicket.Payments
import Youtick.NftTicket.Publications
import Youtick.NftTicket.RoleSeparation
import Youtick.NftTicket.Runs
import Youtick.NftTicket.Solvency
import Youtick.NftTicket.System
import Youtick.NftTicket.Uploads
import Youtick.PaymentService.CardChain
import Youtick.PaymentService.CardClosing
import Youtick.PaymentService.CardDeliveries
import Youtick.PaymentService.CardDiscipline
import Youtick.PaymentService.CardEvents
import Youtick.PaymentService.CardInvariant
import Youtick.PaymentService.CardOperator
import Youtick.PaymentService.CardOrders
import Youtick.PaymentService.CardSafety
import Youtick.PaymentService.CardStore
import Youtick.PaymentService.CardSystem
import Youtick.PaymentService.Config
import Youtick.PaymentService.Formats
import Youtick.PaymentService.RefundIntake
import Youtick.PaymentService.Refunds
import Youtick.PaymentService.Vat
import Youtick.ReadModel.Catalog
import Youtick.ReadModel.CatalogApi
import Youtick.ReadModel.CatalogPages
import Youtick.ReadModel.CatalogRuns
import Youtick.ReadModel.Values
import Youtick.Relayer.Agreement
import Youtick.Relayer.CanonicalJson
import Youtick.Relayer.DeviceCheck
import Youtick.Relayer.Json
import Youtick.Relayer.JsonText
import Youtick.Relayer.Market
import Youtick.Relayer.PurchaseCheck
import Youtick.Relayer.UploadCheck
import Youtick.Web.AccessGrants
import Youtick.Web.CardCheckout
import Youtick.Web.DeviceConsent
import Youtick.Web.DeviceLinks
import Youtick.Web.DeviceSession
import Youtick.Web.DeviceSessionRuns
import Youtick.Web.DeviceSessionSafety
import Youtick.Web.DeviceStore
import Youtick.Web.Devices
import Youtick.Web.HlsTimeline
import Youtick.Web.Logout
import Youtick.Web.Messages
import Youtick.Web.PaidDevice
import Youtick.Web.TicketKeys
import Youtick.Web.TicketMessages
import Youtick.Web.TicketRecovery
import Youtick.Web.UploadDraftRuns
import Youtick.Web.UploadDrafts
