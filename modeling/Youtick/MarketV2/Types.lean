import Youtick.Lib.LookupMap
import Youtick.Lib.Panic
import Youtick.Lib.Text

/-!
# Market V2: constants and records

The constants, enumerations and records of `contracts/market-v2/src/lib.rs`, under the source's
names. Fixed-width integers are natural numbers: every arithmetic operation that could leave its
width is checked where it is made, so the width is part of the operation and not of the type.
`AccountId` is its text.

The contract's storage is one record, `Contract`: the Borsh struct together with the raw storage
keys the source keeps next to it. It is assembled from five parts, so that what a method leaves
alone can be said part by part.
-/

set_option autoImplicit false

namespace Youtick.MarketV2

open Youtick.Lib

abbrev AccountId : Type := String

/-! ## Constants -/

def testnetUsdc : AccountId := "3e2210e1184b45b64c8a434c0a7e7b23cc04ea7eb7a6c3c32520d03d4afcb8af"
def mainnetUsdc : AccountId := "17208628f84f5d6ad33f0da3bbbeb27ffcb398eac501a31bd6ad2011e36133a1"
def profile : String := "paid-media-v1"
def paidSourceMaxBytes : Nat := 20000000000
def minTicketPriceUsdc : Nat := 5000000
def platformDivisor : Nat := 20
def maxVatRateBps : Nat := 2700
def maxSignatureTtlMs : Nat := 3600000
def maxRefundSignatureTtlMs : Nat := 7 * 24 * 60 * 60 * 1000
def ticketSignatureDomain : String := "youtick.market-v2.ticket-sig.v1"
def vatDomain : String := "youtick.market-v2.vat.v1"
def buyTicketV2Action : String := "buy_ticket_v2"
def maxTicketDevices : Nat := 3
def escrowReleaseMs : Nat := 30 * 24 * 60 * 60 * 1000
def maxReleaseBatch : Nat := 25
def minUploadFeeUsdc : Nat := 500000
def uploadFeeNumerator : Nat := 3
def uploadFeeDenominator : Nat := 10000
def quoteMaxSourceAgeMs : Nat := 60000
def quoteMaxLifetimeMs : Nat := 120000
def sponsoredUploadDelegateGas : Nat := 100000000000000
def sponsoredUploadFeeUsdc : Nat := 100000
def sponsoredUploadDepositYocto : Nat := 1
def sponsoredUploadMaxBlockWindow : Nat := 200
def marketStateVersion : Nat := 3
def playbackDeviceLifetimeMs : Nat := 30 * 24 * 60 * 60 * 1000
def publicTestnetBetaMaxSourceBytes : Nat := 1000000000
def publicTestnetBetaMaxJobs : Nat := 10
def publicTestnetBetaUploadMs : Nat := 13 * 24 * 60 * 60 * 1000
def publicTestnetBetaTotalMs : Nat := 14 * 24 * 60 * 60 * 1000
def publicTestnetBetaJobTtlMs : Nat := 24 * 60 * 60 * 1000
def publicTestnetBetaStartRunwayBytes : Nat := 100000
def publicTestnetBetaEmergencyRunwayBytes : Nat := 25000
def publicUploadMaxSourceBytes : Nat := 5000000000
def mainnetRoleRotationDelayMs : Nat := 48 * 60 * 60 * 1000
def mainnetBridgeRotationDelayMs : Nat := 48 * 60 * 60 * 1000
def mainnetReopenDelayMs : Nat := 24 * 60 * 60 * 1000
def mainnetCodeUpgradeDelayMs : Nat := 48 * 60 * 60 * 1000
def dayMs : Nat := 24 * 60 * 60 * 1000
def legacyUploadProfileHash : String :=
  "96197f502ab9777df0e1c1360803461c3f7e2809495ad575bfe338bc69f5bf77"
def fullHdUploadProfileHash : String :=
  "a6751ecd819f080430d3bea4cab0d7b906cd729993c925ae16c676433fe65752"
def publicUploadProfileHash : String :=
  "28ba12452dd2cc55e64baf73a3dbf665784eeb8fd87892163818513165bbd3b2"

/-! ## Media jobs and publications -/

inductive FeeAsset where
  | usdc
  | near
  deriving DecidableEq

inductive MediaJobStatus where
  | authorized
  | published
  deriving DecidableEq

inductive PublicationAvailability where
  | active
  | salesSuspended
  | takedown
  deriving DecidableEq

structure MediaJob where
  jobId : String
  creatorId : AccountId
  profileId : String
  profileConfigSha256 : String
  title : String
  priceUsdc : Nat
  expectedSourceBytes : Nat
  generation : Nat
  status : MediaJobStatus
  createdAtMs : Nat
  publishedAtMs : Option Nat
  feeAsset : FeeAsset
  feeAmount : Nat
  feeUsdMicro : Nat
  uploadPublicKey : String
  uploadKeyExpiresAtMs : Nat
  feeQuoteHash : Option String

structure Publication where
  publicationId : String
  creatorId : AccountId
  title : String
  priceUsdc : Nat
  generation : Nat
  expectedSourceBytes : Nat
  profileId : String
  profileConfigSha256 : String
  assetIdHash : String
  playbackId : String
  projectIdHash : String
  verifiedSourceBytes : Nat
  providerSourceFingerprint : Option String
  readyAtMs : Nat
  publishedAvailability : PublicationAvailability
  availability : PublicationAvailability
  publishedAtMs : Nat

structure PublicationSubmission where
  jobId : String
  generation : Nat
  creatorId : AccountId
  expectedSourceBytes : Nat
  profileId : String
  profileConfigSha256 : String
  assetIdHash : String
  playbackId : String
  projectIdHash : String
  verifiedSourceBytes : Nat
  providerSourceFingerprint : Option String
  readyAtMs : Nat
  availability : PublicationAvailability

structure TakedownRecord where
  publicationId : String
  reasonCode : String
  incidentId : String
  evidenceSha256 : String
  effectiveAtMs : Nat
  recordedAtMs : Nat

/-! ## Governance records -/

structure PendingCodeUpgrade where
  codeSha256 : String
  proposedAtMs : Nat
  executableAtMs : Nat
  deriving DecidableEq

inductive GovernanceRole where
  | admin
  | guardian
  | platform
  | takedownAuthority
  | paymentOperator
  deriving DecidableEq

structure PendingRoleRotation where
  role : GovernanceRole
  currentAccountId : AccountId
  nextAccountId : AccountId
  proposedAtMs : Nat
  executableAtMs : Nat

structure StorageReserveStatus where
  storageUsageBytes : Nat
  storageByteCostYocto : Nat
  storageStakeYocto : Nat
  operationalReserveYocto : Nat
  accountBalanceYocto : Nat
  reserveHeadroomYocto : Nat
  reserveRunwayBytes : Nat
  reserveCovered : Bool

structure PublicTestnetBetaState where
  version : Nat
  startedAtMs : Nat
  uploadClosesAtMs : Nat
  endsAtMs : Nat
  closedAtMs : Option Nat
  totalJobCount : Nat

structure PublicTestnetBetaJob where
  creatorId : AccountId
  generation : Nat
  requestSha256 : String
  sponsorQuoteId : String
  admittedAtMs : Nat
  deadlineAtMs : Nat

structure PublicUploadProfile where
  profileId : String
  profileConfigSha256 : String
  deriving DecidableEq

structure PublicUploadPolicy where
  version : Nat
  environment : String
  network : String
  marketContractId : AccountId
  maxSourceBytes : Nat
  jobTtlMs : Nat
  signedQuoteRequired : Bool
  profiles : List PublicUploadProfile

structure PublicUploadCreator where
  day : Nat
  count : Nat
  latestJobId : String

structure MarketInitConfig where
  platformAccountId : AccountId
  bridgeAccountId : AccountId
  takedownAuthorityId : AccountId
  adminAccountId : AccountId
  guardianAccountId : AccountId
  quotePublicKey : Bytes
  quoteKeyVersion : Nat
  nearOperationalReserve : Nat
  taxAccountId : AccountId
  vatPublicKey : String
  vatKeyVersion : Nat
  paymentOperatorId : AccountId

/-! ## Tickets -/

inductive TicketRail where
  | crypto
  | card
  deriving DecidableEq

inductive TicketStatus where
  | purchased
  | watched
  | refunded
  | released
  | voided
  | watchedInEscrow
  deriving DecidableEq

structure TicketDevice where
  sessionPublicKey : String
  certificateSha256 : String
  authorizedAtMs : Nat
  expiresAtMs : Nat
  deriving DecidableEq

structure CardTicketData where
  paymentReferenceHmac : String
  grossMinor : Nat
  currency : String
  deriving DecidableEq

/-- A ticket is keyed by the hash of its public key and never records the buyer. -/
structure Ticket where
  ticketId : String
  ticketPublicKey : String
  publicationId : String
  creatorId : AccountId
  rail : TicketRail
  status : TicketStatus
  grossUsdcMicro : Nat
  vatUsdcMicro : Nat
  platformUsdcMicro : Nat
  creatorUsdcMicro : Nat
  vatKeyVersion : Nat
  purchasedAtMs : Nat
  deviceEpoch : Nat
  devices : List TicketDevice
  card : Option CardTicketData
  deriving DecidableEq

structure SignedTicketDevice where
  sessionPublicKey : String
  certificateSha256 : String
  expiresAtMs : String
  signature : String

structure VatAttestation where
  vatUsdcMicro : String
  expiresAtMs : String
  keyVersion : String
  signature : String

/-- The `device` of a purchase message has the fields of a `SignedTicketDevice`. -/
abbrev TicketDeviceBinding : Type := SignedTicketDevice

structure PurchaseMessageV2 where
  action : String
  publicationId : String
  ticketPublicKey : String
  device : TicketDeviceBinding
  vat : VatAttestation

structure TicketSplit where
  vat : Nat
  platform : Nat
  creator : Nat

/-! ## Uploads -/

structure PlaybackSessionAuthorization where
  sessionPublicKey : String
  certificateSha256 : String
  authorizationDurationMs : Nat

structure PlaybackDevice where
  sessionPublicKey : String
  certificateSha256 : String
  authorizedAtMs : Nat
  expiresAtMs : Nat
  authorizingPublicKey : Option String

structure PaidJobRequest where
  creatorId : AccountId
  jobId : String
  title : String
  priceUsdc : Nat
  expectedSourceBytes : Nat
  profileId : String
  profileConfigSha256 : String
  uploadPublicKey : String
  uploadKeyExpiresAtMs : Nat

structure CreatorFeeQuote where
  domain : String
  version : String
  network : String
  contractId : AccountId
  creatorId : AccountId
  jobId : String
  expectedSourceBytes : Nat
  feeUsdMicro : Nat
  nearUsdMicro : Nat
  feeNearYocto : Nat
  rateSource : String
  rateTimestampMs : Nat
  expiresAtMs : Nat
  quoteKeyVersion : Nat
  quoteId : String

structure SponsoredUploadQuote where
  domain : String
  version : String
  network : String
  contractId : AccountId
  creatorId : AccountId
  jobId : String
  requestSha256 : String
  expectedSourceBytes : Nat
  uploadFeeUsdc : Nat
  sponsorFeeUsdc : Nat
  totalFeeUsdc : Nat
  delegateReceiverId : AccountId
  delegateMethod : String
  delegateGas : Nat
  delegateDepositYocto : Nat
  issuedAtMs : Nat
  quoteBlockHeight : Nat
  maxDelegateBlockHeight : Nat
  expiresAtMs : Nat
  quoteKeyVersion : Nat
  quoteId : String

structure TransferMessage where
  action : Option String
  publicationId : Option String
  jobId : Option String
  title : Option String
  priceUsdc : Option Nat
  expectedSourceBytes : Option Nat
  profileId : Option String
  profileConfigSha256 : Option String
  uploadPublicKey : Option String
  uploadKeyExpiresAtMs : Option Nat
  sponsorQuote : Option SponsoredUploadQuote
  sponsorQuoteSignature : Option Bytes
  playbackSession : Option PlaybackSessionAuthorization

/-- The compact wire form of a sponsored upload, before its checks. -/
structure CompactUpload where
  jobId : String
  title : String
  price : Nat
  sourceBytes : Nat
  profile : Nat
  uploadKey : Bytes
  uploadDuration : Nat
  deviceKey : Bytes
  certificate : Bytes
  deviceDuration : Nat
  issued : Nat
  lifetime : Nat
  block : Nat
  blockWindow : Nat
  keyVersion : Nat
  signature : Bytes

/-! ## Contract storage -/

/-- Who holds which authority, and the rotations under way. The role rotations are raw keys, one
per role. -/
structure Roles where
  platformAccountId : AccountId
  adminAccountId : AccountId
  guardianAccountId : AccountId
  activeBridgeAccountId : AccountId
  pendingBridgeAccountId : Option AccountId
  bridgeRotationProposedAtMs : Option Nat
  takedownAuthorityId : AccountId
  taxAccountId : AccountId
  paymentOperatorId : AccountId
  roleRotations : LookupMap GovernanceRole PendingRoleRotation

/-- The emergency controls and the code upgrade. All but `stateVersion` and `bridgeFrozen` are raw
keys; `newPurchasesPausedRaw` is the stored bytes of its key. -/
structure Controls where
  stateVersion : Nat
  bridgeFrozen : Bool
  newPurchasesPausedRaw : Option Bytes
  bridgeUnfreezeRequest : Option Nat
  newPurchasesUnpauseRequest : Option Nat
  codeUpgrade : Option PendingCodeUpgrade

/-- Media jobs, publications and the collections indexed by them. -/
structure Catalog where
  mediaJobs : LookupMap String MediaJob
  publications : LookupMap String Publication
  assetBindings : LookupMap String String
  playbackBindings : LookupMap String String
  takedowns : LookupMap String TakedownRecord
  publicationIds : LookupMap Nat String
  publicationCount : Nat

/-- Upload admission, quote keys, account playback devices and the NEAR side of upload fees. The
beta, policy and playback-device collections are raw keys; a beta day is keyed by the text
`creator:day`. -/
structure Uploads where
  publicTestnetBeta : Option PublicTestnetBetaState
  publicTestnetBetaJobs : LookupMap String PublicTestnetBetaJob
  publicTestnetBetaDays : LookupMap String String
  publicUploadPolicy : Option PublicUploadPolicy
  publicUploadCreators : LookupMap AccountId PublicUploadCreator
  quotePublicKey : Bytes
  quoteKeyVersion : Nat
  nearOperationalReserve : Nat
  platformNearBalance : Nat
  playbackDevices : LookupMap AccountId (List PlaybackDevice)

/-- Tickets and the USDC liabilities. -/
structure Till where
  tickets : LookupMap String Ticket
  vatKeys : LookupMap Nat Bytes
  cardReferences : LookupSet String
  escrowBalance : Nat
  taxBalance : Nat
  platformBalance : Nat
  creatorBalances : LookupMap AccountId Nat

/-- The contract's whole storage. -/
structure Contract extends Roles, Controls, Catalog, Uploads, Till

end Youtick.MarketV2
