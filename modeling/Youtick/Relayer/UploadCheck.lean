import Youtick.Relayer.PurchaseCheck

/-!
# Relayer: the upload check and the contract

An accepted upload message reaches the paid-job branch of `ft_on_transfer`, and every check there
goes through. What the relayer does not rule out is a title with a lone surrogate, which the contract's
JSON reader rejects, a price beyond 128 bits, and a full fee counter: without these (`UploadFits`) the
contract creates the job (`upload_paid_iff`).
-/

set_option autoImplicit false

namespace Youtick.Relayer

open Youtick.Lib Youtick.MarketV2 Youtick.PaymentService

/-! ## The message on both sides -/

/-- The contract's record of an upload: every string a text, and the wide integers in range. -/
def UploadMessage.transfer? (upload : UploadMessage) : Option TransferMessage := do
  let jobId ← upload.jobId.text?
  let title ← upload.title.text?
  let priceUsdc ← upload.priceUsdc.text?.bind (parseUnsigned 128)
  let expectedSourceBytes ← upload.expectedSourceBytes.text?.bind (parseUnsigned 128)
  let profileId ← upload.profileId.text?
  let profileConfigSha256 ← upload.profileConfigSha256.text?
  let uploadPublicKey ← upload.uploadPublicKey.text?
  let uploadKeyExpiresAtMs ← upload.uploadKeyExpiresAtMs.text?.bind (parseUnsigned 64)
  return {
    action := some "create_paid_job"
    publicationId := none
    jobId := some jobId
    title := some title
    priceUsdc := some priceUsdc
    expectedSourceBytes := some expectedSourceBytes
    profileId := some profileId
    profileConfigSha256 := some profileConfigSha256
    uploadPublicKey := some uploadPublicKey
    uploadKeyExpiresAtMs := some uploadKeyExpiresAtMs
    sponsorQuote := none
    sponsorQuoteSignature := none
    playbackSession := none }

/-- The contract's JSON reader takes the compact text of an upload object as the record of its
properties, and rejects it when there is none. -/
structure ReadsUpload (platform : Platform) (host : Host) (msg : String) : Prop where
  probe : ∀ action, platform.jsonParse msg ≠ none → host.actionProbeOfJson msg = some action →
    action = some "create_paid_job"
  transfer : ∀ value upload, platform.jsonParse msg = some value → value.stringify = msg →
    uploadOf value = some upload → host.transferMessageOfJson msg = upload.transfer?

/-- Texts that base58 decodes to 32 bytes. -/
def Base58Texts (host : Host) : Prop :=
  ∀ text key, host.bs58Decode text = some key → key.length = 32 →
    32 ≤ text.toList.length ∧ text.toList.length ≤ 44 ∧ text.toList.all isBase58Char = true

/-! ## What the contract asks of the fields -/

theorem isWhiteSpace_of_not_isControl {point : CodePoint} {c : Char} (h : point = .scalar c)
    (hspace : point.isSpace = false) (hcontrol : point.isControl = false) :
    isWhiteSpace c = false := by
  subst h
  cases hwhite : isWhiteSpace c with
  | false => rfl
  | true =>
    -- The one white space character the language does not trim is a control character.
    have hnext : c.toNat = 0x85 := by
      by_contra hne
      simp [CodePoint.isSpace, PaymentService.isSpace, hwhite, hne] at hspace
    simp [CodePoint.isControl, hnext] at hcontrol

/-- A title that passes the relayer and is a text passes the contract. -/
theorem assertTitle_of_checked {title : JsString} {text : String} (htext : title.text? = some text)
    (hblank : title.isBlank = false) (hlength : title.byteLength ≤ maxTitleBytes)
    (hcontrol : title.hasControl = false) : assertTitle text = .ok ⟨⟩ := by
  obtain rfl := JsString.text?_eq_some.mp htext
  have hpoints : (JsString.ofString text).points = text.toList.map .scalar := rfl
  rw [assertTitle, require_eq_ok]
  constructor
  · rw [JsString.isBlank, hpoints, List.all_eq_false] at hblank
    obtain ⟨point, hpoint, hspace⟩ := hblank
    obtain ⟨c, hc, rfl⟩ := List.mem_map.mp hpoint
    rw [isBlank, List.all_eq_false]
    refine ⟨c, hc, ?_⟩
    rw [JsString.hasControl, hpoints, List.any_eq_false] at hcontrol
    rw [isWhiteSpace_of_not_isControl rfl (Bool.eq_false_iff.mpr hspace)
      (Bool.eq_false_iff.mpr (hcontrol _ hpoint))]
    decide
  · rw [utf8ByteSize_eq]
    rw [JsString.byteLength, hpoints, List.map_map] at hlength
    exact hlength

theorem isAscii_of_isBase58Char {c : Char} (h : isBase58Char c = true) : c.toNat < 128 := by
  simp only [isBase58Char, Bool.or_eq_true, Bool.and_eq_true, decide_eq_true_eq] at h
  rcases h with ((((⟨-, h⟩ | ⟨-, h⟩) | ⟨-, h⟩) | ⟨-, h⟩) | ⟨-, h⟩) | ⟨-, h⟩
  all_goals exact (toNat_lt_of_le h).trans_lt (by decide)

/-- The characters of a text with the key prefix. -/
theorem toList_of_stripPrefix {value encoded : String}
    (h : stripPrefix value "ed25519:" = some encoded) :
    value.toList = "ed25519:".toList ++ encoded.toList := by
  unfold stripPrefix at h
  obtain ⟨hhead, hrest⟩ := Option.ite_none_right_eq_some.mp h
  obtain rfl := Option.some.inj hrest
  rw [String.toList_ofList (l := value.toList.drop _)]
  exact (List.prefix_iff_eq_append.mp (List.isPrefixOf_iff_prefix.mp hhead)).symm

theorem assertUploadKey_of_parsed {env : MarketV2.Env} (hbase58 : Base58Texts env.toHost)
    {value : String} {key : Bytes} {expiresAtMs : Nat}
    (hkey : parseEd25519Key env.toHost value = .ok key)
    (hlive : env.blockTimestampMs < expiresAtMs) :
    assertUploadKey env value expiresAtMs = .ok ⟨⟩ := by
  simp only [parseEd25519Key, bind_eq_ok, expect_eq_ok, require_eq_ok, pure_eq_ok] at hkey
  obtain ⟨encoded, hhead, _, hdecode, _, hlength, _, -, rfl⟩ := hkey
  obtain ⟨hlow, hhigh, hchars⟩ := hbase58 _ _ hdecode hlength
  have hvalue := toList_of_stripPrefix hhead
  have hdrop : value.toList.drop 8 = encoded.toList := by
    rw [hvalue]
    rfl
  have hsize : value.utf8ByteSize = 8 + encoded.toList.length := by
    rw [utf8ByteSize_of_ascii, hvalue, List.length_append]
    · rfl
    · intro c hc
      have hlabel : "ed25519:".toList.all (fun c => decide (c.toNat < 128)) = true := by
        decide +kernel
      rw [hvalue] at hc
      rcases List.mem_append.mp hc with hc | hc
      · exact of_decide_eq_true (List.all_eq_true.mp hlabel c hc)
      · exact isAscii_of_isBase58Char (List.all_eq_true.mp hchars c hc)
  simp only [assertUploadKey, bind_eq_ok, require_eq_ok]
  refine ⟨⟨⟩, ⟨?_, by omega, by omega, ?_⟩, hlive⟩
  · rw [startsWith, hvalue, List.isPrefixOf_iff_prefix]
    exact List.prefix_append _ _
  · rw [hdrop]
    exact hchars

theorem divCeil_uploadFee (n : Nat) :
    divCeil n MarketV2.uploadFeeDenominator =
      (n + uploadFeeDenominator - 1) / uploadFeeDenominator := by
  show n / 10000 + (if n % 10000 ≠ 0 then 1 else 0) = (n + 10000 - 1) / 10000
  by_cases hrest : n % 10000 ≠ 0
  · rw [if_pos hrest]
    omega
  · rw [if_neg hrest]
    omega

/-- The relayer's fee is the contract's. -/
theorem uploadFeeUsdc_of_text {text : String} (hlow : ¬ digitsValue text.toList < 1)
    (hhigh : ¬ digitsValue text.toList > maxSourceBytes) {fee : Nat}
    (hfee : decimal fee = uploadFeeUsdcMicro text) :
    uploadFeeUsdc (digitsValue text.toList) = .ok fee := by
  have hexact := decimal_injective hfee
  generalize digitsValue text.toList = bytes at hexact hlow hhigh ⊢
  simp only [maxSourceBytes] at hhigh
  simp only [uploadFeeUsdc, assertSourceBytes, bind_eq_ok, require_eq_ok, checkedMul_eq_ok,
    pure_eq_ok]
  refine ⟨⟨⟩, ⟨by omega, by simp only [paidSourceMaxBytes]; omega⟩, _, ⟨?_, rfl⟩, ?_⟩
  · have hmax : maxOf 128 = 340282366920938463463374607431768211455 := rfl
    simp only [MarketV2.uploadFeeNumerator]
    omega
  · rw [hexact, divCeil_uploadFee]
    show max _ uploadFeeMinimum = _
    split
    · next habove => exact max_eq_left habove.le
    · next hbelow => exact max_eq_right (Nat.not_lt.mp hbelow)

/-- What the relayer's expiry check of an upload key guarantees. -/
theorem futureMs_ok {value code : String} {now : Nat} {r : PUnit.{1}} (hnow : now ≤ maxTimeMs)
    (h : futureMs value now code = .ok r) : isDecimal 38 value = true ∧
      now < digitsValue value.toList ∧ digitsValue value.toList ≤ maxSafeInteger := by
  simp only [maxTimeMs] at hnow
  simp only [futureMs, bind_eq_ok, require_eq_ok] at h
  obtain ⟨_, hdecimal, _, hsafe, hlive⟩ := h
  simp only [number, maxSafeInteger, expiryMarginMs] at hsafe hlive ⊢
  have hexact : toDouble (digitsValue value.toList) = digitsValue value.toList :=
    toDouble_eq_of_lt (by omega)
  rw [hexact, toDouble_of_lt (by omega)] at hlive
  rw [hexact] at hsafe
  exact ⟨hdecimal, by omega, hsafe⟩

theorem parseUnsigned_lt {w v : Nat} {text : String} (h : parseUnsigned w text = some v) :
    v < 2 ^ w := by
  unfold parseUnsigned at h
  obtain ⟨hdigits, hv⟩ := Option.ite_none_right_eq_some.mp h
  rw [← Option.some.inj hv]
  exact hdigits.2.2

/-- The width bounds the value, and does not change it. -/
theorem parseUnsigned_unique {w w' v v' : Nat} {text : String} (h : parseUnsigned w text = some v)
    (h' : parseUnsigned w' text = some v') : v = v' := by
  unfold parseUnsigned at h h'
  obtain ⟨-, hv⟩ := Option.ite_none_right_eq_some.mp h
  obtain ⟨-, hv'⟩ := Option.ite_none_right_eq_some.mp h'
  exact Option.some.inj (hv.symm.trans hv')

theorem parseUnsigned_eq_some {n w v : Nat} {text : String} (h : isDecimal n text = true) :
    parseUnsigned w text = some v ↔
      digitsValue text.toList = v ∧ digitsValue text.toList ≤ maxOf w := by
  have hvalue {w : Nat} (hrange : digitsValue text.toList < 2 ^ w) :
      parseUnsigned w text = some (digitsValue text.toList) := by
    have hparse := parseUnsigned_decimal hrange
    rwa [decimal_of_isDecimal h] at hparse
  have hpos := Nat.two_pow_pos w
  constructor
  · intro hparse
    obtain rfl := parseUnsigned_unique (hvalue Nat.lt_two_pow_self) hparse
    exact ⟨rfl, Nat.le_sub_one_of_lt (parseUnsigned_lt hparse)⟩
  · rintro ⟨rfl, hle⟩
    apply hvalue
    rw [maxOf] at hle
    omega

/-! ## The paid job -/

/-- The contract creates the job with the fee and gives nothing back. -/
def Pays (env : MarketV2.Env) (s : Contract) (senderId : AccountId) (fee : Nat)
    (msg jobId : String) : Prop :=
  ∃ o job, ftOnTransfer env s senderId fee msg = .ok o ∧ o.value = 0 ∧
    s.mediaJobs.get jobId = none ∧ o.state.mediaJobs.get jobId = some job ∧
    job.creatorId = senderId ∧ job.feeAmount = fee

/-- The conditions the relayer does not check: the title is a text, the price and the fee counter
stay within 128 bits. -/
structure UploadFits (s : Contract) (upload : UploadMessage) (fee : Nat) : Prop where
  title : upload.title.text?.isSome = true
  price : ∀ text, upload.priceUsdc.text? = some text → digitsValue text.toList ≤ maxOf 128
  balance : s.platformBalance + fee ≤ maxOf 128

section Upload

variable {platform : Platform} {env : MarketV2.Env} {s : Contract} {fee : Nat}

/-- The request of an accepted upload passes the contract's checks. -/
structure Admissible (env : MarketV2.Env) (s : Contract) (fee : Nat) (request : PaidJobRequest) :
    Prop where
  checked : assertPaidJobRequest env request = .ok ⟨⟩
  fee : uploadFeeUsdc request.expectedSourceBytes = .ok fee
  notPaused : newPurchasesPaused s = false
  beta : s.publicTestnetBeta = none
  policy : s.publicUploadPolicy = none
  fresh : s.mediaJobs.get request.jobId = none

/-- The message of a request, without a quote or a playback session. -/
def messageOf (request : PaidJobRequest) : TransferMessage where
  action := some "create_paid_job"
  publicationId := none
  jobId := some request.jobId
  title := some request.title
  priceUsdc := some request.priceUsdc
  expectedSourceBytes := some request.expectedSourceBytes
  profileId := some request.profileId
  profileConfigSha256 := some request.profileConfigSha256
  uploadPublicKey := some request.uploadPublicKey
  uploadKeyExpiresAtMs := some request.uploadKeyExpiresAtMs
  sponsorQuote := none
  sponsorQuoteSignature := none
  playbackSession := none

/-- Without a beta or an upload policy, the contract takes the fee of an admissible request exactly
when its counter has room. -/
theorem payForJob_pays_iff (husdc : usdcContractId env = .ok env.predecessorAccountId)
    {request : PaidJobRequest} (h : Admissible env s fee request) :
    (∃ o job, payForJob env s request.creatorId fee (messageOf request) = .ok o ∧ o.value = 0 ∧
      s.mediaJobs.get request.jobId = none ∧ o.state.mediaJobs.get request.jobId = some job ∧
      job.creatorId = request.creatorId ∧ job.feeAmount = fee) ↔
        s.platformBalance + fee ≤ maxOf 128 := by
  have hrequest : paidJobRequestOf (messageOf request) request.creatorId = .ok (request, fee) := by
    simp only [paidJobRequestOf, messageOf, expect, ok_bind, bind_eq_ok, require_eq_ok, pure_eq_ok]
    exact ⟨⟨⟩, trivial, fee, h.fee, rfl⟩
  have hcreate : createUsdcPaidJob env s request fee none = .ok {
      state := { s with
        mediaJobs := s.mediaJobs.insert request.jobId (authorizedJob env request .usdc fee fee none) }
      value := authorizedJob env request .usdc fee fee none
      events := [mediaJobAuthorizedEvent env (authorizedJob env request .usdc fee fee none)] } := by
    simp only [createUsdcPaidJob, bind_eq_ok, require_eq_ok, pure_eq_ok]
    exact ⟨_, husdc, ⟨⟩, rfl, ⟨⟩, h.notPaused, ⟨⟩, h.checked, ⟨⟩, h.fresh, rfl⟩
  have hallowed : admitJob env s request none = .ok s := by
    simp [admitJob, h.policy, h.beta]
  have hpay : payForJob env s request.creatorId fee (messageOf request) =
      acceptPaidJob env s request.creatorId fee request none fee none := by
    rw [payForJob, hrequest, ok_bind]
    simp [sponsorQuoteOf, messageOf, ok_bind, h.beta, h.policy, require, h.fresh, h.notPaused]
  rw [hpay]
  simp only [acceptPaidJob, hallowed, ok_bind, Option.map_none, hcreate, bind_eq_ok, checkedAdd_eq_ok,
    authorizePlaybackDevice, checkWhen_eq_ok, pure_eq_ok]
  constructor
  · rintro ⟨o, job, ⟨_, ⟨hbalance, -⟩, -⟩, -⟩
    exact hbalance
  · intro hbalance
    refine ⟨_, _, ⟨_, ⟨hbalance, rfl⟩, ⟨⟩, ?_, rfl⟩, rfl, h.fresh, LookupMap.get_insert_self _ _ _,
      rfl, rfl⟩
    rintro (hbeta | hpolicy)
    · exact absurd h.beta hbeta
    · exact absurd h.policy hpolicy

/-- The texts of an accepted upload; its title need not be one. -/
structure UploadTexts (upload : UploadMessage) where
  jobId : String
  priceUsdc : String
  expectedSourceBytes : String
  profileConfigSha256 : String
  uploadPublicKey : String
  uploadKeyExpiresAtMs : String
  jobId_eq : upload.jobId.text? = some jobId
  priceUsdc_eq : upload.priceUsdc.text? = some priceUsdc
  expectedSourceBytes_eq : upload.expectedSourceBytes.text? = some expectedSourceBytes
  profileId_eq : upload.profileId.text? = some uploadProfileId
  profileConfigSha256_eq : upload.profileConfigSha256.text? = some profileConfigSha256
  uploadPublicKey_eq : upload.uploadPublicKey.text? = some uploadPublicKey
  uploadKeyExpiresAtMs_eq : upload.uploadKeyExpiresAtMs.text? = some uploadKeyExpiresAtMs

namespace UploadTexts

variable {upload : UploadMessage}

/-- The request of an upload with the title `title`. -/
def request (texts : UploadTexts upload) (senderId : AccountId) (title : String) :
    PaidJobRequest where
  creatorId := senderId
  jobId := texts.jobId
  title := title
  priceUsdc := digitsValue texts.priceUsdc.toList
  expectedSourceBytes := digitsValue texts.expectedSourceBytes.toList
  profileId := uploadProfileId
  profileConfigSha256 := texts.profileConfigSha256
  uploadPublicKey := texts.uploadPublicKey
  uploadKeyExpiresAtMs := digitsValue texts.uploadKeyExpiresAtMs.toList

end UploadTexts

/-- What the relayer accepts is admissible under every title it may be, and the contract reads it as
that request exactly when the title is a text and the price fits. -/
theorem checkUploadMessage_ok (hrelays : Relays platform env s)
    (hbase58 : Base58Texts env.toHost) {msg : String} (hreads : ReadsUpload platform env.toHost msg)
    {senderId jobId : String} {allowlist : ProfileHashAllowlist}
    (h : checkUploadMessage platform (marketView env s) ⟨env.currentAccountId, senderId, decimal fee,
      msg, env.blockTimestampMs, allowlist⟩ = .ok jobId) :
    ∃ (upload : UploadMessage) (texts : UploadTexts upload),
      parseUploadMessage platform msg = .ok upload ∧ texts.jobId = jobId ∧
      startsWith msg "yt:u1:" = false ∧
      (∀ action, env.actionProbeOfJson msg = some action → action = some "create_paid_job") ∧
      (∀ title, upload.title.text? = some title →
        Admissible env s fee (texts.request senderId title)) ∧
      ∀ message, env.transferMessageOfJson msg = some message ↔
        ∃ title, upload.title.text? = some title ∧
          digitsValue texts.priceUsdc.toList ≤ maxOf 128 ∧
            message = messageOf (texts.request senderId title) := by
  simp only [checkUploadMessage, checkUpload, parseUploadMessage, marketView, bind_eq_ok, expect_eq_ok,
    require_eq_ok, ok_eq_ok, matching_eq_ok, ed25519Key_eq_ok hrelays.agrees] at h
  obtain ⟨_, -, upload, ⟨value, hvalue, _, htext, hupload⟩, jobId', ⟨hjobId, hidentifier⟩, _,
    ⟨hblank, hlength, hcontrol⟩, priceUsdc, ⟨hpriceUsdc, hprice⟩, _, hminimum,
    expectedSourceBytes, ⟨hexpectedSourceBytes, hbytes⟩, _, ⟨hlow, hhigh⟩, _, hprofileId,
    profileConfigSha256, ⟨hprofileConfigSha256, hhex⟩, _, -, uploadPublicKey, huploadPublicKey,
    uploadKey, huploadKey, uploadKeyExpiresAtMs, huploadKeyExpiresAtMs, _, hfuture, _, hfee, _, rfl,
    _, rfl, _, rfl, _, rfl, _, hpaused, _, ⟨hbeta, hpolicy⟩, h⟩ := h
  cases hjob : s.mediaJobs.get jobId' with
  | some job =>
    rw [hjob] at h
    cases h
  | none =>
    rw [hjob] at h
    obtain rfl := pure_eq_ok.mp h
    obtain ⟨hdecimal, hlive, hsafe⟩ := futureMs_ok hrelays.now hfuture
    obtain ⟨fields, hfields⟩ : ∃ fields, value.fields? = some fields := by
      rw [uploadOf, Option.bind_eq_bind, Option.bind_eq_some_iff] at hupload
      exact ⟨_, hupload.choose_spec.1⟩
    have hprofileText : upload.profileId.text? = some uploadProfileId := by
      rw [hprofileId, JsString.text?_ofString]
    refine ⟨upload, ⟨jobId', priceUsdc, expectedSourceBytes, profileConfigSha256, uploadPublicKey,
      uploadKeyExpiresAtMs, hjobId, hpriceUsdc, hexpectedSourceBytes, hprofileText,
      hprofileConfigSha256, huploadPublicKey, huploadKeyExpiresAtMs⟩, ?_, rfl, ?_, ?_, ?_, ?_⟩
    · simp only [parseUploadMessage, bind_eq_ok, expect_eq_ok, require_eq_ok]
      exact ⟨value, hvalue, ⟨⟩, htext, hupload⟩
    · rw [← htext]
      exact stringify_not_compact _ hfields
    · intro action haction
      exact hreads.probe action (by rw [hvalue]; exact Option.some_ne_none value) haction
    · intro title htitle
      constructor
      · have hchecks : assertProfile uploadProfileId profileConfigSha256 = .ok ⟨⟩ := by
          simp only [assertProfile, bind_eq_ok, require_eq_ok]
          exact ⟨⟨⟩, rfl, assertSha256_of_isHexText hhex⟩
        have hsource : assertSourceBytes (digitsValue expectedSourceBytes.toList) = .ok ⟨⟩ := by
          rw [assertSourceBytes, require_eq_ok]
          exact ⟨Nat.not_lt.mp hlow, Nat.not_lt.mp hhigh⟩
        simp only [assertPaidJobRequest, UploadTexts.request, bind_eq_ok]
        exact ⟨⟨⟩, assertIdentifier_of_isIdentifier hidentifier, ⟨⟩,
          assertTitle_of_checked htitle hblank (Nat.not_lt.mp hlength) hcontrol, ⟨⟩, hsource, ⟨⟩,
          hchecks, ⟨⟩, assertUploadKey_of_parsed hbase58 huploadKey hlive,
          require_eq_ok.mpr (Nat.not_lt.mp hminimum)⟩
      · exact uploadFeeUsdc_of_text hlow hhigh hfee
      · exact hpaused
      · rw [Option.isNone_map, Option.isNone_iff_eq_none] at hbeta
        exact hbeta
      · exact Option.not_isSome_iff_eq_none.mp (Bool.eq_false_iff.mp hpolicy)
      · exact hjob
    · intro message
      have hsourceRange : digitsValue expectedSourceBytes.toList ≤ maxOf 128 := by
        refine (Nat.not_lt.mp hhigh).trans ?_
        decide
      have hexpiryRange : digitsValue uploadKeyExpiresAtMs.toList ≤ maxOf 64 :=
        hsafe.trans (by decide)
      rw [hreads.transfer value upload hvalue htext hupload]
      simp only [UploadMessage.transfer?, hjobId, hpriceUsdc, hexpectedSourceBytes, hprofileText,
        hprofileConfigSha256, huploadPublicKey, huploadKeyExpiresAtMs, Option.bind_some,
        Option.bind_eq_bind, Option.bind_eq_some_iff, parseUnsigned_eq_some hprice,
        parseUnsigned_eq_some hbytes, parseUnsigned_eq_some hdecimal]
      constructor
      · rintro ⟨title, htitle, _, ⟨rfl, hpriceRange⟩, _, ⟨rfl, -⟩, _, ⟨rfl, -⟩, hmessage⟩
        exact ⟨title, htitle, hpriceRange, (Option.some.inj hmessage).symm⟩
      · rintro ⟨title, htitle, hpriceRange, rfl⟩
        exact ⟨title, htitle, _, ⟨rfl, hpriceRange⟩, _, ⟨rfl, hsourceRange⟩, _,
          ⟨rfl, hexpiryRange⟩, rfl⟩

/-- What the relayer accepts the contract turns into a paid job exactly when the title is a text, the
price is a 128-bit number and the fee counter has room. -/
theorem upload_paid_iff (hrelays : Relays platform env s) (hbase58 : Base58Texts env.toHost)
    {msg : String} (hreads : ReadsUpload platform env.toHost msg) {senderId jobId : String}
    {allowlist : ProfileHashAllowlist}
    (h : checkUploadMessage platform (marketView env s) ⟨env.currentAccountId, senderId, decimal fee,
      msg, env.blockTimestampMs, allowlist⟩ = .ok jobId) :
    ∃ upload, parseUploadMessage platform msg = .ok upload ∧
      (Pays env s senderId fee msg jobId ↔ UploadFits s upload fee) := by
  obtain ⟨upload, texts, hparse, hjobId, hcompact, hprobe, hadmissible, htransfer⟩ :=
    checkUploadMessage_ok hrelays hbase58 hreads h
  subst hjobId
  have haction : transferAction env.toHost msg ≠ some buyTicketV2Action := by
    intro hbuy
    obtain ⟨action, hread, haction⟩ := Option.bind_eq_some_iff.mp hbuy
    rw [hprobe action hread] at haction
    exact absurd haction (by decide)
  have hcall (o : Outcome Nat) : ftOnTransfer env s senderId fee msg = .ok o ↔
      ∃ title, upload.title.text? = some title ∧ digitsValue texts.priceUsdc.toList ≤ maxOf 128 ∧
        payForJob env s senderId fee (messageOf (texts.request senderId title)) = .ok o := by
    simp only [ftOnTransfer, hrelays.usdc, ok_bind, hcompact, haction, and_false, if_false,
      Bool.false_eq_true, bind_eq_ok, require_eq_ok, expect_eq_ok, htransfer]
    constructor
    · rintro ⟨_, -, _, ⟨title, htitle, hprice, rfl⟩, _, -, hpay⟩
      exact ⟨title, htitle, hprice, hpay⟩
    · rintro ⟨title, htitle, hprice, hpay⟩
      exact ⟨⟨⟩, trivial, _, ⟨title, htitle, hprice, rfl⟩, ⟨⟩, rfl, hpay⟩
  refine ⟨upload, hparse, ?_⟩
  constructor
  · rintro ⟨o, job, ho, hpaid⟩
    obtain ⟨title, htitle, hprice, hpay⟩ := (hcall o).mp ho
    refine ⟨Option.isSome_iff_exists.mpr ⟨title, htitle⟩, ?_, ?_⟩
    · intro text htext
      obtain rfl := Option.some.inj (texts.priceUsdc_eq.symm.trans htext)
      exact hprice
    · exact (payForJob_pays_iff hrelays.usdc (hadmissible title htitle)).mp ⟨o, job, hpay, hpaid⟩
  · intro hfits
    obtain ⟨title, htitle⟩ := Option.isSome_iff_exists.mp hfits.title
    obtain ⟨o, job, hpay, hpaid⟩ :=
      (payForJob_pays_iff hrelays.usdc (hadmissible title htitle)).mpr hfits.balance
    exact ⟨o, job, (hcall o).mpr ⟨title, htitle, hfits.price _ texts.priceUsdc_eq, hpay⟩, hpaid⟩

end Upload

deriving instance DecidableEq for UploadMessage

namespace Vectors

open MarketV2.Vectors (contractId publicationId issuedAtMs creatorId)

def uploadExpiresAtMs : String := "1791446400000"

/-- 39 digits, more than a 128-bit number holds. -/
def widePrice : String := "999999999999999999999999999999999999999"

/-- An upload at `price` as the web application writes it. -/
def uploadValue (price : String) : JsValue :=
  object
    [("action", text "create_paid_job"),
     ("job_id", text publicationId),
     ("title", text "Opening night"),
     ("price_usdc", text price),
     ("expected_source_bytes", text "734003200"),
     ("profile_id", text uploadProfileId),
     ("profile_config_sha256", text legacyUploadProfileHash),
     ("upload_public_key", text MarketV2.Vectors.firstSession.text),
     ("upload_key_expires_at_ms", text uploadExpiresAtMs)]

def uploadMessage (price : String) : UploadMessage where
  jobId := .ofString publicationId
  title := .ofString "Opening night"
  priceUsdc := .ofString price
  expectedSourceBytes := .ofString "734003200"
  profileId := .ofString uploadProfileId
  profileConfigSha256 := .ofString legacyUploadProfileHash
  uploadPublicKey := .ofString MarketV2.Vectors.firstSession.text
  uploadKeyExpiresAtMs := .ofString uploadExpiresAtMs

/-- The host reads every text as the upload at `price`. -/
def uploadHost (price : String) : Host :=
  { MarketV2.Vectors.host with
    base64Decode := Base64.standardDecode
    actionProbeOfJson := fun _ => some (some "create_paid_job")
    transferMessageOfJson := fun _ => (uploadMessage price).transfer? }

def uploadPlatform (price : String) : Platform :=
  { platform with jsonParse := fun _ => some (uploadValue price) }

def uploadText (price : String) : String := (uploadValue price).stringify

def uploadInput (price : String) : UploadInput :=
  ⟨contractId, creatorId, decimal 500000, uploadText price, issuedAtMs, .unset⟩

theorem parseUploadMessage_text {price : String}
    (h : uploadOf (uploadValue price) = some (uploadMessage price)) :
    parseUploadMessage (uploadPlatform price) (uploadText price) = .ok (uploadMessage price) := by
  simp only [parseUploadMessage, bind_eq_ok, expect_eq_ok, require_eq_ok]
  exact ⟨uploadValue price, rfl, ⟨⟩, rfl, h⟩

theorem readsUpload {price : String}
    (h : uploadOf (uploadValue price) = some (uploadMessage price)) :
    ReadsUpload (uploadPlatform price) (uploadHost price) (uploadText price) where
  probe action _ haction := (Option.some.inj haction).symm
  transfer value upload hvalue _ hupload := by
    obtain rfl : uploadValue price = value := Option.some.inj hvalue
    obtain rfl := Option.some.inj (h.symm.trans hupload)
    rfl

theorem base58Texts (price : String) : Base58Texts (uploadHost price) := by
  intro text key hdecode _
  obtain ⟨found, hfound, -⟩ := Option.map_eq_some_iff.mp hdecode
  have hbase58 : found.base58 = text := by simpa using List.find?_some hfound
  subst hbase58
  have htexts : ∀ key ∈ MarketV2.Vectors.keys, 32 ≤ key.base58.toList.length ∧
      key.base58.toList.length ≤ 44 ∧ key.base58.toList.all isBase58Char = true := by
    decide +kernel
  exact htexts found (List.mem_of_find?_eq_some hfound)

theorem uploadRelays (price : String) {s : Contract} (runway : Nat)
    (h : vatKeysDecode s = true) : Relays (uploadPlatform price) ⟨uploadHost price, transfer runway⟩ s :=
  ⟨⟨rfl, rfl, rfl, rfl, fun _ _ _ _ _ => rfl⟩, (relays runway h).vatKeys,
    (relays runway h).usdc, (relays runway h).now⟩

theorem checkUploadMessage_text {price : String} {s : Contract} {runway : Nat} {jobId : String}
    (hprice : uploadOf (uploadValue price) = some (uploadMessage price))
    (h : (checkUpload (uploadPlatform price) (marketView ⟨uploadHost price, transfer runway⟩ s)
      (uploadInput price) (uploadMessage price)).toOption = some jobId) :
    checkUploadMessage (uploadPlatform price) (marketView ⟨uploadHost price, transfer runway⟩ s)
      (uploadInput price) = .ok jobId := by
  simp only [checkUploadMessage, bind_eq_ok, require_eq_ok]
  exact ⟨⟨⟩, rfl, uploadMessage price, parseUploadMessage_text hprice, eq_ok_of_toOption h⟩

end Vectors

/-- A price of 39 digits passes the relayer and is no 128-bit number for the contract. -/
theorem upload_wasted :
    ∃ w₀ w, Initial (Vectors.uploadHost Vectors.widePrice) w₀ ∧
      Reachable (worldStep (Vectors.uploadHost Vectors.widePrice)) w₀ w ∧
      Relays (Vectors.uploadPlatform Vectors.widePrice)
        ⟨Vectors.uploadHost Vectors.widePrice, Vectors.transfer 26000⟩ w.contract ∧
      Base58Texts (Vectors.uploadHost Vectors.widePrice) ∧
      ReadsUpload (Vectors.uploadPlatform Vectors.widePrice) (Vectors.uploadHost Vectors.widePrice)
        (Vectors.uploadText Vectors.widePrice) ∧
      checkUploadMessage (Vectors.uploadPlatform Vectors.widePrice)
        (marketView ⟨Vectors.uploadHost Vectors.widePrice, Vectors.transfer 26000⟩ w.contract)
        (Vectors.uploadInput Vectors.widePrice) = .ok MarketV2.Vectors.publicationId ∧
      ¬ Pays ⟨Vectors.uploadHost Vectors.widePrice, Vectors.transfer 26000⟩ w.contract
        MarketV2.Vectors.creatorId 500000 (Vectors.uploadText Vectors.widePrice)
        MarketV2.Vectors.publicationId := by
  have hprice : uploadOf (Vectors.uploadValue Vectors.widePrice) =
      some (Vectors.uploadMessage Vectors.widePrice) := by
    decide +kernel
  have hrun : (MarketV2.Vectors.worldRun (Vectors.uploadHost Vectors.widePrice) []).map (fun r =>
      (Vectors.vatKeysDecode r.2.contract,
        (checkUpload (Vectors.uploadPlatform Vectors.widePrice)
          (marketView ⟨Vectors.uploadHost Vectors.widePrice, Vectors.transfer 26000⟩ r.2.contract)
          (Vectors.uploadInput Vectors.widePrice)
          (Vectors.uploadMessage Vectors.widePrice)).toOption)) =
      some (true, some MarketV2.Vectors.publicationId) := by
    decide +kernel
  obtain ⟨w₀, tr, w, h₀, h, hfacts⟩ := MarketV2.Vectors.trace_of_worldRun hrun
  simp only [Prod.mk.injEq] at hfacts
  obtain ⟨hkeys, hchecked⟩ := hfacts
  have hrelays := Vectors.uploadRelays Vectors.widePrice 26000 hkeys
  refine ⟨w₀, w, h₀, ⟨tr, h⟩, hrelays, Vectors.base58Texts _, Vectors.readsUpload hprice,
    Vectors.checkUploadMessage_text hprice hchecked, ?_⟩
  rintro ⟨o, job, ho, -⟩
  have hnone : (Vectors.uploadMessage Vectors.widePrice).transfer?.isNone = true := by
    decide +kernel
  have hread : (Vectors.uploadHost Vectors.widePrice).transferMessageOfJson
      (Vectors.uploadText Vectors.widePrice) = none := Option.isNone_iff_eq_none.mp hnone
  have hcompact : startsWith (Vectors.uploadText Vectors.widePrice) "yt:u1:" = false :=
    stringify_not_compact (Vectors.uploadValue Vectors.widePrice) rfl
  have haction : transferAction (Vectors.uploadHost Vectors.widePrice)
      (Vectors.uploadText Vectors.widePrice) = some "create_paid_job" := rfl
  have hbuy : ¬ ("create_paid_job" : String) = buyTicketV2Action := by decide
  simp only [ftOnTransfer, hcompact, haction, Option.some.injEq, hbuy, and_false, if_false,
    Bool.false_eq_true, hread, bind_eq_ok, expect_eq_ok] at ho
  obtain ⟨_, -, _, -, _, hmessage, -⟩ := ho
  cases hmessage

/-- At 5 USDC the contract creates the job. -/
theorem upload_paid_fresh :
    ∃ w₀ w, Initial (Vectors.uploadHost "5000000") w₀ ∧
      Reachable (worldStep (Vectors.uploadHost "5000000")) w₀ w ∧
      Pays ⟨Vectors.uploadHost "5000000", Vectors.transfer 26000⟩ w.contract
        MarketV2.Vectors.creatorId 500000 (Vectors.uploadText "5000000")
        MarketV2.Vectors.publicationId := by
  have hprice : uploadOf (Vectors.uploadValue "5000000") =
      some (Vectors.uploadMessage "5000000") := by
    decide +kernel
  have hrun : (MarketV2.Vectors.worldRun (Vectors.uploadHost "5000000") []).map (fun r =>
      (Vectors.vatKeysDecode r.2.contract,
        (checkUpload (Vectors.uploadPlatform "5000000")
          (marketView ⟨Vectors.uploadHost "5000000", Vectors.transfer 26000⟩ r.2.contract)
          (Vectors.uploadInput "5000000") (Vectors.uploadMessage "5000000")).toOption,
        decide (r.2.contract.platformBalance = 0))) =
      some (true, some MarketV2.Vectors.publicationId, true) := by
    decide +kernel
  obtain ⟨w₀, tr, w, h₀, h, hfacts⟩ := MarketV2.Vectors.trace_of_worldRun hrun
  simp only [Prod.mk.injEq, decide_eq_true_eq] at hfacts
  obtain ⟨hkeys, hchecked, hbalance⟩ := hfacts
  refine ⟨w₀, w, h₀, ⟨tr, h⟩, ?_⟩
  obtain ⟨upload, hparse, hiff⟩ :=
    upload_paid_iff (Vectors.uploadRelays _ 26000 hkeys) (Vectors.base58Texts _)
      (Vectors.readsUpload hprice) (Vectors.checkUploadMessage_text hprice hchecked)
  obtain rfl := Except.ok.inj ((Vectors.parseUploadMessage_text hprice).symm.trans hparse)
  refine hiff.mpr ⟨?_, ?_, ?_⟩
  · exact congrArg Option.isSome (JsString.text?_ofString "Opening night")
  · intro text htext
    obtain rfl := Option.some.inj ((JsString.text?_ofString "5000000").symm.trans htext)
    decide
  · rw [hbalance]
    decide

end Youtick.Relayer
