import Youtick.Bridge.PlaybackRuns
import Youtick.Bridge.ArchiveRuns

/-!
# Bridge: tokens follow their tickets

What holds of every run with playback requests: each token has its grant, no request gets one that
only read states in which the playback had ended (`Ended`), and no ticket with a token is purchased.
A device that was revoked can be authorized again; then it gets tokens again.
-/

set_option autoImplicit false

namespace Youtick.Bridge.Playback

open Youtick.Lib
open Youtick.MarketV2 (Host World Label Ticket Initial)
open Youtick.Relayer (JsValue JsString Platform)

section Runs

variable {host : Host} {platform : Platform} {signer : OperatorSigner} {market : World}
  {tr : List (Transition (Config PlaybackWorld NumberedOp String Unit Incoming)
    (Event PlaybackInput Incoming PlaybackChange))}
  {c : Config PlaybackWorld NumberedOp String Unit Incoming}

theorem kept_run (h₀ : Initial host market)
    (h : Trace (ExecStep (playbackSystem host platform signer).next) ⟨start market, []⟩ tr c) :
    Kept host platform c.shared := by
  have hsound := Discipline.run (D := playbackDiscipline host platform signer)
    (fun incoming s _ => handle_safe incoming s) (Discipline.sound_idle (kept_start h₀)) h
  exact (hsound fun _ _ _ _ _ _ _ => trivial).1.inv

/-- The session keys of the devices on a ticket. -/
def sessionKeys (market : World) (ticketId : String) : List String :=
  ((market.ticket ticketId).map fun ticket => ticket.devices.map (·.sessionPublicKey)).getD []

/-- What ends the playback of a ticket by a device: from this block on the ticket is refunded or
voided for good, its publication is taken down, or the device is not on it. -/
inductive Ended (past : List World) (block : Nat) (ticketId sessionPublicKey : String) : Prop where
  | settled (market : World) (e : MarketV2.Settlement) (hget : past[block]? = some market)
      (hend : e ≠ .release) (h : MarketV2.Settled ticketId e market)
  | takenDown (market : World) (ticket : Ticket) (hget : past[block]? = some market)
      (hticket : market.ticket ticketId = some ticket)
      (h : MarketV2.takenDown market.contract ticket.publicationId = true)
  | revoked (h : ∀ later market, block ≤ later → past[later]? = some market →
      sessionPublicKey ∉ sessionKeys market ticketId)

/-- The block of a read of this request. -/
def Fact.block? (number : Nat) : Fact → Option Nat
  | .sawTicket n _ block => if n = number then some block else none
  | .sawPublication n _ block => if n = number then some block else none
  | .sawStatus n _ block => if n = number then some block else none
  | .issued _ _ _ _ => none

/-- Every read of the request is of this block or a later one. -/
def ReadsFrom (journal : List Fact) (number block : Nat) : Prop :=
  ∀ fact ∈ journal, ∀ read ∈ fact.block? number, block ≤ read

theorem Chained.later {w : PlaybackWorld} (h : Chained host w) {i j : Nat} {m m' : World}
    (hi : w.past[i]? = some m) (hj : w.past[j]? = some m') (hij : i ≤ j) : m.Later host m' := by
  rcases Nat.lt_or_eq_of_le hij with hlt | rfl
  · obtain ⟨hi', rfl⟩ := List.getElem?_eq_some_iff.mp hi
    obtain ⟨hj', rfl⟩ := List.getElem?_eq_some_iff.mp hj
    exact List.pairwise_iff_getElem.mp h.ordered i j hi' hj' hlt
  · obtain rfl := Option.some.inj (hi.symm.trans hj)
    exact World.Later.refl host m

theorem Chained.sound {w : PlaybackWorld} (h : Chained host w) {i : Nat} {m : World}
    (hi : w.past[i]? = some m) : m.Sound := by
  obtain ⟨first, hinitial, hlater⟩ := h.initial m (List.mem_of_getElem? hi)
  exact hinitial.sound.later hlater

/-- A token whose request has read only from a block on was not ended at that block. -/
theorem Chained.not_ended {w : PlaybackWorld} (h : Chained host w) {seen : List Fact} {n block : Nat}
    {request : PlaybackRequest} {token : Token} (hgranting : SeenGranting w.past seen n request token)
    (hreads : ReadsFrom seen n block) :
    ¬ Ended w.past block request.ticketId request.sessionPublicKey := by
  obtain ⟨read, market, ticket, publication, device, hget, hsaw, -, hgrants⟩ := hgranting
  have hle : block ≤ read := hreads _ hsaw read (if_pos rfl)
  intro hended
  cases hended with
  | settled first e hfirst hend hsettled =>
    have hlater := h.later hfirst hget hle
    obtain ⟨sold, hsold, hstatus⟩ :=
      (hsettled.later (h.sound hfirst) hlater).ticket
    obtain rfl := Option.some.inj (hgrants.sold.symm.trans hsold)
    cases e with
    | refund => exact hgrants.paid.1 hstatus
    | release => exact hend rfl
    | void => exact hgrants.paid.2 hstatus
  | takenDown first sold hfirst hsold hdown =>
    have hlater := h.later hfirst hget hle
    obtain ⟨same, hsame, hterms⟩ := (h.sound hfirst).terms_later hlater hsold
    obtain rfl := Option.some.inj (hgrants.sold.symm.trans hsame)
    obtain ⟨_, hinitial, hreached⟩ := h.initial first (List.mem_of_getElem? hfirst)
    have hpublication : ticket.publicationId = sold.publicationId :=
      congrArg MarketV2.TicketTerms.publicationId hterms
    obtain ⟨other, hother, havailability⟩ :=
      MarketV2.takenDown_iff.mp (MarketV2.takenDown_later hinitial hreached hlater hdown)
    rw [← hpublication] at hother
    obtain rfl := Option.some.inj (hgrants.published.symm.trans hother)
    exact hgrants.offered havailability
  | revoked hrevoked =>
    refine hrevoked read market hle hget ?_
    rw [sessionKeys, hgrants.sold, ← hgrants.signer]
    exact List.mem_map_of_mem hgrants.listed

/-- A ticket seen watched is not purchased now. -/
theorem Chained.played {w : PlaybackWorld} (h : Chained host w) {seen : List Fact} {n : Nat}
    {k : String} (hseen : SeenWatched w.past seen n k) : MarketV2.Played k w.market := by
  obtain ⟨block, market, hget, -, hsettled⟩ := hseen
  have hsound := h.sound hget
  refine MarketV2.Played.later hsound ?_ (h.current market (List.mem_of_getElem? hget))
  unfold finalTicketStatus at hsettled
  cases hticket : market.ticket k with
  | none =>
    rw [hticket] at hsettled
    exact absurd hsettled (by decide)
  | some ticket =>
    rw [hticket] at hsettled
    refine hsound.played hticket ?_ ?_
    · intro hpurchased
      rw [Option.map_some, hpurchased] at hsettled
      exact absurd hsettled (by decide)
    · intro hrefunded
      rw [Option.map_some, hrefunded] at hsettled
      exact absurd hsettled (by decide)

/-- Over every run: each token has its grant before it, and none whose request only read states
in which the playback had ended; no ticket with a token is purchased. -/
theorem tokens_follow_tickets (h₀ : Initial host market)
    (h : Trace (ExecStep (playbackSystem host platform signer).next) ⟨start market, []⟩ tr c) :
    Lawful platform c.shared.past c.shared.journal ∧
      ∀ number request signature token,
        .issued number request signature token ∈ c.shared.journal →
          (∀ block, ReadsFrom c.shared.journal number block →
            ¬ Ended c.shared.past block request.ticketId request.sessionPublicKey) ∧
          ∃ ticket, c.shared.market.ticket request.ticketId = some ticket ∧
            ticket.status ≠ .purchased := by
  have hkept := kept_run h₀ h
  refine ⟨hkept.lawful, fun number request signature token hissued => ?_⟩
  obtain ⟨front, rest, hjournal⟩ := List.append_of_mem hissued
  have hgrant := hkept.lawful front rest number request signature token hjournal
  have hfront : front <+: c.shared.journal := ⟨_, hjournal.symm⟩
  refine ⟨fun block hreads => hkept.chained.not_ended hgrant.granting ?_,
    (hkept.chained.played hgrant.watched).ticket⟩
  exact fun fact hfact => hreads fact (hfront.subset hfact)

end Runs

/-! ## A device that is authorized again -/

namespace Vectors

open Youtick.MarketV2.Vectors (Signature contractId ticketId publicationId issuedAtMs expiresAtMs
  firstSession ticketKey certificate)

/-- The ticket key's signature for the first session at the epoch after a revocation. -/
def renewalSignature : Signature where
  base64 :=
    "Rj8tng79oeMISOW88yv0zImFUNfy3iFBYJw9iLoKX8l96O7iov9MG+Jygn8o/84JFXNF6M71OrCrsrWFTaJWCA=="
  bytes :=
    [70, 63, 45, 158, 14, 253, 161, 227, 8, 72, 229, 188, 243, 43, 244, 204, 137, 133, 80, 215,
     242, 222, 33, 65, 96, 156, 61, 136, 186, 10, 95, 201, 125, 232, 238, 226, 162, 255, 76, 27,
     226, 114, 130, 127, 40, 255, 206, 9, 21, 115, 69, 232, 206, 245, 58, 176, 171, 178, 181, 133,
     77, 162, 86, 8]
  key := ticketKey
  domain := MarketV2.ticketSignatureDomain
  lines := ["add_device", ticketId, expiresAtMs, firstSession.text, certificate, "1"]

def request : PlaybackRequest where
  network := "testnet"
  contractId := contractId
  ticketId := ticketId
  sessionPublicKey := firstSession.text
  origin := "https://preview.youtick.net"
  deviceNonce := "c7fb50b34f2635e6d9a8b912be1c74c5"
  expiresAtMs := "1791360120000"

def requestSignature : String :=
  "1rEaB/RU0uaOqyCkx0rt6pIQcK7UAqK85ChEhoMVDXHL2b4wPisqn4Z+HI+fqRX4FoS6kkssioiyP8lm+J1IDQ=="

def requestSignatureBytes : Bytes :=
  [214, 177, 26, 7, 244, 84, 210, 230, 142, 171, 32, 164, 199, 74, 237, 234, 146, 16, 112, 174,
   212, 2, 162, 188, 228, 40, 68, 134, 131, 21, 13, 113, 203, 217, 190, 48, 62, 43, 42, 159, 134,
   126, 28, 143, 159, 169, 21, 248, 22, 132, 186, 146, 75, 44, 138, 136, 178, 63, 201, 102, 248,
   157, 72, 13]

/-- The host of the Market's vectors that knows the renewal. -/
def renewalHost : Host :=
  { MarketV2.Vectors.host with
    ed25519Verify := fun signature message publicKey =>
      (renewalSignature :: MarketV2.Vectors.signatures).any fun s =>
        decide (s.bytes = signature ∧ s.message = message ∧ s.key.bytes = publicKey)
    base64Decode := fun text =>
      ((renewalSignature :: MarketV2.Vectors.signatures).find? fun s => s.base64 = text).map
        (·.bytes) }

/-- A platform that knows the signature of the request. -/
def platform : Platform where
  jsonParse := fun _ => none
  baseDecode := fun _ => none
  baseEncode := fun _ => ""
  sha256 := fun _ => []
  verify := fun signature message key => decide (signature = requestSignatureBytes ∧
    message = utf8 (canonicalMessage request) ∧ key = firstSession.bytes)

def text (value : String) : JsValue := .string (.ofString value)

def requestBody : JsValue :=
  .object [
    (.ofString "request", .object [
      (.ofString "network", text request.network),
      (.ofString "contract_id", text request.contractId),
      (.ofString "ticket_id", text request.ticketId),
      (.ofString "session_public_key", text request.sessionPublicKey),
      (.ofString "origin", text request.origin),
      (.ofString "device_nonce", text request.deviceNonce),
      (.ofString "expires_at_ms", text request.expiresAtMs)]),
    (.ofString "signature", text requestSignature)]

def env : PlaybackEnv where
  network := "testnet"
  contractId := contractId
  origins := ["https://preview.youtick.net"]
  operator := archivedEnv

/-- The ticket is sold, its device is revoked and authorized again, and the ticket is watched. -/
def market : List Label :=
  MarketV2.Vectors.sale ++
    [.call (MarketV2.Vectors.context "platform.testnet" issuedAtMs)
       (.platformRevokeDevice ticketId firstSession.text),
     .call (MarketV2.Vectors.context MarketV2.Vectors.buyerId issuedAtMs)
       (.addDevice ticketId firstSession.text certificate "1" expiresAtMs renewalSignature.base64),
     .call (MarketV2.Vectors.context "bridge.testnet" issuedAtMs) (.markWatched ticketId)]

def input : PlaybackInput := ⟨issuedAtMs, 6, .ok ⟨⟩, confirmedInput⟩

/-- After the Market's calls one request runs to its end. -/
def events : List (Event PlaybackInput Incoming PlaybackChange) :=
  market.map (fun label => .world (.market label)) ++
    .start ⟨env, requestBody⟩ :: List.replicate 8 (.run 0 input)

def token : Token where
  playbackId := "playback-001"
  issuedAtMs := issuedAtMs
  expiresAtSeconds := issuedAtMs / 1000 + 180

abbrev PlaybackRun : Type 1 :=
  List (Transition (Config PlaybackWorld NumberedOp String Unit Incoming)
    (Event PlaybackInput Incoming PlaybackChange)) ×
      Config PlaybackWorld NumberedOp String Unit Incoming

/-- The events from a fresh contract. -/
def playbackRun : Option PlaybackRun :=
  match MarketV2.Vectors.initialised renewalHost with
  | .ok c => execTrace (playbackSystem renewalHost platform exampleSigner).next
      ⟨start ⟨c, [], issuedAtMs⟩, []⟩ events
  | .error _ => none

/-- The journal of the run, and the devices of the ticket right before and after the revocation. -/
theorem playbackRun_end :
    playbackRun.map (fun r => (r.2.shared.journal,
        r.2.shared.past[3]?.map (sessionKeys · ticketId),
        r.2.shared.past[4]?.map (sessionKeys · ticketId))) =
      some ([.sawTicket 0 ticketId 6, .sawPublication 0 publicationId 6,
        .issued 0 request requestSignature token], some [firstSession.text], some []) := by
  decide +kernel

theorem trace_of_playbackRun {α : Type} {f : PlaybackRun → α} {a : α}
    (h : playbackRun.map f = some a) :
    ∃ market tr c, Initial renewalHost market ∧
      Trace (ExecStep (playbackSystem renewalHost platform exampleSigner).next) ⟨start market, []⟩
        tr c ∧ f (tr, c) = a := by
  obtain ⟨⟨tr, c⟩, hrun, hf⟩ := Option.map_eq_some_iff.mp h
  unfold playbackRun at hrun
  split at hrun
  · next contract hcontract => exact ⟨_, tr, c, .new rfl hcontract, trace_of_execTrace _ hrun, hf⟩
  · cases hrun

end Vectors

/-- The device was on the ticket at this block and is not at the next. -/
def Revoked (past : List World) (block : Nat) (ticketId sessionPublicKey : String) : Prop :=
  ∃ before after, past[block]? = some before ∧ past[block + 1]? = some after ∧
    sessionPublicKey ∈ sessionKeys before ticketId ∧ sessionPublicKey ∉ sessionKeys after ticketId

/-- A device that is revoked and authorized again gets a token, although its request has read
nothing before the revocation. -/
theorem revoked_device_plays : ∃ host platform signer market tr c,
    Initial host market ∧
    Trace (ExecStep (playbackSystem host platform signer).next) ⟨start market, []⟩ tr c ∧
    ∃ number request signature token block,
      .issued number request signature token ∈ c.shared.journal ∧
      Revoked c.shared.past block request.ticketId request.sessionPublicKey ∧
      ReadsFrom c.shared.journal number (block + 1) := by
  obtain ⟨market, tr, c, h₀, htr, hend⟩ := Vectors.trace_of_playbackRun Vectors.playbackRun_end
  obtain ⟨hjournal, hend⟩ := Prod.mk.inj hend
  obtain ⟨hbefore, hafter⟩ := Prod.mk.inj hend
  dsimp only at hjournal hbefore hafter
  obtain ⟨before, hget, hkeys⟩ := Option.map_eq_some_iff.mp hbefore
  obtain ⟨after, hget', hkeys'⟩ := Option.map_eq_some_iff.mp hafter
  refine ⟨_, _, _, market, tr, c, h₀, htr, 0, Vectors.request, Vectors.requestSignature,
    Vectors.token, 3, ?_, ⟨before, after, hget, hget', ?_, ?_⟩, ?_⟩
  · rw [hjournal]
    decide
  · change _ ∈ sessionKeys before MarketV2.Vectors.ticketId
    rw [hkeys]
    exact List.mem_singleton_self _
  · change _ ∉ sessionKeys after MarketV2.Vectors.ticketId
    rw [hkeys']
    exact List.not_mem_nil
  · unfold ReadsFrom
    rw [hjournal]
    decide

/-- The same run: the ticket with the token is not purchased. -/
theorem tokens_follow_tickets_renewed : ∃ market tr c,
    Initial Vectors.renewalHost market ∧
    Trace (ExecStep (playbackSystem Vectors.renewalHost Vectors.platform exampleSigner).next)
      ⟨start market, []⟩ tr c ∧
    ∃ ticket, c.shared.market.ticket MarketV2.Vectors.ticketId = some ticket ∧
      ticket.status ≠ .purchased := by
  obtain ⟨market, tr, c, h₀, htr, hend⟩ := Vectors.trace_of_playbackRun Vectors.playbackRun_end
  obtain ⟨hjournal, -⟩ := Prod.mk.inj hend
  dsimp only at hjournal
  refine ⟨market, tr, c, h₀, htr, ?_⟩
  refine ((tokens_follow_tickets h₀ htr).2 0 Vectors.request Vectors.requestSignature Vectors.token
    ?_).2
  rw [hjournal]
  decide

end Youtick.Bridge.Playback
