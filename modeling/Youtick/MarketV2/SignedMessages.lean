import Youtick.MarketV2.TicketEffects

/-!
# Market V2: signed messages

The contract checks six kinds of Ed25519 signatures of ticket holders and of the VAT service, each
over a list of lines. `SignedMessage` is what the lines are made from. Every entry point that goes
through has verified the message of its own arguments (`Accepted.verified`), and two messages with the
same bytes are the same message.
-/

set_option autoImplicit false

namespace Youtick.MarketV2

open Youtick.Lib

/-! ## Messages -/

/-- What is signed, by action, with the arguments as the caller spelled them. -/
inductive SignedBody where
  | purchaseDevice (ticketId expiresAtMs publicationId sessionPublicKey certificateSha256 : String)
  | cardPurchase (ticketId expiresAtMs publicationId sessionPublicKey certificateSha256
      paymentReferenceHmac grossMinor currency : String)
  | addDevice (ticketId expiresAtMs sessionPublicKey certificateSha256 deviceEpoch : String)
  | revokeDevice (ticketId expiresAtMs sessionPublicKey deviceEpoch : String)
  | refundTicket (ticketId expiresAtMs : String) (refundTo : AccountId)
  | vat (ticketId publicationId : String) (amount : Nat)
      (vatUsdcMicro expiresAtMs keyVersion : String)

/-- The action line; a VAT attestation has none. -/
def SignedBody.action : SignedBody → Option String
  | .purchaseDevice .. => some "purchase_device"
  | .cardPurchase .. => some "card_purchase"
  | .addDevice .. => some "add_device"
  | .revokeDevice .. => some "revoke_device"
  | .refundTicket .. => some "refund_ticket"
  | .vat .. => none

def SignedBody.domain : SignedBody → String
  | .vat .. => vatDomain
  | _ => ticketSignatureDomain

/-- The lines after the action. -/
def SignedBody.arguments : SignedBody → List String
  | .purchaseDevice ticketId expiresAtMs publicationId sessionPublicKey certificateSha256 =>
    [ticketId, expiresAtMs, publicationId, sessionPublicKey, certificateSha256]
  | .cardPurchase ticketId expiresAtMs publicationId sessionPublicKey certificateSha256
      paymentReferenceHmac grossMinor currency =>
      [ticketId, expiresAtMs, publicationId, sessionPublicKey, certificateSha256,
        paymentReferenceHmac, grossMinor, currency]
  | .addDevice ticketId expiresAtMs sessionPublicKey certificateSha256 deviceEpoch =>
    [ticketId, expiresAtMs, sessionPublicKey, certificateSha256, deviceEpoch]
  | .revokeDevice ticketId expiresAtMs sessionPublicKey deviceEpoch =>
    [ticketId, expiresAtMs, sessionPublicKey, deviceEpoch]
  | .refundTicket ticketId expiresAtMs refundTo => [ticketId, expiresAtMs, refundTo]
  | .vat ticketId publicationId amount vatUsdcMicro expiresAtMs keyVersion =>
    [ticketId, publicationId, decimal amount, vatUsdcMicro, expiresAtMs, keyVersion]

structure SignedMessage where
  network : String
  contractId : AccountId
  body : SignedBody

namespace SignedMessage

def lines (m : SignedMessage) : List String :=
  [m.body.domain, m.network, m.contractId] ++ m.body.action.toList ++ m.body.arguments

/-- The bytes the signature is over. -/
def bytes (m : SignedMessage) : Bytes := utf8 (joinLines m.lines)

theorem vatDomain_ne : vatDomain ≠ ticketSignatureDomain := by decide

/-- The lines determine the message: the domain tells the VAT attestation apart, the action line
the others. -/
theorem lines_injective {m₁ m₂ : SignedMessage} (h : m₁.lines = m₂.lines) : m₁ = m₂ := by
  obtain ⟨network₁, contractId₁, body₁⟩ := m₁
  obtain ⟨network₂, contractId₂, body₂⟩ := m₂
  simp only [lines, List.cons_append, List.nil_append, List.cons.injEq] at h
  obtain ⟨hdomain, rfl, rfl, hrest⟩ := h
  cases body₁ with
  | vat =>
    cases body₂ with
    | vat =>
      simp only [SignedBody.action, SignedBody.arguments, Option.toList_none, List.nil_append,
        List.cons.injEq] at hrest
      obtain ⟨rfl, rfl, hamount, rfl, rfl, rfl, -⟩ := hrest
      rw [decimal_injective hamount]
    | _ => exact absurd hdomain vatDomain_ne
  | _ =>
    cases body₂ with
    | vat => exact absurd hdomain.symm vatDomain_ne
    | _ => simp_all [SignedBody.action, SignedBody.arguments]

theorem lines_ne_nil (m : SignedMessage) : m.lines ≠ [] := List.cons_ne_nil _ _

end SignedMessage

/-! ## Verification -/

/-- Running in `env`, the contract verified `signature` over the message with `key`. -/
structure Verified (env : Env) (m : SignedMessage) (signature : String) (key : Bytes) : Prop where
  network : networkId env = .ok m.network
  contractId : m.contractId = env.currentAccountId
  verified : ∃ text error, signedLines m.lines = .ok text ∧
    verifyEd25519 env.toHost signature text key error = .ok ⟨⟩

theorem Verified.isLine {env : Env} {m : SignedMessage} {signature : String} {key : Bytes}
    (h : Verified env m signature key) : ∀ line ∈ m.lines, IsLine line := by
  obtain ⟨text, -, htext, -⟩ := h.verified
  exact (signedLines_ok htext).1

/-- Verified messages with the same bytes are the same. -/
theorem Verified.eq_of_bytes {env₁ env₂ : Env} {m₁ m₂ : SignedMessage}
    {signature₁ signature₂ : String} {key₁ key₂ : Bytes} (h₁ : Verified env₁ m₁ signature₁ key₁)
    (h₂ : Verified env₂ m₂ signature₂ key₂) (hbytes : m₁.bytes = m₂.bytes) : m₁ = m₂ :=
  SignedMessage.lines_injective <| joinLines_injective m₁.lines_ne_nil m₂.lines_ne_nil
    h₁.isLine h₂.isLine (utf8_injective hbytes)

/-! ## What the entry points verify -/

/-- `ft_on_transfer` reads `msg` as a ticket purchase. -/
structure IsPurchase (env : Env) (msg : String) (purchase : PurchaseMessageV2) : Prop where
  notCompact : startsWith msg "yt:u1:" = false
  action : transferAction env.toHost msg = some buyTicketV2Action
  read : env.purchaseMessageOfJson msg = some purchase

/-- The bodies a call has signatures checked for, when it goes through with outcome `o`: each is made
from the call's own arguments and the stored ticket, and checked with the ticket's key or the VAT
key. A purchase that returns its amount checks nothing. -/
inductive Accepted (env : Env) (s : Contract) (o : Outcome Unit) :
    Call → SignedBody → String → Bytes → Prop where
  | purchaseDevice {senderId : AccountId} {amount : Nat} {msg : String}
      {purchase : PurchaseMessageV2} {key : Bytes} (hmsg : IsPurchase env msg purchase)
      (hkey : parseEd25519Key env.toHost purchase.ticketPublicKey = .ok key)
      (hsold : o.state.tickets.get (hexSha256 env.toHost key) ≠
        s.tickets.get (hexSha256 env.toHost key)) :
      Accepted env s o (.ftOnTransfer senderId amount msg)
        (.purchaseDevice (hexSha256 env.toHost key) purchase.device.expiresAtMs
          purchase.publicationId purchase.device.sessionPublicKey
          purchase.device.certificateSha256)
        purchase.device.signature key
  | vat {senderId : AccountId} {amount version : Nat} {msg : String} {purchase : PurchaseMessageV2}
      {key vatKey : Bytes} (hmsg : IsPurchase env msg purchase)
      (hkey : parseEd25519Key env.toHost purchase.ticketPublicKey = .ok key)
      (hsold : o.state.tickets.get (hexSha256 env.toHost key) ≠
        s.tickets.get (hexSha256 env.toHost key))
      (hversion : parseCanonicalDecimal "key_version" purchase.vat.keyVersion (maxOf 32) =
        .ok version)
      (hvatKey : s.vatKeys.get version = some vatKey) :
      Accepted env s o (.ftOnTransfer senderId amount msg)
        (.vat (hexSha256 env.toHost key) purchase.publicationId amount purchase.vat.vatUsdcMicro
          purchase.vat.expiresAtMs purchase.vat.keyVersion)
        purchase.vat.signature vatKey
  | cardPurchase {ticketPublicKey publicationId paymentReferenceHmac grossMinor currency : String}
      {device : SignedTicketDevice} {key : Bytes}
      (hkey : parseEd25519Key env.toHost ticketPublicKey = .ok key) :
      Accepted env s o
        (.issueCardTicket ticketPublicKey publicationId device paymentReferenceHmac grossMinor
          currency)
        (.cardPurchase (hexSha256 env.toHost key) device.expiresAtMs publicationId
          device.sessionPublicKey device.certificateSha256 paymentReferenceHmac grossMinor currency)
        device.signature key
  | addDevice {ticketId sessionPublicKey certificateSha256 deviceEpoch expiresAtMs
      signature : String} {ticket : Ticket} {key : Bytes}
      (hget : s.tickets.get ticketId = some ticket)
      (hkey : parseEd25519Key env.toHost ticket.ticketPublicKey = .ok key) :
      Accepted env s o
        (.addDevice ticketId sessionPublicKey certificateSha256 deviceEpoch expiresAtMs signature)
        (.addDevice ticket.ticketId expiresAtMs sessionPublicKey certificateSha256 deviceEpoch)
        signature key
  | revokeDevice {ticketId sessionPublicKey deviceEpoch expiresAtMs signature : String}
      {ticket : Ticket} {key : Bytes} (hget : s.tickets.get ticketId = some ticket)
      (hkey : parseEd25519Key env.toHost ticket.ticketPublicKey = .ok key) :
      Accepted env s o (.revokeDevice ticketId sessionPublicKey deviceEpoch expiresAtMs signature)
        (.revokeDevice ticket.ticketId expiresAtMs sessionPublicKey deviceEpoch) signature key
  | refundTicket {ticketId expiresAtMs signature : String} {refundTo : AccountId} {ticket : Ticket}
      {key : Bytes} (hget : s.tickets.get ticketId = some ticket)
      (hkey : parseEd25519Key env.toHost ticket.ticketPublicKey = .ok key) :
      Accepted env s o (.refundTicket ticketId refundTo expiresAtMs signature)
        (.refundTicket ticketId expiresAtMs refundTo) signature key

section Entries

variable {env : Env} {s : Contract}

/-- The one shape all verifications have. -/
theorem Verified.of_lines {network text signature error : String} {body : SignedBody} {key : Bytes}
    {r : PUnit.{1}} (hnetwork : networkId env = .ok network)
    (hlines : signedLines (SignedMessage.lines ⟨network, env.currentAccountId, body⟩) = .ok text)
    (hverify : verifyEd25519 env.toHost signature text key error = .ok r) :
    Verified env ⟨network, env.currentAccountId, body⟩ signature key where
  network := hnetwork
  contractId := rfl
  verified := ⟨text, error, hlines, hverify⟩

theorem verifyTicketAction_ok {ticket : Ticket} {action expiresAtMs signature : String}
    {fields : List String} {r : PUnit.{1}}
    (h : verifyTicketAction env ticket action expiresAtMs fields signature = .ok r) {key : Bytes}
    (hkey : parseEd25519Key env.toHost ticket.ticketPublicKey = .ok key) {body : SignedBody}
    (hdomain : body.domain = ticketSignatureDomain) (haction : body.action = some action)
    (harguments : body.arguments = ticket.ticketId :: expiresAtMs :: fields) :
    ∃ network, Verified env ⟨network, env.currentAccountId, body⟩ signature key := by
  simp only [verifyTicketAction, bind_eq_ok] at h
  obtain ⟨_, -, network, hnetwork, text, htext, key', hkey', hverify⟩ := h
  obtain rfl := Except.ok.inj (hkey'.symm.trans hkey)
  refine ⟨network, .of_lines hnetwork ?_ hverify⟩
  rw [← htext, SignedMessage.lines, hdomain, haction, harguments]
  rfl

/-- A purchase that sold its ticket verified the device and the VAT attestation. -/
theorem buyTicketV2_verified {amount : Nat} {purchase : PurchaseMessageV2} {o : Outcome Nat}
    (h : buyTicketV2 env s amount purchase = .ok o) {key : Bytes}
    (hkey : parseEd25519Key env.toHost purchase.ticketPublicKey = .ok key)
    (hsold : o.state.tickets.get (hexSha256 env.toHost key) ≠
      s.tickets.get (hexSha256 env.toHost key)) :
    ∃ network version vatKey,
      parseCanonicalDecimal "key_version" purchase.vat.keyVersion (maxOf 32) = .ok version ∧
      s.vatKeys.get version = some vatKey ∧
      Verified env ⟨network, env.currentAccountId, .purchaseDevice (hexSha256 env.toHost key)
        purchase.device.expiresAtMs purchase.publicationId purchase.device.sessionPublicKey
        purchase.device.certificateSha256⟩ purchase.device.signature key ∧
      Verified env ⟨network, env.currentAccountId, .vat (hexSha256 env.toHost key)
        purchase.publicationId amount purchase.vat.vatUsdcMicro purchase.vat.expiresAtMs
        purchase.vat.keyVersion⟩ purchase.vat.signature vatKey := by
  simp only [buyTicketV2, bind_eq_ok] at h
  obtain ⟨_, -, _, -, key', hkey', _, -, _, -, _, -, _, -, vat, -, version, hversion, h⟩ := h
  obtain rfl := Except.ok.inj (hkey'.symm.trans hkey)
  rcases ite_eq_ok.mp h with ⟨-, h⟩ | ⟨-, h⟩
  · cases pure_eq_ok.mp h
    exact absurd rfl hsold
  · simp only [bind_eq_ok, expect_eq_ok] at h
    obtain ⟨publication, -, h⟩ := h
    rcases ite_eq_ok.mp h with ⟨-, h⟩ | ⟨-, h⟩
    · cases pure_eq_ok.mp h
      exact absurd rfl hsold
    · simp only [bind_eq_ok, expect_eq_ok] at h
      obtain ⟨network, hnetwork, device, hdevice, _, hdeviceSigned, vatKey, hvatKey, _, -,
        attestation, hattestation, _, hvatSigned, -⟩ := h
      exact ⟨network, version, vatKey, hversion, hvatKey,
        .of_lines hnetwork hdevice hdeviceSigned, .of_lines hnetwork hattestation hvatSigned⟩

theorem ftOnTransfer_purchase {senderId : AccountId} {amount : Nat} {msg : String} {o : Outcome Nat}
    {purchase : PurchaseMessageV2} (h : ftOnTransfer env s senderId amount msg = .ok o)
    (hmsg : IsPurchase env msg purchase) : buyTicketV2 env s amount purchase = .ok o := by
  simp only [ftOnTransfer, hmsg.notCompact, hmsg.action, hmsg.read, bind_eq_ok, and_self,
    if_true] at h
  obtain ⟨_, -, _, -, purchase', hread, h⟩ := h
  obtain rfl := Option.some.inj (expect_eq_ok.mp hread)
  exact h

theorem issueCardTicket_verified
    {ticketPublicKey publicationId paymentReferenceHmac grossMinor currency : String}
    {device : SignedTicketDevice} {o : Outcome Ticket}
    (h : issueCardTicket env s ticketPublicKey publicationId device paymentReferenceHmac grossMinor
      currency = .ok o) {key : Bytes}
    (hkey : parseEd25519Key env.toHost ticketPublicKey = .ok key) :
    ∃ network, Verified env ⟨network, env.currentAccountId, .cardPurchase
      (hexSha256 env.toHost key) device.expiresAtMs publicationId device.sessionPublicKey
      device.certificateSha256 paymentReferenceHmac grossMinor currency⟩ device.signature key := by
  simp only [issueCardTicket, bind_eq_ok] at h
  obtain ⟨_, -, _, -, _, -, _, -, _, -, key', hkey', _, -, _, -, _, -, gross, -, _, -, _, -, _, -,
    publication, -, _, -, _, -, _, -, network, hnetwork, text, htext, _, hverify, -⟩ := h
  obtain rfl := Except.ok.inj (hkey'.symm.trans hkey)
  exact ⟨network, .of_lines hnetwork htext hverify⟩

section Stored

variable {ticketId sessionPublicKey certificateSha256 deviceEpoch expiresAtMs signature : String}
  {ticket : Ticket} {key : Bytes} (hget : s.tickets.get ticketId = some ticket)
  (hkey : parseEd25519Key env.toHost ticket.ticketPublicKey = .ok key)

include hget hkey

theorem addDevice_verified {o : Outcome TicketDevice}
    (h : addDevice env s ticketId sessionPublicKey certificateSha256 deviceEpoch expiresAtMs
      signature = .ok o) :
    ∃ network, Verified env ⟨network, env.currentAccountId, .addDevice ticket.ticketId expiresAtMs
      sessionPublicKey certificateSha256 deviceEpoch⟩ signature key := by
  simp only [addDevice, playableTicket, bind_eq_ok, expect_eq_ok, pure_eq_ok] at h
  obtain ⟨ticket', ⟨_, hget', _, -, _, -, _, -, rfl⟩, _, -, _, -, _, hsigned, -⟩ := h
  obtain rfl := Option.some.inj (hget'.symm.trans hget)
  exact verifyTicketAction_ok hsigned hkey rfl rfl rfl

theorem revokeDevice_verified {o : Outcome Unit}
    (h : revokeDevice env s ticketId sessionPublicKey deviceEpoch expiresAtMs signature = .ok o) :
    ∃ network, Verified env ⟨network, env.currentAccountId, .revokeDevice ticket.ticketId
      expiresAtMs sessionPublicKey deviceEpoch⟩ signature key := by
  simp only [revokeDevice, bind_eq_ok, expect_eq_ok] at h
  obtain ⟨ticket', hget', _, -, _, hsigned, -⟩ := h
  obtain rfl := Option.some.inj (hget'.symm.trans hget)
  exact verifyTicketAction_ok hsigned hkey rfl rfl rfl

theorem refundTicket_verified {refundTo : AccountId} {o : Outcome Unit}
    (h : refundTicket env s ticketId refundTo expiresAtMs signature = .ok o) :
    ∃ network, Verified env ⟨network, env.currentAccountId, .refundTicket ticketId expiresAtMs
      refundTo⟩ signature key := by
  simp only [refundTicket, bind_eq_ok, expect_eq_ok] at h
  obtain ⟨ticket', hget', _, -, _, -, _, -, _, -, _, -, network, hnetwork, text, htext, key', hkey',
    _, hverify, -⟩ := h
  obtain rfl := Option.some.inj (hget'.symm.trans hget)
  obtain rfl := Except.ok.inj (hkey'.symm.trans hkey)
  exact ⟨network, .of_lines hnetwork htext hverify⟩

end Stored

/-- An entry point that goes through has verified what it accepts. -/
theorem Accepted.verified {c : Call} {o : Outcome Unit} {body : SignedBody} {signature : String}
    {key : Bytes} (h : Accepted env s o c body signature key) (hrun : c.run env s = .ok o) :
    ∃ network, Verified env ⟨network, env.currentAccountId, body⟩ signature key := by
  obtain ⟨_, -, hbody⟩ := bind_eq_ok.mp hrun
  cases h with
  | purchaseDevice hmsg hkey hsold =>
    obtain ⟨o', ho', ho⟩ := bind_eq_ok.mp hbody
    cases pure_eq_ok.mp ho
    obtain ⟨network, -, -, -, -, hdevice, -⟩ :=
      buyTicketV2_verified (ftOnTransfer_purchase ho' hmsg) hkey hsold
    exact ⟨network, hdevice⟩
  | vat hmsg hkey hsold hversion hvatKey =>
    obtain ⟨o', ho', ho⟩ := bind_eq_ok.mp hbody
    cases pure_eq_ok.mp ho
    obtain ⟨network, version', vatKey', hversion', hvatKey', -, hvat⟩ :=
      buyTicketV2_verified (ftOnTransfer_purchase ho' hmsg) hkey hsold
    obtain rfl := Except.ok.inj (hversion'.symm.trans hversion)
    obtain rfl := Option.some.inj (hvatKey'.symm.trans hvatKey)
    exact ⟨network, hvat⟩
  | cardPurchase hkey =>
    obtain ⟨o', ho', -⟩ := bind_eq_ok.mp hbody
    exact issueCardTicket_verified ho' hkey
  | addDevice hget hkey =>
    obtain ⟨o', ho', -⟩ := bind_eq_ok.mp hbody
    exact addDevice_verified hget hkey ho'
  | revokeDevice hget hkey => exact revokeDevice_verified hget hkey hbody
  | refundTicket hget hkey => exact refundTicket_verified hget hkey hbody

end Entries

/-! ## Signed messages cannot be confused -/

/-- Two verified messages with the same bytes agree in domain, network, contract, action and every
argument, whichever contracts verified them and with whichever keys; and what an entry point accepts
is such a message, made from its own arguments. -/
theorem signed_messages_distinct :
    (∀ (env₁ env₂ : Env) (m₁ m₂ : SignedMessage) (signature₁ signature₂ : String)
      (key₁ key₂ : Bytes), Verified env₁ m₁ signature₁ key₁ → Verified env₂ m₂ signature₂ key₂ →
      m₁.bytes = m₂.bytes →
      m₁.body.domain = m₂.body.domain ∧ m₁.network = m₂.network ∧
        m₁.contractId = m₂.contractId ∧ m₁.body.action = m₂.body.action ∧ m₁.body = m₂.body) ∧
    ∀ (env : Env) (s : Contract) (c : Call) (o : Outcome Unit) (body : SignedBody)
      (signature : String) (key : Bytes), c.run env s = .ok o →
      Accepted env s o c body signature key →
      ∃ network, Verified env ⟨network, env.currentAccountId, body⟩ signature key := by
  refine ⟨?_, fun env s c o body signature key hrun h => h.verified hrun⟩
  intro env₁ env₂ m₁ m₂ signature₁ signature₂ key₁ key₂ h₁ h₂ hbytes
  obtain rfl := h₁.eq_of_bytes h₂ hbytes
  exact ⟨rfl, rfl, rfl, rfl, rfl⟩

/-- The refund request of a sold ticket is accepted, and no other message has its bytes. -/
theorem signed_messages_distinct_refund :
    ∃ (env : Env) (signed : SignedMessage) (signature : String) (key : Bytes),
      signed.body = .refundTicket Vectors.ticketId Vectors.expiresAtMs Vectors.buyerId ∧
      Verified env signed signature key ∧
      ∀ env' m signature' key', Verified env' m signature' key' → m.bytes = signed.bytes →
        m.body = signed.body := by
  let env : Env := ⟨Vectors.host, Vectors.context Vectors.config.paymentOperatorId
    Vectors.issuedAtMs⟩
  let c : Call := .refundTicket Vectors.ticketId Vectors.buyerId Vectors.expiresAtMs
    Vectors.refundSignature.base64
  have hrun : (Vectors.worldRun Vectors.host Vectors.sale).map (fun r =>
      ((c.run env r.2.contract).toOption.isSome,
        (r.2.contract.tickets.get Vectors.ticketId).map (·.ticketPublicKey))) =
      some (true, some Vectors.ticketKey.text) := by decide +kernel
  obtain ⟨w₀, tr, w, -, -, hw⟩ := Vectors.trace_of_worldRun hrun
  obtain ⟨haccepted, hticket⟩ := Prod.mk.inj hw
  obtain ⟨ticket, hget, htext⟩ := Option.map_eq_some_iff.mp hticket
  have hkey : parseEd25519Key env.toHost ticket.ticketPublicKey = .ok Vectors.ticketKey.bytes := by
    rw [htext]
    decide +kernel
  cases ho : c.run env w.contract with
  | error => simp [ho, Except.toOption] at haccepted
  | ok o =>
    obtain ⟨network, hverified⟩ :=
      signed_messages_distinct.2 env w.contract c o _ _ _ ho (.refundTicket hget hkey)
    exact ⟨env, _, _, _, rfl, hverified, fun env' m signature' key' h hbytes =>
      (signed_messages_distinct.1 _ _ _ _ _ _ _ _ h hverified hbytes).2.2.2.2⟩

end Youtick.MarketV2
