import Youtick.Bridge.Playback
import Youtick.MarketV2.WatchedTickets

/-!
# Bridge: runs with playback requests

Every token is granted by what its own request has read: `Grant` names the reads and what they
showed, `Lawful` says that every issued token of the journal has one. The past only grows, so what a
request has read stays true while it waits. That `mark_watched` answers with 200 only after a final
read has shown the ticket watched is read off the operator's program (`processCall_yields`).
-/

set_option autoImplicit false

namespace Youtick.Bridge

open Youtick.Lib

/-! ## The operator's answer -/

/-- The answers of the operator's operations while the ticket is not seen watched. A record of
`mark_watched` has no older name, so it is never taken for confirmed unseen. -/
def Unwatched {β : Type} : OperatorOp β → β → Prop
  | .effectCheck _, holds => holds = false
  | .openRecord _ _ method, result =>
    method = .markWatched → ∀ record, result ≠ .ok (record, true)
  | _, _ => True

section Yields

variable {signer : OperatorSigner} {request : OperatorRequest} {record : OperatorRecord}

theorem isConfirmed_yields : (isConfirmed request).Yields Unwatched (· = false) :=
  ⟨fun _ hb => hb, trivial⟩

theorem pollOperatorFinality_yields (hash : String) (rounds : Nat) :
    (pollOperatorFinality request hash rounds).Yields Unwatched (· = false) := by
  induction rounds with
  | zero => rfl
  | succ rounds ih =>
    refine Handler.Yields.bind (Handler.Yields.trivially _) fun status _ => ?_
    refine Handler.Yields.bind (P := (· = false)) ?_ fun confirmed hconfirmed => ?_
    · exact isConfirmed_yields.rescue fun _ => rfl
    · subst hconfirmed
      rw [if_neg (by decide)]
      split
      · trivial
      · exact ih

theorem reconcileBroadcast_yields (hash : String) :
    (reconcileBroadcast request record hash).Yields Unwatched (·.status ≠ 200) := by
  refine (pollOperatorFinality_yields hash 3).bind fun confirmed hconfirmed => ?_
  subst hconfirmed
  exact (by decide : (202 : Nat) ≠ 200)

theorem settleBroadcast_yields (outcome : TxOutcome) :
    (settleBroadcast request record outcome).Yields Unwatched (·.status ≠ 200) := by
  have hpending : (202 : Nat) ≠ 200 := by decide
  unfold settleBroadcast
  split
  · split
    · trivial
    · split
      · exact reconcileBroadcast_yields _
      · trivial
  · split
    · trivial
    · split
      · exact Handler.Yields.perform fun _ _ => hpending
      · exact hpending

theorem submit_yields :
    (submit signer request record).Yields Unwatched (·.status ≠ 200) := by
  unfold submit
  split
  · trivial
  · refine Handler.Yields.bind (Handler.Yields.trivially _) fun signed _ => ?_
    refine Handler.Yields.bind (Handler.Yields.trivially _) fun marked _ => ?_
    split
    · trivial
    · refine Handler.Yields.bind (Handler.Yields.trivially _) fun outcome _ => ?_
      refine Handler.Yields.perform fun _ _ => ?_
      refine isConfirmed_yields.bind fun confirmed hconfirmed => ?_
      subst hconfirmed
      exact settleBroadcast_yields outcome

theorem advanceRecord_yields :
    (advanceRecord signer request record).Yields Unwatched (·.status ≠ 200) := by
  unfold advanceRecord
  split
  · exact submit_yields
  · split
    · exact submit_yields
    · split
      · exact reconcileBroadcast_yields _
      · unfold recoverBroadcast
        refine Handler.Yields.perform fun status _ => ?_
        refine isConfirmed_yields.bind fun confirmed hconfirmed => ?_
        subst hconfirmed
        rw [if_neg (by decide)]
        split
        · trivial
        · split
          · exact Handler.Yields.perform fun _ _ => submit_yields
          · exact submit_yields

theorem processOperatorOutbox_yields (hmethod : request.method = .markWatched) :
    (processOperatorOutbox signer request).Yields Unwatched (·.status ≠ 200) := by
  unfold processOperatorOutbox
  split
  · trivial
  · refine Handler.Yields.perform fun result hresult => ?_
    split
    · trivial
    · next opened => exact absurd rfl (hresult hmethod opened)
    · refine isConfirmed_yields.bind fun confirmed hconfirmed => ?_
      subst hconfirmed
      exact advanceRecord_yields

theorem watchFailure_yields : (watchFailure request).Yields Unwatched (·.status ≠ 200) := by
  refine Handler.Yields.perform fun status _ => ?_
  split
  · trivial
  · split
    · exact Handler.Yields.perform fun _ _ => trivial
    · trivial

/-- While the ticket is not seen watched, `mark_watched` does not answer with 200. -/
theorem processCall_yields (hcall : request.call = .markWatched) :
    (processCall signer request).Yields Unwatched (·.status ≠ 200) := by
  have hmethod : request.method = .markWatched := by
    unfold OperatorRequest.method
    rw [hcall]
  unfold processCall
  rw [hcall]
  unfold processSettlement
  dsimp only
  split
  · trivial
  · refine isConfirmed_yields.bind fun settled hsettled => ?_
    subst hsettled
    rw [if_neg (by decide)]
    refine (processOperatorOutbox_yields hmethod).rescue fun error => ?_
    split
    · exact watchFailure_yields
    · trivial

end Yields

/-- A record of `mark_watched` is never an older name's confirmed record. -/
theorem openRecord_unwatched {s u : OperatorObject} {key payloadSha256 : String} {nowMs : Nat}
    {result : Result (OperatorRecord × Bool)}
    (h : s.openRecord key payloadSha256 .markWatched nowMs = (result, u)) (record : OperatorRecord) :
    result ≠ .ok (record, true) := by
  rintro rfl
  unfold OperatorObject.openRecord at h
  split at h
  · cases h
  · next existing hget =>
      split at h
      · cases h
      · next opened hopen =>
          -- only a renamed method is taken for confirmed
          unfold openExisting at hopen
          split_ifs at hopen with _ hmethod hrenamed
          · rw [not_not] at hrenamed
            cases hm : existing.method <;> rw [hm] at hrenamed <;> cases hrenamed
          all_goals cases hopen
      · cases h

namespace Playback

open Youtick.MarketV2 (Host World Label Ticket Publication TicketDevice Initial)
open Youtick.PaymentService (number maxTimeMs isPositiveDecimal statusName availabilityName)
open Youtick.Relayer (JsValue Platform TicketView ticketView)

/-! ## What a token is granted by -/

/-- The final view of one block shows the device on the ticket, and the publication of the
ticket. -/
structure Listing (market : World) (request : PlaybackRequest) (ticket : Ticket)
    (publication : Publication) (device : TicketDevice) : Prop where
  sold : market.ticket request.ticketId = some ticket
  published : market.contract.publications.get ticket.publicationId = some publication
  listed : device ∈ ticket.devices
  signer : device.sessionPublicKey = request.sessionPublicKey
  paid : ticket.status ≠ .refunded ∧ ticket.status ≠ .voided
  offered : publication.availability ≠ .takedown

/-- The token plays this publication while the device has not expired. -/
structure Granting (market : World) (request : PlaybackRequest) (token : Token) (ticket : Ticket)
    (publication : Publication) (device : TicketDevice) : Prop extends
    Listing market request ticket publication device where
  playback : token.playbackId = publication.playbackId
  unexpired : token.issuedAtMs < device.expiresAtMs
  within : token.expiresAtSeconds * 1000 ≤ device.expiresAtMs

/-- A final read of the request showed the ticket watched. -/
def SeenWatched (past : List World) (seen : List Fact) (number : Nat) (ticketId : String) : Prop :=
  ∃ block market, past[block]? = some market ∧
    (.sawTicket number ticketId block ∈ seen ∨ .sawStatus number ticketId block ∈ seen) ∧
    isSettled (finalTicketStatus market ticketId) = true

/-- A read of the ticket and of its publication at one block that grants the token. -/
def SeenGranting (past : List World) (seen : List Fact) (number : Nat) (request : PlaybackRequest)
    (token : Token) : Prop :=
  ∃ block market ticket publication device, past[block]? = some market ∧
    .sawTicket number request.ticketId block ∈ seen ∧
    .sawPublication number ticket.publicationId block ∈ seen ∧
    Granting market request token ticket publication device

/-- The request is signed, and what it had read when its token was issued grants the token. -/
structure Grant (platform : Platform) (past : List World) (seen : List Fact) (number : Nat)
    (request : PlaybackRequest) (signature : String) (token : Token) : Prop where
  signed : verifyEd25519Signature platform request.sessionPublicKey signature
    (canonicalMessage request) = .ok ⟨⟩
  granting : SeenGranting past seen number request token
  watched : SeenWatched past seen number request.ticketId
  lifetime : token.expiresAtSeconds * 1000 ≤ token.issuedAtMs + playbackTtlSeconds * 1000

/-- Every token of the journal has its grant before it. -/
def Lawful (platform : Platform) (past : List World) (journal : List Fact) : Prop :=
  ∀ front rest number request signature token,
    journal = front ++ .issued number request signature token :: rest →
      Grant platform past front number request signature token

section Grants

variable {platform : Platform} {past past' : List World} {seen seen' : List Fact} {n : Nat}
  {request : PlaybackRequest} {signature ticketId : String} {token : Token}

theorem read_mono (hpast : past <+: past') {block : Nat} {market : World}
    (h : past[block]? = some market) : past'[block]? = some market := by
  obtain ⟨later, rfl⟩ := hpast
  obtain ⟨hlt, -⟩ := List.getElem?_eq_some_iff.mp h
  rw [List.getElem?_append_left hlt]
  exact h

theorem SeenWatched.mono (h : SeenWatched past seen n ticketId) (hpast : past <+: past')
    (hseen : seen <+: seen') : SeenWatched past' seen' n ticketId := by
  obtain ⟨block, market, hget, hread, hsettled⟩ := h
  refine ⟨block, market, read_mono hpast hget, ?_, hsettled⟩
  exact hread.imp (fun hmem => hseen.subset hmem) fun hmem => hseen.subset hmem

theorem SeenGranting.mono (h : SeenGranting past seen n request token) (hpast : past <+: past')
    (hseen : seen <+: seen') : SeenGranting past' seen' n request token := by
  obtain ⟨block, market, ticket, publication, device, hget, hticket, hpublication, hgranting⟩ := h
  exact ⟨block, market, ticket, publication, device, read_mono hpast hget, hseen.subset hticket,
    hseen.subset hpublication, hgranting⟩

theorem Grant.mono (h : Grant platform past seen n request signature token)
    (hpast : past <+: past') : Grant platform past' seen n request signature token where
  signed := h.signed
  granting := h.granting.mono hpast List.prefix_rfl
  watched := h.watched.mono hpast List.prefix_rfl
  lifetime := h.lifetime

theorem Lawful.nil : Lawful platform past [] := by
  intro front rest number request signature token h
  simp at h

theorem Lawful.mono (h : Lawful platform past seen) (hpast : past <+: past') :
    Lawful platform past' seen := by
  intro front rest number request signature token hseen
  exact (h front rest number request signature token hseen).mono hpast

/-- One more line: it is no token, or it has its grant. -/
theorem Lawful.snoc (h : Lawful platform past seen) {fact : Fact}
    (hfact : ∀ number request signature token, fact = .issued number request signature token →
      Grant platform past seen number request signature token) :
    Lawful platform past (seen ++ [fact]) := by
  intro front rest number request signature token heq
  rcases List.eq_nil_or_concat rest with rfl | ⟨rest, last, rfl⟩
  · obtain ⟨rfl, hlast⟩ := List.append_inj' heq rfl
    exact hfact number request signature token (List.singleton_inj.mp hlast)
  · rw [List.concat_eq_append, ← List.cons_append, ← List.append_assoc] at heq
    obtain ⟨hseen, -⟩ := List.append_inj' heq rfl
    exact h front rest number request signature token hseen

end Grants

/-! ## The past and the journal grow -/

/-- Every state of the past is reached from a deployment, each later than those before it. -/
structure Chained (host : Host) (w : PlaybackWorld) : Prop where
  initial : ∀ market ∈ w.past, ∃ first, Initial host first ∧ first.Later host market
  ordered : w.past.Pairwise (World.Later host)
  current : ∀ market ∈ w.past, market.Later host w.market
  reached : ∃ first, Initial host first ∧ first.Later host w.market

/-- Nothing is forgotten. -/
structure Extends (w w' : PlaybackWorld) : Prop where
  past : w.past <+: w'.past
  journal : w.journal <+: w'.journal

theorem Extends.refl (w : PlaybackWorld) : Extends w w := ⟨List.prefix_rfl, List.prefix_rfl⟩

theorem Extends.trans {w w' w'' : PlaybackWorld} (h : Extends w w') (h' : Extends w' w'') :
    Extends w w'' := ⟨h.past.trans h'.past, h.journal.trans h'.journal⟩

/-- The invariant of every run. -/
structure Kept (host : Host) (platform : Platform) (w : PlaybackWorld) : Prop where
  chained : Chained host w
  lawful : Lawful platform w.past w.journal

/-- An operation leaves the Market and writes at most one line. -/
structure Reads (w u : PlaybackWorld) : Prop where
  market : u.market = w.market
  past : u.past = w.past
  journal : u.journal = w.journal ∨ ∃ fact, u.journal = w.journal ++ [fact]

section Steps

variable {host : Host} {platform : Platform} {w u : PlaybackWorld} {n : Nat}

theorem Reads.extends (h : Reads w u) : Extends w u := by
  refine ⟨h.past ▸ List.prefix_rfl, ?_⟩
  rcases h.journal with hsame | ⟨fact, hfact⟩
  · rw [hsame]
  · exact ⟨[fact], hfact.symm⟩

theorem Chained.reads (h : Chained host w) (hreads : Reads w u) : Chained host u where
  initial := hreads.past ▸ h.initial
  ordered := hreads.past ▸ h.ordered
  current := by
    rw [hreads.past, hreads.market]
    exact h.current
  reached := hreads.market ▸ h.reached

/-- The line that an operation writes. -/
def Writes (w u : PlaybackWorld) (fact : Fact) : Prop := u.journal = w.journal ++ [fact]

theorem Kept.reads (h : Kept host platform w) (hreads : Reads w u)
    (hfact : ∀ number request signature token,
      Writes w u (.issued number request signature token) →
        Grant platform w.past w.journal number request signature token) : Kept host platform u := by
  refine ⟨h.chained.reads hreads, ?_⟩
  rw [hreads.past]
  rcases hreads.journal with hsame | ⟨fact, hwritten⟩
  · rw [hsame]
    exact h.lawful
  · rw [hwritten]
    refine h.lawful.snoc fun number request signature token heq => ?_
    subst heq
    exact hfact number request signature token hwritten

/-- The Market takes a step. -/
theorem Kept.market {label : Label} {next : World} (h : Kept host platform w)
    (hstep : w.market.exec host label = some next) :
    Kept host platform { w with
      market := next
      past := w.past ++ [next] } := by
  have hlater : ∀ {first : World}, first.Later host w.market → first.Later host next :=
    fun hfirst => hfirst.snoc hstep
  obtain ⟨first, hinitial, hfirst⟩ := h.chained.reached
  refine ⟨⟨?_, ?_, ?_, ⟨first, hinitial, hlater hfirst⟩⟩, h.lawful.mono (List.prefix_append _ _)⟩
  · intro market hmarket
    rcases List.mem_append.mp hmarket with hold | hnew
    · exact h.chained.initial market hold
    · rw [List.mem_singleton] at hnew
      subst hnew
      exact ⟨first, hinitial, hlater hfirst⟩
  · refine List.pairwise_append.mpr ⟨h.chained.ordered, List.pairwise_singleton _ _, ?_⟩
    intro market hmarket market' hmarket'
    rw [List.mem_singleton] at hmarket'
    subst hmarket'
    exact hlater (h.chained.current market hmarket)
  · intro market hmarket
    rcases List.mem_append.mp hmarket with hold | hnew
    · exact hlater (h.chained.current market hold)
    · rw [List.mem_singleton] at hnew
      subst hnew
      exact World.Later.refl host market

theorem kept_start {market : World} (h : Initial host market) :
    Kept host platform (start market) := by
  refine ⟨⟨?_, List.pairwise_singleton _ _, ?_, ⟨market, h, World.Later.refl host market⟩⟩,
    Lawful.nil⟩
  · intro past hpast
    obtain rfl := List.mem_singleton.mp hpast
    exact ⟨past, h, World.Later.refl host past⟩
  · intro past hpast
    obtain rfl := List.mem_singleton.mp hpast
    exact World.Later.refl host past

end Steps

/-- A request relies on the past and the journal to grow, and only lets them grow. -/
def playbackDiscipline (host : Host) (platform : Platform) (signer : OperatorSigner) :
    Discipline (playbackSystem host platform signer) where
  inv := Kept host platform
  meets := fun _ _ => True
  rely := fun _ => Extends
  guar := fun _ => Extends
  rely_refl := fun _ => Extends.refl
  rely_trans := fun _ _ _ _ => Extends.trans
  guar_rely := fun _ _ _ _ _ _ hg => hg
  world := by
    intro change w u hw h
    cases change with
    | market label =>
      obtain ⟨next, hnext, rfl⟩ := Option.map_eq_some_iff.mp h
      exact ⟨hw.market hnext, fun _ => ⟨List.prefix_append _ _, List.prefix_rfl⟩⟩
    | operator object =>
      cases h
      exact ⟨⟨⟨hw.chained.initial, hw.chained.ordered, hw.chained.current, hw.chained.reached⟩,
        hw.lawful⟩, fun _ => ⟨List.prefix_rfl, List.prefix_rfl⟩⟩

/-! ## Operations -/

/-- The token that an operation sends back. -/
def RequestOp.issues : {β : Type} → RequestOp β → Option (PlaybackRequest × String × Token)
  | _, .issue request signature token => some (request, signature, token)
  | _, _ => none

def PlaybackOp.issues {β : Type} : PlaybackOp β → Option (PlaybackRequest × String × Token)
  | .own op => op.issues
  | .operator _ _ => none

section Operations

variable {w u : PlaybackWorld} {i : PlaybackInput} {β : Type} {b : β} {n : Nat} {ticketId : String}

theorem operatorExec_inv {op : OperatorOp β} (h : operatorExec n ticketId op i w = some (b, u)) :
    ∃ market object, w.past[i.block]? = some market ∧
      OperatorOp.exec β op { i.operator with
        holds := isSettled (finalTicketStatus market ticketId)
        ticketStatus := finalTicketStatus market ticketId } w.operator = some (b, object) ∧
      u = { w.log (if readsStatus op then [.sawStatus n ticketId i.block] else []) with
        operator := object } := by
  obtain ⟨market, hmarket, hexec⟩ := Option.bind_eq_some_iff.mp h
  obtain ⟨⟨answer, object⟩, hout, heq⟩ := Option.map_eq_some_iff.mp hexec
  cases heq
  exact ⟨market, object, hmarket, hout, rfl⟩

theorem exec_reads {op : NumberedOp β} (h : exec β op i w = some (b, u)) : Reads w u := by
  obtain ⟨number, op⟩ := op
  cases op with
  | own op =>
    cases op with
    | accept =>
      cases h
      exact ⟨rfl, rfl, .inl rfl⟩
    | now =>
      unfold exec requestExec at h
      dsimp only at h
      split at h
      · cases h
        exact ⟨rfl, rfl, .inl rfl⟩
      · cases h
    | getTicket id =>
      obtain ⟨market, -, heq⟩ := Option.map_eq_some_iff.mp h
      cases heq
      exact ⟨rfl, rfl, .inr ⟨_, rfl⟩⟩
    | getPublication id block =>
      obtain ⟨market, -, heq⟩ := Option.map_eq_some_iff.mp h
      cases heq
      exact ⟨rfl, rfl, .inr ⟨_, rfl⟩⟩
    | providerPolicy playbackId profile =>
      cases h
      exact ⟨rfl, rfl, .inl rfl⟩
    | issue request signature token =>
      cases h
      exact ⟨rfl, rfl, .inr ⟨_, rfl⟩⟩
  | operator id op =>
    obtain ⟨market, object, -, -, rfl⟩ := operatorExec_inv h
    refine ⟨rfl, rfl, ?_⟩
    cases readsStatus op with
    | true => exact .inr ⟨_, rfl⟩
    | false => exact .inl (List.append_nil _)

/-- Only the last operation of a request writes a token. -/
theorem exec_writes {op : NumberedOp β} (h : exec β op i w = some (b, u)) {k : Nat}
    {request : PlaybackRequest} {signature : String} {token : Token}
    (hwrites : Writes w u (.issued k request signature token)) :
    op.number = k ∧ op.op.issues = some (request, signature, token) := by
  have hstill : w.journal ≠ w.journal ++ [.issued k request signature token] :=
    fun heq => List.cons_ne_nil _ _ (List.self_eq_append_right.mp heq)
  have hother : ∀ fact, u.journal = w.journal ++ [fact] → fact = .issued k request signature token :=
    fun fact hfact => List.singleton_inj.mp (List.append_cancel_left (hfact.symm.trans hwrites))
  obtain ⟨number, op⟩ := op
  cases op with
  | own op =>
    cases op with
    | accept =>
      cases h
      exact absurd hwrites hstill
    | now =>
      unfold exec requestExec at h
      dsimp only at h
      split at h
      · cases h
        exact absurd hwrites hstill
      · cases h
    | getTicket id =>
      obtain ⟨market, -, heq⟩ := Option.map_eq_some_iff.mp h
      cases heq
      cases hother _ rfl
    | getPublication id block =>
      obtain ⟨market, -, heq⟩ := Option.map_eq_some_iff.mp h
      cases heq
      cases hother _ rfl
    | providerPolicy playbackId profile =>
      cases h
      exact absurd hwrites hstill
    | issue other signature' token' =>
      cases h
      cases hother _ rfl
      exact ⟨rfl, rfl⟩
  | operator id op =>
    obtain ⟨market, object, -, -, rfl⟩ := operatorExec_inv h
    cases hreads : readsStatus op with
    | true =>
      have hfact := hother (.sawStatus number id i.block) (by rw [hreads]; rfl)
      cases hfact
    | false =>
      refine absurd (Eq.trans ?_ hwrites) hstill
      rw [hreads]
      exact (List.append_nil _).symm

/-- The operator sees the ticket watched in a final state, or its answer leaves that open. -/
theorem operatorExec_unwatched {op : OperatorOp β}
    (h : operatorExec n ticketId op i w = some (b, u)) :
    Unwatched op b ∨ SeenWatched u.past u.journal n ticketId := by
  obtain ⟨market, object, hmarket, hexec, rfl⟩ := operatorExec_inv h
  cases op with
  | effectCheck key =>
    cases hexec
    cases hsettled : isSettled (finalTicketStatus market ticketId) with
    | false => exact .inl rfl
    | true =>
      refine .inr ⟨i.block, market, hmarket, .inr ?_, hsettled⟩
      exact List.mem_append_right _ (List.mem_singleton_self _)
  | openRecord key payloadSha256 method =>
    refine .inl fun hmethod record => ?_
    subst hmethod
    exact openRecord_unwatched (Option.some.inj hexec) record
  | _ => exact .inl trivial

end Operations

/-! ## The decision -/

/-- The decision was taken on a listing: it plays its publication until its device expires. -/
structure Decided (market : World) (request : PlaybackRequest) (decision : Decision)
    (ticket : Ticket) (publication : Publication) (device : TicketDevice) : Prop extends
    Listing market request ticket publication device where
  playback : decision.playbackId = publication.playbackId
  expiry : decision.deviceExpiresAtMs = PaymentService.toDouble device.expiresAtMs
  kind : decision.kind = .play → isSettled (some (statusName ticket.status)) = true

section Decision

variable {market : World} {request : PlaybackRequest} {decision : Decision} {ticket : Ticket}
  {publication : Publication} {device : TicketDevice} {nowMs : Nat}

/-- A device that counts as unexpired is on the ticket. -/
theorem deviceExpiry_listed {key : String} (h : nowMs < deviceExpiry (ticketView ticket) key) :
    ∃ device ∈ ticket.devices, device.sessionPublicKey = key ∧
      deviceExpiry (ticketView ticket) key = PaymentService.toDouble device.expiresAtMs := by
  unfold deviceExpiry at h ⊢
  cases hfind : (ticketView ticket).devices.find?
      fun device => decide (device.sessionPublicKey = key) with
  | none =>
    rw [hfind] at h
    exact absurd h (Nat.not_lt_zero _)
  | some view =>
    rw [hfind] at h
    dsimp only at h ⊢
    have hkey : view.sessionPublicKey = key := by simpa using List.find?_some hfind
    obtain ⟨device, hdevice, rfl⟩ := List.mem_map.mp (List.mem_of_find?_eq_some hfind)
    split at h
    · next hdecimal =>
        refine ⟨device, hdevice, hkey, ?_⟩
        rw [if_pos hdecimal]
        exact PaymentService.number_decimal device.expiresAtMs
    · exact absurd h (Nat.not_lt_zero _)

theorem playable_status {status : MarketV2.TicketStatus} (h : statusName status ∈ playableStatuses) :
    status ≠ .refunded ∧ status ≠ .voided ∧
      (status ≠ .purchased → isSettled (some (statusName status)) = true) := by
  cases status with
  | purchased => exact ⟨nofun, nofun, fun hnot => absurd rfl hnot⟩
  | watched | watchedInEscrow | released => exact ⟨nofun, nofun, fun _ => rfl⟩
  | refunded | voided => exact absurd h (by decide)

theorem decideTicketPlayback_decided {offered : Option PublicationView}
    (hoffered : ∀ ticket, market.ticket request.ticketId = some ticket →
      offered = (market.contract.publications.get ticket.publicationId).map publicationView)
    (h : decideTicketPlayback ((market.ticket request.ticketId).map ticketView) offered request
      nowMs = .ok decision) :
    ∃ ticket publication device, Decided market request decision ticket publication device := by
  unfold decideTicketPlayback at h
  simp only [bind_eq_ok, expect_eq_ok, require_eq_ok, pure_eq_ok] at h
  obtain ⟨view, hview, published, hpublished, -, ⟨-, hstatus, -, havailable⟩, -, hnow, rfl⟩ := h
  obtain ⟨ticket, hticket, rfl⟩ := Option.map_eq_some_iff.mp hview
  rw [hoffered ticket hticket] at hpublished
  obtain ⟨publication, hpublication, rfl⟩ := Option.map_eq_some_iff.mp hpublished
  obtain ⟨device, hdevice, hkey, hexpiry⟩ := deviceExpiry_listed (Nat.not_le.mp hnow)
  refine ⟨ticket, publication, device, ⟨hticket, hpublication, hdevice, hkey, ⟨?_, ?_⟩, ?_⟩, rfl,
    hexpiry, ?_⟩
  · exact (playable_status hstatus).1
  · exact (playable_status hstatus).2.1
  · intro hdown
    have havailable : availabilityName publication.availability ∈ playableAvailability := havailable
    rw [hdown] at havailable
    exact absurd havailable (by decide)
  · intro hkind
    refine (playable_status hstatus).2.2 fun hpurchased => ?_
    have hwatch : (ticketView ticket).status = "purchased" := by
      rw [ticketView, hpurchased]
      rfl
    rw [if_pos hwatch] at hkind
    cases hkind

/-- A token that lives on between one second and its whole time ends before its device does. -/
theorem Decided.grants (h : Decided market request decision ticket publication device)
    (hnow : nowMs ≤ maxTimeMs) (hlive : 1 ≤ (decision.deviceExpiresAtMs - nowMs) / 1000) :
    Granting market request ⟨decision.playbackId, nowMs, nowMs / 1000 +
      min playbackTtlSeconds ((decision.deviceExpiresAtMs - nowMs) / 1000)⟩
      ticket publication device := by
  rw [h.expiry] at hlive ⊢
  by_cases hsmall : device.expiresAtMs < 2 ^ 53
  · rw [PaymentService.toDouble_of_lt hsmall] at hlive ⊢
    refine ⟨h.toListing, h.playback, by dsimp only; omega, ?_⟩
    dsimp only
    omega
  · -- an expiry that is rounded lies beyond the last time of the clock
    unfold maxTimeMs at hnow
    refine ⟨h.toListing, h.playback, by dsimp only; omega, ?_⟩
    dsimp only [playbackTtlSeconds]
    omega

end Decision

/-! ## The program of a request -/

/-- A part of a request that ends with a value leaves `P`; nothing is asked of its errors. -/
def Ends {α : Type} (P : α → PlaybackWorld → Prop) : Except String α → PlaybackWorld → Prop
  | .ok a, w => P a w
  | .error _, _ => True

/-- The operations of request number `n`. -/
def numbered {α : Type} (n : Nat) (p : PlaybackHandler α) : Handler NumberedOp String α :=
  p.lift fun op => ⟨n, op⟩

theorem numbered_bind {α β : Type} (n : Nat) (p : PlaybackHandler α) (f : α → PlaybackHandler β) :
    numbered n (p >>= f) = numbered n p >>= fun a => numbered n (f a) := Handler.lift_bind _ p f

theorem numbered_perform {α : Type} (n : Nat) (code : String) (op : PlaybackOp α) :
    numbered n (Handler.perform code op) = Handler.perform code ⟨n, op⟩ := rfl

theorem numbered_ofExcept {α : Type} (n : Nat) (x : Except String α) :
    numbered n (Handler.ofExcept x) = Handler.ofExcept x := Handler.lift_ofExcept _ x

section Program

variable {host : Host} {platform : Platform} {signer : OperatorSigner} {incoming : Incoming}
  {env : PlaybackEnv} {n : Nat} {s : PlaybackWorld} {τ : Type}

/-- The rule for an operation of a request: a token needs its grant. -/
theorem perform_safe {β : Type} {P : τ → PlaybackWorld → Prop} {code : String} {op : PlaybackOp β}
    {f : β → Handler NumberedOp String τ}
    (hissue : ∀ t, Extends s t → ∀ request signature token,
      op.issues = some (request, signature, token) →
        Grant platform t.past t.journal n request signature token)
    (h : ∀ t i b u, Extends s t → exec β ⟨n, op⟩ i t = some (b, u) → Extends t u →
      Kept host platform u →
        (playbackDiscipline host platform signer).Safe incoming (Ends P) (f b) u) :
    (playbackDiscipline host platform signer).Safe incoming (Ends P)
      (Handler.perform code ⟨n, op⟩ >>= f) s := by
  refine Discipline.Safe.perform fun t hst ht => ⟨trivial, fun i b u _ hexec => ?_⟩
  have hreads := exec_reads hexec
  have hkept : Kept host platform u := by
    refine ht.reads hreads fun number request signature token hwrites => ?_
    obtain ⟨rfl, hop⟩ := exec_writes hexec hwrites
    exact hissue t hst request signature token hop
  exact ⟨hkept, hreads.extends, h t i b u hst hexec hreads.extends hkept, trivial⟩

/-- Whatever the operator does for the ticket, a value that only comes of a ticket seen watched
comes after a final read. -/
theorem operator_safe {α : Type} {p : OperatorHandler α} {P : α → Prop} {ticketId : String}
    (h : p.Yields Unwatched P ∨ SeenWatched s.past s.journal n ticketId) :
    (playbackDiscipline host platform signer).Safe incoming
      (Ends fun a t => P a ∨ SeenWatched t.past t.journal n ticketId)
      (numbered n (p.lift (.operator ticketId))) s := by
  induction p generalizing s with
  | done a => exact h
  | raise e => trivial
  | act op next onError ihNext ihError =>
    intro t hst ht
    have hwaited : (Handler.act op next onError).Yields Unwatched P ∨
        SeenWatched t.past t.journal n ticketId :=
      h.imp_right fun hseen => hseen.mono hst.past hst.journal
    refine ⟨ihError (hwaited.imp_left And.right), fun i b u _ hexec => ?_⟩
    change exec _ ⟨n, .operator ticketId op⟩ i t = some (b, u) at hexec
    have hreads := exec_reads hexec
    have hkept : Kept host platform u := by
      refine ht.reads hreads fun number request signature token hwrites => ?_
      cases (exec_writes hexec hwrites).2
    have hgrown := hreads.extends
    refine ⟨hkept, hgrown, ihNext b ?_, ihError ?_⟩
    · rcases hwaited with hyields | hseen
      · exact (operatorExec_unwatched hexec).imp_left (hyields.1 b)
      · exact .inr (hseen.mono hgrown.past hgrown.journal)
    · exact hwaited.imp And.right fun hseen => hseen.mono hgrown.past hgrown.journal

/-- The operator's answer is not that the ticket is watched. -/
def NotWatched (result : Result OutboxAnswer) : Prop :=
  ∀ answer, result = .ok answer → answer.status ≠ 200

/-- `mark_watched` answers with 200 only after a final read of this request. -/
theorem forwardMarkWatched_safe {ticketId : String} :
    (playbackDiscipline host platform signer).Safe incoming
      (Ends fun result t => NotWatched result ∨ SeenWatched t.past t.journal n ticketId)
      (numbered n (forwardMarkWatched platform signer env ticketId)) s := by
  unfold forwardMarkWatched
  dsimp only
  split
  · trivial
  · rw [numbered_bind, numbered_perform]
    refine perform_safe (fun _ _ _ _ _ hop => nomatch hop) fun t i b u _ _ _ hu => ?_
    rw [numbered_bind]
    refine Discipline.Safe.bind (operator_safe (P := NotWatched) (.inl ?_)) hu ?_ fun _ _ _ _ => trivial
    · -- an error of the operator is no answer with 200
      refine Handler.Yields.rescue ?_ fun code answer hanswer => nomatch hanswer
      refine (processCall_yields rfl).bind fun answer hanswer other hother => ?_
      cases hother
      exact hanswer
    · intro result v hv hresult
      rw [numbered_bind, numbered_perform]
      refine perform_safe (fun _ _ _ _ _ hop => nomatch hop) fun t i b u hvt _ htu _ => ?_
      have hgrown := hvt.trans htu
      exact hresult.imp_right fun hseen => hseen.mono hgrown.past hgrown.journal

theorem requireWatched_safe {ticketId : String} (hs : Kept host platform s) :
    (playbackDiscipline host platform signer).Safe incoming
      (Ends fun _ t => SeenWatched t.past t.journal n ticketId)
      (numbered n (requireWatched platform signer env ticketId)) s := by
  unfold requireWatched
  rw [numbered_bind]
  refine Discipline.Safe.bind forwardMarkWatched_safe hs ?_ fun _ _ _ _ => trivial
  intro result t ht hresult
  cases result with
  | error code => trivial
  | ok answer =>
    dsimp only
    split
    · next hstatus => exact hresult.resolve_left fun hnot => hnot answer rfl hstatus
    · trivial

/-- A read of the ticket and of its publication at one block that the decision was taken on. -/
def SeenDecided (past : List World) (seen : List Fact) (number : Nat) (request : PlaybackRequest)
    (decision : Decision) : Prop :=
  ∃ block market ticket publication device, past[block]? = some market ∧
    .sawTicket number request.ticketId block ∈ seen ∧
    .sawPublication number ticket.publicationId block ∈ seen ∧
    Decided market request decision ticket publication device

theorem SeenDecided.mono {past past' : List World} {seen seen' : List Fact}
    {request : PlaybackRequest} {decision : Decision}
    (h : SeenDecided past seen n request decision) (hpast : past <+: past')
    (hseen : seen <+: seen') : SeenDecided past' seen' n request decision := by
  obtain ⟨block, market, ticket, publication, device, hget, hticket, hpublication, hdecided⟩ := h
  exact ⟨block, market, ticket, publication, device, read_mono hpast hget, hseen.subset hticket,
    hseen.subset hpublication, hdecided⟩

/-- A signed request for a ticket seen watched, on whose views the decision was taken, gets only
tokens that are granted. -/
theorem signToken_safe {request : PlaybackRequest} {signature profile : String}
    {decision : Decision}
    (hsigned : verifyEd25519Signature platform request.sessionPublicKey signature
      (canonicalMessage request) = .ok ⟨⟩)
    (hdecided : SeenDecided s.past s.journal n request decision)
    (hwatched : SeenWatched s.past s.journal n request.ticketId) :
    (playbackDiscipline host platform signer).Safe incoming (Ends fun _ _ => True)
      (numbered n (signToken request signature profile decision)) s := by
  unfold signToken
  rw [numbered_bind, numbered_perform]
  refine perform_safe (fun _ _ _ _ _ hop => nomatch hop) fun t i policy u hst _ htu _ => ?_
  rw [numbered_bind, numbered_ofExcept]
  refine Discipline.Safe.ofExcept (fun _ _ => ?_) fun _ _ => trivial
  rw [numbered_bind, numbered_perform]
  refine perform_safe (fun _ _ _ _ _ hop => nomatch hop) fun t' i nowMs u' hut hexec htu' _ => ?_
  dsimp only
  split
  · trivial
  · next hlive =>
      have hnow : nowMs ≤ maxTimeMs := by
        unfold exec requestExec at hexec
        dsimp only at hexec
        split at hexec
        · next hle =>
            cases hexec
            exact hle
        · cases hexec
      have hgrown := ((hst.trans htu).trans hut).trans htu'
      refine perform_safe (f := Handler.done) ?_ fun _ _ _ _ _ _ _ _ => trivial
      intro v huv other signature' token htoken
      cases htoken
      have hall := hgrown.trans huv
      obtain ⟨block, market, ticket, publication, device, hget, hticket, hpublication, hdecided⟩ :=
        hdecided.mono hall.past hall.journal
      refine ⟨hsigned, ⟨block, market, ticket, publication, device, hget, hticket, hpublication,
        hdecided.grants hnow (Nat.not_lt.mp hlive)⟩, hwatched.mono hall.past hall.journal, ?_⟩
      dsimp only [playbackTtlSeconds]
      omega

/-- The publication is read at the block of the ticket. -/
theorem readPublication_safe {id : String} {block : Nat} {market : World} {ticket : Option TicketView}
    (hget : s.past[block]? = some market)
    (hticket : ticket = (market.ticket id).map ticketView) :
    (playbackDiscipline host platform signer).Safe incoming
      (Ends fun offered t => ∀ sold, market.ticket id = some sold →
        offered = (market.contract.publications.get sold.publicationId).map publicationView ∧
          .sawPublication n sold.publicationId block ∈ t.journal)
      (numbered n (readPublication ticket block)) s := by
  subst hticket
  cases hsold : market.ticket id with
  | none => exact fun sold h => nomatch h
  | some sold =>
    refine perform_safe (f := Handler.done) (fun _ _ _ _ _ hop => nomatch hop) ?_
    intro t i b u hst hexec _ _ other hother
    cases hother
    obtain ⟨market', hmarket', heq⟩ := Option.map_eq_some_iff.mp hexec
    obtain rfl : market = market' :=
      Option.some.inj ((read_mono hst.past hget).symm.trans hmarket')
    cases heq
    exact ⟨rfl, List.mem_append_right _ (List.mem_singleton_self _)⟩

theorem issueTicketPlaybackToken_safe {body : JsValue} :
    (playbackDiscipline host platform signer).Safe incoming (Ends fun _ _ => True)
      (numbered n (issueTicketPlaybackToken platform signer env body)) s := by
  unfold issueTicketPlaybackToken
  rw [numbered_bind, numbered_perform]
  refine perform_safe (fun _ _ _ _ _ hop => nomatch hop) fun _ _ nowMs s₁ _ _ _ _ => ?_
  rw [numbered_bind, numbered_ofExcept]
  refine Discipline.Safe.ofExcept ?_ fun _ _ => trivial
  rintro ⟨request, signature⟩ -
  dsimp only
  rw [numbered_bind, numbered_ofExcept]
  refine Discipline.Safe.ofExcept (fun _ hsigned => ?_) fun _ _ => trivial
  rw [numbered_bind, numbered_perform]
  refine perform_safe (fun _ _ _ _ _ hop => nomatch hop) ?_
  rintro s₂ i ⟨view, block⟩ s₃ - hexec - hs₃
  -- the ticket was read from a state of the past
  obtain ⟨market, hget, hread⟩ := Option.map_eq_some_iff.mp hexec
  obtain ⟨hanswer, hlogged⟩ := Prod.mk.inj hread
  obtain ⟨hview, rfl⟩ := Prod.mk.inj hanswer
  have hget₃ : s₃.past[i.block]? = some market := by
    rw [← hlogged]
    exact hget
  have hsaw : .sawTicket n request.ticketId i.block ∈ s₃.journal := by
    rw [← hlogged]
    exact List.mem_append_right _ (List.mem_singleton_self _)
  dsimp only
  rw [numbered_bind]
  refine Discipline.Safe.bind (Discipline.Safe.trail (A := Extends) Extends.refl
    (fun _ _ _ => Extends.trans) (fun _ _ h => h) (fun _ _ h => h)
    (readPublication_safe hget₃ hview.symm)) hs₃ ?_ fun _ _ _ _ => trivial
  rintro offered s₄ - ⟨hoffered, hext₄⟩
  rw [numbered_bind, numbered_perform]
  refine perform_safe (fun _ _ _ _ _ hop => nomatch hop) fun s₅ _ nowMs' s₆ hext₅ _ hext₆ hs₆ => ?_
  have hext := hext₅.trans hext₆
  rw [numbered_bind, numbered_ofExcept]
  refine Discipline.Safe.ofExcept (fun decision hdecision => ?_) fun _ _ => trivial
  subst hview
  obtain ⟨ticket, publication, device, hdecided⟩ :=
    decideTicketPlayback_decided (fun sold hsold => (hoffered sold hsold).1) hdecision
  have hget₆ := read_mono (hext₄.trans hext).past hget₃
  have hsaw₆ := (hext₄.trans hext).journal.subset hsaw
  have hseen : SeenDecided s₆.past s₆.journal n request decision :=
    ⟨i.block, market, ticket, publication, device, hget₆, hsaw₆,
      hext.journal.subset (hoffered ticket hdecided.sold).2, hdecided⟩
  cases hkind : decision.kind with
  | play =>
    refine signToken_safe hsigned hseen ⟨i.block, market, hget₆, .inl hsaw₆, ?_⟩
    rw [finalTicketStatus, hdecided.sold]
    exact hdecided.kind hkind
  | watch =>
    dsimp only
    rw [numbered_bind]
    refine Discipline.Safe.bind (Discipline.Safe.trail (A := Extends) Extends.refl
      (fun _ _ _ => Extends.trans) (fun _ _ h => h) (fun _ _ h => h)
      (requireWatched_safe hs₆)) hs₆ ?_ fun _ _ _ _ => trivial
    rintro _ s₇ - ⟨hwatched, hext₇⟩
    exact signToken_safe hsigned (hseen.mono hext₇.past hext₇.journal) hwatched

/-- Every request is safe. -/
theorem handle_safe (incoming : Incoming) (s : PlaybackWorld) :
    (playbackDiscipline host platform signer).Safe incoming Discipline.Anywhere
      ((playbackSystem host platform signer).handle incoming) s := by
  refine Discipline.Safe.mono (Q := Ends fun _ _ => True) ?_ fun _ _ _ => trivial
  apply perform_safe
  · intro _ _ _ _ _ hop
    cases hop
  · intro _ _ n u _ _ _ _
    exact issueTicketPlaybackToken_safe

end Program

end Playback

end Youtick.Bridge
