import Youtick.Ckd.Contract

/-!
# ckd-gate: keys are released to their owner

Every waiting check goes back to a `request_key` call, and the derivation it waits for is the one of
the subject its token decodes to. The callback decodes the same token, so the subject it verifies is
the subject of the derivation, whatever was linked or unlinked in between; links are read when the
callback runs.
-/

set_option autoImplicit false

namespace Youtick.Ckd

open Youtick.Lib

theorem derivationPath_injective {account account' : AccountId}
    (h : derivationPath account = derivationPath account') : account = account' := by
  have htext := congrArg String.toList h
  simp only [derivationPath, String.toList_append] at htext
  exact String.toList_inj.mp (List.append_cancel_left htext)

/-! ## One token, one subject -/

section Token

variable {host : Host} {jwt issuer sub : String}

/-- A token that verifies decodes to the verified subject. -/
theorem unverifiedSub_of_verifyToken {keys : List JwtPublicKey} {clientId nonce : String} {now : Nat}
    (h : verifyToken host jwt keys issuer clientId nonce now = .ok sub) :
    unverifiedSub host jwt issuer = .ok sub := by
  simp only [verifyToken, bind_eq_ok, require_eq_ok, pure_eq_ok] at h
  obtain ⟨-, -, ⟨header, payload, signature⟩, hjwt, -, -, -, -, -, -, -, -, -, -, -, -, bytes,
    hbytes, claims, hclaims, -, hissuer, -, -, -, -, -, -, -, -, -, hsub, rfl⟩ := h
  simp only [unverifiedSub, bind_eq_ok, require_eq_ok, pure_eq_ok]
  exact ⟨_, hjwt, bytes, hbytes, claims, hclaims, ⟨⟩, hissuer, ⟨⟩, hsub, rfl⟩

end Token

/-! ## The configuration -/

/-- Everything but the links. -/
structure SameConfig (s s' : CkdGate) : Prop where
  mpc : s'.mpc = s.mpc
  fastAuth : s'.fastAuth = s.fastAuth
  fastAuthDomain : s'.fastAuthDomain = s.fastAuthDomain
  issuer : s'.issuer = s.issuer
  clientId : s'.clientId = s.clientId
  ckdDomain : s'.ckdDomain = s.ckdDomain

/-- The derivation that gives a subject's own account. -/
def fastAuthDerivation (s : CkdGate) (sub : String) : DerivedKeyRequest where
  path := fastAuthPath s.issuer sub
  predecessor := s.fastAuth
  domainId := s.fastAuthDomain

theorem SameConfig.refl (s : CkdGate) : SameConfig s s := ⟨rfl, rfl, rfl, rfl, rfl, rfl⟩

theorem SameConfig.fastAuthDerivation {s s' : CkdGate} (h : SameConfig s s') (sub : String) :
    fastAuthDerivation s' sub = fastAuthDerivation s sub := by
  rw [Ckd.fastAuthDerivation, h.issuer, h.fastAuth, h.fastAuthDomain, Ckd.fastAuthDerivation]

/-! ## What one step does -/

/-- What a successful call does. -/
inductive CallEffect (env : Env) (s : CkdGate) : Call → Outcome → Prop where
  | request {jwt : String} {app : AppPublicKeyPV} {accountId : Option AccountId} {sub : String}
      (hsub : unverifiedSub env.toHost jwt s.issuer = .ok sub) :
      CallEffect env s (.requestKey jwt app accountId)
        { state := s
          promises := [.tokenCheck s.guard s.mpc ⟨fastAuthDerivation s sub, jwt, app, accountId⟩] }
  | own {app : AppPublicKeyPV} {logs : List String} :
      CallEffect env s (.requestKeyAsAccount app)
        { state := s
          logs := logs
          promises := [requestCkd s env.predecessorAccountId app] }
  | links {call : Call} {o : Outcome} (hconfig : SameConfig s o.state)
      (hnone : ∀ p ∈ o.promises, ∃ receiverId amount, p = .transfer receiverId amount) :
      CallEffect env s call o

theorem call_effect {env : Env} {s : CkdGate} {call : Call} {o : Outcome}
    (h : call.run env s = .ok o) : CallEffect env s call o := by
  simp only [Call.run, bind_eq_ok] at h
  obtain ⟨-, -, hbody⟩ := h
  cases call with
  | requestKey jwt app accountId =>
    simp only [callBody, requestKey, bind_eq_ok, pure_eq_ok] at hbody
    obtain ⟨-, -, sub, hsub, rfl⟩ := hbody
    exact .request hsub
  | requestKeyAsAccount app =>
    obtain rfl := Except.ok.inj hbody
    exact .own
  | linkIdentity identityHash =>
    simp only [callBody, linkIdentity, bind_eq_ok, pure_eq_ok] at hbody
    obtain ⟨-, -, -, -, rfl⟩ := hbody
    refine .links ⟨rfl, rfl, rfl, rfl, rfl, rfl⟩ fun p hp => ?_
    dsimp only at hp
    split at hp
    · cases hp
    · exact ⟨_, _, List.mem_singleton.mp hp⟩
  | unlinkIdentity identityHash =>
    simp only [callBody, unlinkIdentity] at hbody
    split at hbody
    · obtain rfl := Except.ok.inj hbody
      refine .links ⟨rfl, rfl, rfl, rfl, rfl, rfl⟩ fun p hp => ?_
      dsimp only at hp
      split at hp
      · cases hp
      · exact ⟨_, _, List.mem_singleton.mp hp⟩
    · obtain rfl := Except.ok.inj hbody
      exact .links (.refl s) fun p hp => nomatch hp
  | onToken jwt app accountId =>
    simp only [callBody, onToken, bind_eq_ok, expect_eq_ok] at hbody
    obtain ⟨-, -, _, hnone, -⟩ := hbody
    cases hnone

/-- What a successful callback does: one request, for the account of the derived key or for an
account that the verified identity is linked to. -/
theorem onToken_effect {env : Env} {s : CkdGate} {check : TokenCheck}
    {keys : Option (List JwtPublicKey)} {derived : Option String} {o : Outcome}
    (h : onToken env s check.jwt check.appPublicKey check.accountId keys derived = .ok o) :
    o.state = s ∧ ∃ keys' derived' sub account, keys = some keys' ∧ derived = some derived' ∧
      verifyToken env.toHost check.jwt keys' s.issuer s.clientId
        (expectedNonce env.toHost check.appPublicKey) (env.blockTimestampMs / 1000) = .ok sub ∧
      (implicitAccount env.toHost derived' = .ok account ∨
        (identityHash env.toHost s.issuer sub, account) ∈ s.links) ∧
      o.promises = [requestCkd s account check.appPublicKey] := by
  simp only [onToken, bind_eq_ok, expect_eq_ok, pure_eq_ok] at h
  obtain ⟨-, -, keys', hkeys, derived', hderived, sub, hverify, own, hown, ⟨account, rule⟩,
    hselect, rfl⟩ := h
  refine ⟨rfl, keys', derived', sub, account, hkeys, hderived, hverify, ?_, rfl⟩
  unfold selectAccount at hselect
  split at hselect
  · obtain ⟨rfl, -⟩ := Prod.mk.inj (Except.ok.inj hselect)
    exact Or.inl hown
  · split at hselect
    · next requested heq =>
        obtain ⟨rfl, -⟩ := Prod.mk.inj (Except.ok.inj hselect)
        exact Or.inl (heq ▸ hown)
    · simp only [bind_eq_ok, require_eq_ok, pure_eq_ok, Prod.mk.injEq] at hselect
      obtain ⟨-, hlinked, rfl, -⟩ := hselect
      exact Or.inr (of_decide_eq_true hlinked)

/-! ## Runs -/

section Runs

variable {host : Host}

/-- A waiting check is what a `request_key` call of the run scheduled: it waits for the derivation of
the subject its token decodes to. -/
structure Requested (host : Host) (s : CkdGate) (tr : List (Transition World Label))
    (check : TokenCheck) (sub : String) : Prop where
  subject : unverifiedSub host check.jwt s.issuer = .ok sub
  derive : check.derive = fastAuthDerivation s sub
  call : ∃ y ∈ tr, ∃ ctx,
    y.label = .call ctx (.requestKey check.jwt check.appPublicKey check.accountId)

theorem Requested.mono {s s' : CkdGate} {tr : List (Transition World Label)}
    {x : Transition World Label} {check : TokenCheck} {sub : String} (hconfig : SameConfig s s')
    (h : Requested host s tr check sub) : Requested host s' (tr ++ [x]) check sub where
  subject := by
    rw [hconfig.issuer]
    exact h.subject
  derive := by
    rw [hconfig.fastAuthDerivation]
    exact h.derive
  call := by
    obtain ⟨y, hy, hcall⟩ := h.call
    exact ⟨y, List.mem_append_left _ hy, hcall⟩

/-- How the request for an account's key came to be sent by the step `x` after the run `a`. -/
inductive Released (host : Host) (a : List (Transition World Label)) (x : Transition World Label)
    (request : CkdRequest) : AccountId → Prop where
  /-- The account asked itself. -/
  | caller {ctx : Context} {app : AppPublicKeyPV}
      (hlabel : x.label = .call ctx (.requestKeyAsAccount app)) :
      Released host a x request ctx.predecessorAccountId
  /-- A token of the account's own identity, or of one linked to it now, was verified. -/
  | token {ctx : Context} {i : Nat} {keys : List JwtPublicKey} {check : TokenCheck} {sub : String}
      {account : AccountId} (hlabel : x.label = .onToken ctx i (some keys) true)
      (hcheck : x.pre.pending[i]? = some check)
      (requested : Requested host x.pre.contract a check sub)
      (verified : verifyToken host check.jwt keys x.pre.contract.issuer x.pre.contract.clientId
        (expectedNonce host check.appPublicKey) (ctx.blockTimestampMs / 1000) = .ok sub)
      (key : request.appPublicKey = check.appPublicKey)
      (owner : implicitAccount host (host.derivedPublicKey (fastAuthDerivation x.pre.contract sub)) =
          .ok account ∨
        (identityHash host x.pre.contract.issuer sub, account) ∈ x.pre.contract.links) :
      Released host a x request account

/-- What a step does to the configuration, the waiting checks and the requests sent. -/
theorem step_effect {w w' : World} {label : Label} (h : worldStep host w label w') :
    SameConfig w.contract w'.contract ∧
    (∀ check ∈ w'.pending, check ∈ w.pending ∨ ∃ ctx sub,
      label = .call ctx (.requestKey check.jwt check.appPublicKey check.accountId) ∧
      unverifiedSub host check.jwt w.contract.issuer = .ok sub ∧
      check.derive = fastAuthDerivation w.contract sub) ∧
    (w'.sent = w.sent ∨ ∃ account app, w'.sent = w.sent ++
        [⟨derivationPath account, w.contract.ckdDomain, app⟩] ∧
      ((∃ ctx, label = .call ctx (.requestKeyAsAccount app) ∧ ctx.predecessorAccountId = account) ∨
        ∃ ctx i keys check sub, label = .onToken ctx i (some keys) true ∧
          w.pending[i]? = some check ∧ check.appPublicKey = app ∧
          verifyToken host check.jwt keys w.contract.issuer w.contract.clientId
            (expectedNonce host app) (ctx.blockTimestampMs / 1000) = .ok sub ∧
          (implicitAccount host (host.derivedPublicKey check.derive) = .ok account ∨
            (identityHash host w.contract.issuer sub, account) ∈ w.contract.links))) := by
  cases label with
  | call ctx call =>
    simp only [worldStep, ExecStep, World.exec] at h
    split at h
    · obtain rfl := Option.some.inj h
      unfold World.receive
      cases hrun : call.run ⟨host, ctx⟩ w.contract with
      | error message => exact ⟨.refl _, fun check hcheck => Or.inl hcheck, Or.inl rfl⟩
      | ok o =>
        cases call_effect hrun with
        | @request jwt app accountId sub hsub =>
          refine ⟨.refl _, fun check hcheck => ?_, Or.inl (List.append_nil _)⟩
          rcases List.mem_append.mp hcheck with hold | hnew
          · exact Or.inl hold
          · obtain rfl := List.mem_singleton.mp hnew
            exact Or.inr ⟨ctx, sub, rfl, hsub, rfl⟩
        | @own app logs =>
          refine ⟨.refl _, fun check hcheck => Or.inl ?_,
            Or.inr ⟨_, app, rfl, Or.inl ⟨ctx, rfl, rfl⟩⟩⟩
          exact (List.append_nil w.pending) ▸ hcheck
        | links hconfig hnone =>
          have hcheck : o.promises.filterMap Promise.check? = [] :=
            List.filterMap_eq_nil_iff.mpr fun p hp => by
              obtain ⟨receiverId, amount, rfl⟩ := hnone p hp
              rfl
          have hrequest : o.promises.filterMap Promise.request? = [] :=
            List.filterMap_eq_nil_iff.mpr fun p hp => by
              obtain ⟨receiverId, amount, rfl⟩ := hnone p hp
              rfl
          dsimp only
          rw [hcheck, hrequest, List.append_nil, List.append_nil]
          exact ⟨hconfig, fun check hcheck => Or.inl hcheck, Or.inl rfl⟩
    · cases h
  | onToken ctx i keys derived =>
    simp only [worldStep, ExecStep, World.exec] at h
    split at h
    · next check hcheck =>
        split at h
        · obtain rfl := Option.some.inj h
          unfold World.receive
          split
          · next o hrun =>
              obtain ⟨hstate, keys', derived', sub, account, hkeys, hderived, hverify, howner,
                hpromises⟩ := onToken_effect hrun
              have hmatch : derived = true ∧ host.derivedPublicKey check.derive = derived' := by
                split at hderived
                · next htrue => exact ⟨htrue, Option.some.inj hderived⟩
                · cases hderived
              obtain ⟨rfl, rfl⟩ := hmatch
              obtain rfl := hkeys
              dsimp only
              rw [hstate, hpromises]
              refine ⟨.refl _, fun other hother => Or.inl ?_,
                Or.inr ⟨account, check.appPublicKey, rfl, Or.inr
                  ⟨ctx, i, keys', check, sub, rfl, hcheck, rfl, hverify, howner⟩⟩⟩
              exact List.mem_of_mem_eraseIdx ((List.append_nil _) ▸ hother)
          · exact ⟨.refl _, fun other hother => Or.inl (List.mem_of_mem_eraseIdx hother),
              Or.inl rfl⟩
        · cases h
    · cases h

/-- Every waiting check was requested. -/
theorem requested {w₀ w : World} {tr : List (Transition World Label)} (hinit : Initial w₀)
    (htr : Trace (worldStep host) w₀ tr w) :
    ∀ check ∈ w.pending, ∃ sub, Requested host w.contract tr check sub := by
  induction htr with
  | nil =>
    cases hinit
    exact fun check hcheck => nomatch hcheck
  | @snoc tr w label w' htr hst ih =>
    intro check hcheck
    obtain ⟨hconfig, hpending, -⟩ := step_effect hst
    rcases hpending check hcheck with hold | ⟨ctx, sub, rfl, hsub, hderive⟩
    · obtain ⟨sub, hsub⟩ := ih check hold
      exact ⟨sub, hsub.mono hconfig⟩
    · refine ⟨sub, ?_, ?_, _, List.mem_append_right _ (List.mem_singleton_self _), ctx, rfl⟩
      · rw [hconfig.issuer]
        exact hsub
      · rw [hconfig.fastAuthDerivation]
        exact hderive

/-- In every run from `new` a step sends the MPC signer at most one request, and a request with the
derivation path of an account is sent because the account called, or because a token was verified
for the subject its derivation was asked for, whose identity is the account's own or linked to it
when the callback runs. -/
theorem keys_released_to_owner {w₀ w : World} {a b : List (Transition World Label)}
    {x : Transition World Label} (hinit : Initial w₀)
    (htr : Trace (worldStep host) w₀ (a ++ x :: b) w) :
    w₀.sent = [] ∧ (x.post.sent = x.pre.sent ∨ ∃ request, x.post.sent = x.pre.sent ++ [request] ∧
      (∃ account, request.derivationPath = derivationPath account) ∧
      ∀ account, request.derivationPath = derivationPath account →
        Released host a x request account) := by
  obtain ⟨ha, hst, -⟩ := htr.at_mem
  refine ⟨by cases hinit; rfl, ?_⟩
  obtain ⟨-, -, hsame | ⟨account, app, hsent, hcause⟩⟩ := step_effect hst
  · exact Or.inl hsame
  · refine Or.inr ⟨_, hsent, ⟨account, rfl⟩, fun other hpath => ?_⟩
    obtain rfl := derivationPath_injective hpath
    rcases hcause with ⟨ctx, hlabel, rfl⟩ | ⟨ctx, i, keys, check, sub, hlabel, hcheck, rfl, hverify,
      howner⟩
    · exact .caller hlabel
    · -- the callback decodes the token the derivation was asked with
      obtain ⟨sub', hrequested⟩ := requested hinit ha check (List.mem_of_getElem? hcheck)
      have hsub := unverifiedSub_of_verifyToken hverify
      obtain rfl := Except.ok.inj (hrequested.subject.symm.trans hsub)
      rw [hrequested.derive] at howner
      exact .token hlabel hcheck hrequested hverify rfl howner

/-- A linked account's key is requested by token. -/
theorem keys_released_linked : ∃ w₀ a x b w, Initial w₀ ∧
    Trace (worldStep Vectors.host) w₀ (a ++ x :: b) w ∧
    w.sent = [⟨"v1/alice.testnet", 2, Vectors.app⟩] ∧
    (x.post.sent = x.pre.sent ∨ ∃ request, x.post.sent = x.pre.sent ++ [request] ∧
      (∃ account, request.derivationPath = derivationPath account) ∧
      ∀ account, request.derivationPath = derivationPath account →
        Released Vectors.host a x request account) := by
  have hrun : (execTrace (World.exec Vectors.host) Vectors.initial Vectors.linkedRequest).map
      (fun r => (r.2.sent, r.1.length)) =
      some ([⟨"v1/alice.testnet", 2, Vectors.app⟩], 3) := by decide +kernel
  obtain ⟨⟨tr, w⟩, hexec, hsent⟩ := Option.map_eq_some_iff.mp hrun
  obtain ⟨hsent, hlength⟩ := Prod.mk.inj hsent
  obtain ⟨a, x, rfl⟩ := List.eq_nil_or_concat tr |>.resolve_left (by rintro rfl; simp at hlength)
  have htr := trace_of_execTrace _ hexec
  rw [List.concat_eq_append] at htr
  have hinit : Initial Vectors.initial := .new _ _ _ _ _ _ _ _
  exact ⟨Vectors.initial, a, x, [], w, hinit, htr, hsent, (keys_released_to_owner hinit htr).2⟩

end Runs

end Youtick.Ckd
