import Youtick.Bridge.StatelessPrograms

/-!
# Bridge: the decisions of stateless playback

Every decision is the one that values decide which were looked up while the request ran, each of them
read for its own source less than its lifetime before the lookup. The lookup may come long before the
decision: a request waits for the chain and the provider in between.
-/

set_option autoImplicit false

namespace Youtick.Bridge.Stateless

open Youtick.Lib
open Youtick.ReadModel (isUrlWord)
open Youtick.Relayer (JsValue JsString Json Platform)

section Program

variable {library : PlaybackLibrary} {env : PlaybackV2Env} {texts : Set String}
  {incoming : Incoming} {n fromMs : Nat} {s : Edge} {request : PlaybackV2Request}

/-- The rule for a part of a program. -/
theorem bind_safe {α τ : Type} {p : EdgeHandler α} {f : α → EdgeHandler τ}
    {P : Result α → Edge → Prop} {Q : Result τ → Edge → Prop} (hs : Kept library env texts s)
    (hp : (edgeDiscipline library env texts).Safe incoming P (numbered n p) s)
    (herr : ∀ code t, Extends s t → P (.error code) t → Q (.error code) t)
    (hok : ∀ a t, Extends s t → Kept library env texts t → P (.ok a) t →
      (edgeDiscipline library env texts).Safe incoming Q (numbered n (f a)) t) :
    (edgeDiscipline library env texts).Safe incoming Q (numbered n (p >>= f)) s := by
  rw [numbered_bind]
  have htrail := Discipline.Safe.trail (D := edgeDiscipline library env texts) (A := Extends)
    Extends.refl (fun _ _ _ => Extends.trans) (fun _ _ h => h) (fun _ _ h => h.1) hp
  apply Discipline.Safe.bind htrail hs
  · rintro a t ht ⟨hend, hst⟩
    exact hok a t hst ht hend
  · rintro code t - ⟨hend, hst⟩
    exact herr code t hst hend

/-! ## From the publication to the policy -/

/-- The provider's policy, from the cache or asked again. -/
theorem policy_safe (hsha : Set.InjOn (digestOf library.platform) texts) {expiresAtMs : Nat}
    {value : Json} {profile : String} (hfrom : fromMs ≤ s.clockMs)
    (hgrant : GrantedBetween library env s.journal n request expiresAtMs fromMs s.clockMs)
    (hpublication : Between library s.journal (.publication request.publicationId)
      (.publication value) fromMs s.clockMs)
    (hcheck : checkPublication env request value.val = .ok profile)
    (hentitled : Between library s.journal
      (.entitlement request.accountId request.publicationId value.val) (.entitled true) fromMs
      s.clockMs) :
    (edgeDiscipline library env texts).Safe incoming
      (AuthorizationEnds library env n request fromMs expiresAtMs)
      (numbered n (do
        let key ← awaitCacheKey env "provider-policy" (policyText false request.playbackId)
        let cached ← lookUp key
        if mediaProfileFamily (some profile) = some .stream then .raise denied
        else match cached with
          | some (.policy preview) => return (profile, preview)
          | _ => do
              let preview ← askProviderPolicy library key false request.playbackId
              return (profile, preview))) s := by
  have hends (policy : Option (Option String)) {t : Edge} (hst : Extends s t)
      (hpolicy : mediaProfileFamily (some profile) ≠ some .stream →
        ∃ atMs, fromMs ≤ atMs ∧ atMs ≤ t.clockMs ∧
          PolicyFrom library t.journal n false request.playbackId fromMs atMs policy) :
      AuthorizationEnds library env n request fromMs expiresAtMs (do
        require (mediaProfileFamily (some profile) ≠ some .stream) denied
        let preview ← expect policy denied
        return (profile, preview)) t := by
    refine .inr ⟨⟨some expiresAtMs, value, true, policy⟩, rfl, ?_, ?_⟩
    · exact consulted_checked (hgrant.mono hst.journal.subset hst.clock)
        (hpublication.mono hst.journal.subset hst.clock) hcheck
        (hentitled.mono hst.journal.subset hst.clock) fun _ => hpolicy
    · rw [decideAuthorization_ok hcheck]
      rfl
  apply awaitCacheKey_safe fun _ _ => .inl ⟨_, by decide, rfl⟩
  intro s₁ hs₁ _ htext
  have hhashed : (Source.policy false request.playbackId).Hashed library texts :=
    policy_hashed request.isPlayback htext
  apply lookUp_safe hsha hhashed fun _ _ => .inl ⟨_, by decide, rfl⟩
  intro s₂ found hs₂ hk₂ hfound
  have hext := hs₁.trans hs₂
  have hfrom₂ := hfrom.trans hext.clock
  split
  · next hstream =>
      -- a Stream publication is refused whatever its policy is
      have h := hends none hext fun hnot => absurd hstream hnot
      rw [require, if_neg (not_not.mpr hstream)] at h
      exact h
  · next hfamily =>
      have hplay (policy : Option (Option String)) {t : Edge} (hst : Extends s t)
          (hpolicy : ∃ atMs, fromMs ≤ atMs ∧ atMs ≤ t.clockMs ∧
            PolicyFrom library t.journal n false request.playbackId fromMs atMs policy) :
          AuthorizationEnds library env n request fromMs expiresAtMs (do
            let preview ← expect policy denied
            return (profile, preview)) t := by
        have h := hends policy hst fun _ => hpolicy
        rw [require, if_pos hfamily] at h
        exact h
      split
      · next preview =>
          have hgrounded := hfound _ rfl
          exact hplay (some preview) hext ⟨s₂.clockMs, hfrom₂, le_rfl, hgrounded⟩
      · apply bind_safe hk₂ (askProviderPolicy_safe hhashed hfrom₂)
        · intro code t hst hcode
          rcases hcode with ⟨failed, hfailed, hsame⟩ | ⟨policy, atMs, hafter, hle, hsame, hpolicy⟩
          · cases hsame
            exact .inl ⟨_, hfailed, rfl⟩
          · have h := hplay _ (hext.trans hst) ⟨atMs, hafter, hle, hpolicy⟩
            rw [← hsame] at h
            exact h
        · intro preview t hst _ hpreview
          rcases hpreview with ⟨failed, -, hsame⟩ | ⟨policy, atMs, hafter, hle, hsame, hpolicy⟩
          · cases hsame
          · have h := hplay _ (hext.trans hst) ⟨atMs, hafter, hle, hpolicy⟩
            rw [← hsame] at h
            exact h

theorem readStatelessPlaybackAuthorization_safe
    (hsha : Set.InjOn (digestOf library.platform) texts) {expiresAtMs : Nat}
    (hs : Kept library env texts s) (hfrom : fromMs ≤ s.clockMs)
    (hgrant : GrantedBetween library env s.journal n request expiresAtMs fromMs s.clockMs) :
    (edgeDiscipline library env texts).Safe incoming
      (AuthorizationEnds library env n request fromMs expiresAtMs)
      (numbered n (readStatelessPlaybackAuthorization library env request)) s := by
  unfold readStatelessPlaybackAuthorization
  apply bind_safe hs (readPublication_safe hsha hfrom)
  · intro code t hst hcode
    rcases hcode with ⟨failed, hfailed, hsame⟩ | ⟨value, block, atMs, hafter, hle, hread, hsame⟩
    · cases hsame
      exact .inl ⟨_, hfailed, rfl⟩
    · cases hcheck : checkPublication env request value.val with
      | ok profile =>
        rw [hcheck] at hsame
        cases hsame
      | error refusal =>
        rw [hcheck] at hsame
        cases hsame
        refine .inr ⟨⟨some expiresAtMs, value, false, none⟩, rfl, ?_,
          (decideAuthorization_error hcheck).symm⟩
        exact consulted_refused (hgrant.mono hst.journal.subset hst.clock)
          ⟨atMs, hafter, hle, hread⟩ hcheck
  · rintro ⟨value, profile, block⟩ t hst ht hread
    rcases hread with ⟨failed, -, hsame⟩ | ⟨other, block', atMs, hafter, hle, hread, hsame⟩
    · cases hsame
    · obtain ⟨rfl, hcheck⟩ : value = other ∧ checkPublication env request value.val =
          .ok profile := by
        cases hcheck : checkPublication env request other.val with
        | error code =>
          rw [hcheck] at hsame
          cases hsame
        | ok profile' =>
          rw [hcheck] at hsame
          cases hsame
          exact ⟨rfl, hcheck⟩
      have hfrom₁ := hfrom.trans hst.clock
      have hgrant₁ := hgrant.mono hst.journal.subset hst.clock
      have hpublication : Between library t.journal (.publication request.publicationId)
          (.publication value) fromMs t.clockMs := ⟨atMs, hafter, hle, hread⟩
      apply bind_safe ht (readEntitlement_safe hsha hfrom₁)
      · intro code u _ hcode
        rcases hcode with ⟨failed, hfailed, hsame⟩ | ⟨_, _, _, _, hsame, _⟩
        · cases hsame
          exact .inl ⟨_, hfailed, rfl⟩
        · cases hsame
      · intro entitled u htu hu hend
        rcases hend with ⟨failed, -, hsame⟩ | ⟨entitled', atMs', hafter', hle', hsame, hread'⟩
        · cases hsame
        · cases hsame
          have hgrant₂ := hgrant₁.mono htu.journal.subset htu.clock
          have hpublication₂ := hpublication.mono htu.journal.subset htu.clock
          have hentitled : Between library u.journal
              (.entitlement request.accountId request.publicationId value.val)
              (.entitled entitled) fromMs u.clockMs := ⟨atMs', hafter', hle', hread'⟩
          apply ofExcept_safe
          · intro _ htrue
            rw [require_eq_ok] at htrue
            subst htrue
            exact policy_safe hsha (hfrom₁.trans htu.clock) hgrant₂ hpublication₂ hcheck hentitled
          · intro code hcode
            refine .inr ⟨⟨some expiresAtMs, value, entitled, none⟩, rfl, ?_, ?_⟩
            · apply consulted_checked hgrant₂ hpublication₂ hcheck hentitled
              intro htrue
              rw [require, if_pos htrue] at hcode
              cases hcode
            · rw [decideAuthorization_ok hcheck]
              dsimp only
              rw [hcode]
              rfl

/-! ## The whole request -/

/-- The token of a request that arrived at a time. -/
def TokenEnds (library : PlaybackLibrary) (env : PlaybackV2Env) (n : Nat)
    (request : PlaybackV2Request) (fromMs : Nat) (outcome : Result Token) (t : Edge) : Prop :=
  Justified library env t.journal n request outcome fromMs t.clockMs

/-- A grant that is refused decides alone. -/
theorem justified_denied {journal : List Fact} {untilMs atMs : Nat} (reads : Reads)
    (hafter : fromMs ≤ atMs) (hle : atMs ≤ untilMs) (hnone : reads.grant = none)
    (h : GrantFrom library env journal n request fromMs atMs none) :
    Justified library env journal n request (.error denied) fromMs untilMs := by
  refine .inr ⟨reads, fromMs, ⟨⟨atMs, hafter, hle, ?_⟩, ?_, ?_, ?_⟩, hafter.trans hle, ?_⟩
  · rw [hnone]
    exact h
  · intro hsome
    rw [hnone] at hsome
    cases hsome
  · intro hsome
    rw [hnone] at hsome
    cases hsome
  · intro hsome
    rw [hnone] at hsome
    cases hsome
  · rw [decidePlayback_eq, hnone]
    rfl

theorem authorizeToken_safe (hsha : Set.InjOn (digestOf library.platform) texts)
    (hs : Kept library env texts s) (hfrom : fromMs ≤ s.clockMs) :
    (edgeDiscipline library env texts).Safe incoming (TokenEnds library env n request fromMs)
      (numbered n (authorizeToken library env request)) s := by
  unfold authorizeToken
  apply bind_safe hs (verifyPlaybackV2Proofs_safe hsha hfrom)
  · intro code t _ hcode
    rcases hcode with ⟨failed, hfailed, hsame⟩ | ⟨grant, atMs, hafter, hle, hsame, hgrant⟩
    · cases hsame
      exact .inl ⟨_, hfailed, rfl⟩
    · cases grant with
      | none =>
        cases hsame
        -- the other values do not matter
        exact justified_denied ⟨none, ⟨.null, trivial⟩, false, none⟩ hafter hle rfl
          hgrant
      | some expiresAtMs => cases hsame
  · intro expiresAtMs t hst ht hgrant
    have hfrom₁ := hfrom.trans hst.clock
    have hgranted : GrantedBetween library env t.journal n request expiresAtMs fromMs t.clockMs := by
      rcases hgrant with ⟨failed, -, hsame⟩ | ⟨grant, atMs, hafter, hle, hsame, hgrant⟩
      · cases hsame
      · cases grant with
        | none => cases hsame
        | some other =>
          cases hsame
          exact ⟨atMs, hafter, hle, hgrant⟩
    apply bind_safe ht (readStatelessPlaybackAuthorization_safe hsha ht hfrom₁ hgranted)
    · intro code u htu hcode
      rcases hcode with ⟨failed, hfailed, hsame⟩ | ⟨reads, hsome, hconsulted, hsame⟩
      · cases hsame
        exact .inl ⟨_, hfailed, rfl⟩
      · refine .inr ⟨reads, fromMs, hconsulted, hfrom₁.trans htu.clock, ?_⟩
        rw [decidePlayback_eq, hsome, ← hsame]
        rfl
    · rintro ⟨profile, preview⟩ u htu hu hend
      rcases hend with ⟨failed, -, hsame⟩ | ⟨reads, hsome, hconsulted, hsame⟩
      · cases hsame
      · have hdecides (nowMs : Nat) : decidePlayback env request reads nowMs =
            tokenFor request profile expiresAtMs preview nowMs := by
          rw [decidePlayback_eq, hsome, ← hsame]
          rfl
        apply now_safe fun _ _ => .inl ⟨_, by decide, rfl⟩
        intro v huv hv
        have hends {outcome : Result Token} {w : Edge} (hvw : Extends v w)
            (houtcome : outcome = tokenFor request profile expiresAtMs preview v.clockMs) :
            TokenEnds library env n request fromMs outcome w := by
          have hext := huv.trans hvw
          refine .inr ⟨reads, v.clockMs, hconsulted.mono hext.journal.subset hext.clock,
            hvw.clock, ?_⟩
          rw [hdecides]
          exact houtcome
        apply ofExcept_safe
        · intro token htoken
          apply own_safe rfl fun _ _ => .inl ⟨_, by decide, rfl⟩
          intro w _ x hvw _ _ hwx _ _
          exact hends (hvw.trans hwx) htoken.symm
        · intro code hcode
          exact hends (Extends.refl v) hcode.symm

/-- What a part leaves that ends with an outcome: an error is an outcome as well. -/
def Settles {α : Type} (P : Result α → Edge → Prop) (x : Result (Result α)) (t : Edge) : Prop :=
  match x with
  | .ok outcome => P outcome t
  | .error code => P (.error code) t

/-- The error of a part becomes its outcome. -/
theorem rescue_safe {α : Type} {p : EdgeHandler (Result α)} {P : Result α → Edge → Prop}
    (hs : Kept library env texts s)
    (hp : (edgeDiscipline library env texts).Safe incoming (Settles P) (numbered n p) s) :
    (edgeDiscipline library env texts).Safe incoming (fun x t => ∀ outcome, x = .ok outcome →
        P outcome t)
      (numbered n (p.rescue fun code => .done (.error code))) s := by
  unfold numbered
  rw [Handler.lift_rescue]
  apply Discipline.Safe.rescue hp hs
  · rintro outcome t - hend other ⟨⟩
    exact hend
  · rintro code t - hend other ⟨⟩
    exact hend

/-- The rule for the last operation: what is decided needs its reasons. -/
theorem decide_safe {decided : Decided}
    (h : ∀ t nowMs, Extends s t → t.clockMs ≤ nowMs →
      FactSound library env t.journal (.decided n decided nowMs)) :
    (edgeDiscipline library env texts).Safe incoming Discipline.Anywhere
      (numbered n (Handler.perform "internal_error" (.own (.decide decided)))) s := by
  intro t hst ht
  refine ⟨trivial, fun i b u _ hexec => ?_⟩
  have hclock := (exec_inv hexec).1
  obtain ⟨hu, htu, hcache, -⟩ := own_step ht hexec fun other hother => by
    cases hother
    exact h t i.nowMs hst hclock
  exact ⟨hu, ⟨htu, hcache⟩, trivial, trivial⟩

theorem enforceRateLimit_safe (hs : Kept library env texts s) {f : EdgeHandler Unit}
    (h : ∀ t, Extends s t → Kept library env texts t →
      (edgeDiscipline library env texts).Safe incoming Discipline.Anywhere (numbered n f) t) :
    (edgeDiscipline library env texts).Safe incoming Discipline.Anywhere
      (numbered n (enforceRateLimit env request >>= fun _ => f)) s := by
  unfold enforceRateLimit
  split
  · exact h s (Extends.refl s) hs
  · apply own_safe (f := fun allowed => Handler.ofExcept
      (require (allowed = true) "rate_limited") >>= fun _ => f) rfl fun _ _ => trivial
    intro t allowed u hst _ _ htu _ hu
    apply ofExcept_safe
    · exact fun _ _ => h u (hst.trans htu) hu
    · exact fun _ _ => trivial

theorem requireActiveBeta_safe (hs : Kept library env texts s) {f : EdgeHandler Unit}
    (h : ∀ t, Extends s t → Kept library env texts t →
      (edgeDiscipline library env texts).Safe incoming Discipline.Anywhere (numbered n f) t) :
    (edgeDiscipline library env texts).Safe incoming Discipline.Anywhere
      (numbered n (requireActiveBeta env >>= fun _ => f)) s := by
  unfold requireActiveBeta
  split
  · exact h s (Extends.refl s) hs
  · apply own_safe (f := fun result => Handler.ofExcept result >>= fun _ => f) rfl
      fun _ _ => trivial
    intro t result u hst _ _ htu _ hu
    apply ofExcept_safe
    · exact fun _ _ => h u (hst.trans htu) hu
    · exact fun _ _ => trivial

theorem issueStatelessPlaybackToken_safe (hsha : Set.InjOn (digestOf library.platform) texts)
    (hs : Kept library env texts s) (hfrom : fromMs ≤ s.clockMs)
    (haccepted : .accepted n fromMs ∈ s.journal) :
    (edgeDiscipline library env texts).Safe incoming Discipline.Anywhere
      (numbered n (issueStatelessPlaybackToken library env request)) s := by
  unfold issueStatelessPlaybackToken
  apply enforceRateLimit_safe hs
  intro t hst ht
  apply requireActiveBeta_safe ht
  intro u htu hu
  have hsu := hst.trans htu
  have hsettles : (edgeDiscipline library env texts).Safe incoming
      (Settles (TokenEnds library env n request fromMs))
      (numbered n (do
        let token ← authorizeToken library env request
        return .ok token : EdgeHandler (Result Token))) u := by
    apply bind_safe hu (authorizeToken_safe hsha hu (hfrom.trans hsu.clock))
    · exact fun _ _ _ hend => hend
    · exact fun _ _ _ _ hend => hend
  apply bind_safe hu (rescue_safe hu hsettles)
  · exact fun _ _ _ _ => trivial
  · intro outcome v huv _ hend
    apply decide_safe
    intro w nowMs hvw hnow
    refine ⟨fromMs, (hsu.trans (huv.trans hvw)).journal.subset haccepted, ?_⟩
    exact Justified.mono (hend outcome rfl) hvw.journal.subset (hvw.clock.trans hnow)

theorem ticketProviderPolicy_safe (hsha : Set.InjOn (digestOf library.platform) texts)
    {stream : Bool} {playbackId : String} (hplayback : isUrlWord 6 128 playbackId = true)
    (hfrom : fromMs ≤ s.clockMs) (haccepted : .accepted n fromMs ∈ s.journal) :
    (edgeDiscipline library env texts).Safe incoming Discipline.Anywhere
      (numbered n (ticketProviderPolicy library env stream playbackId)) s := by
  unfold ticketProviderPolicy
  apply awaitCacheKey_safe fun _ _ => trivial
  intro t hst ht htext
  have hhashed : (Source.policy stream playbackId).Hashed library texts :=
    policy_hashed hplayback htext
  have hsettles : (edgeDiscipline library env texts).Safe incoming
      (Settles (PolicyEnds library n stream playbackId fromMs)) (numbered n (do
      match ← lookUp (cacheKey library.platform env.versionId (.policy stream playbackId)) with
      | some (.policy preview) => return .ok preview
      | _ => do
          let preview ← askProviderPolicy library
            (cacheKey library.platform env.versionId (.policy stream playbackId)) stream playbackId
          return .ok preview : EdgeHandler (Result (Option String)))) t := by
    apply lookUp_safe hsha hhashed fun _ _ => .inl ⟨_, by decide, rfl⟩
    intro u found htu hu hfound
    have hfrom' := hfrom.trans (hst.trans htu).clock
    split
    · next preview =>
        exact .inr ⟨some preview, u.clockMs, hfrom', le_rfl, rfl, hfound _ rfl⟩
    · apply bind_safe hu (askProviderPolicy_safe hhashed hfrom')
      · intro code v _ hend
        exact hend
      · intro preview v _ _ hend
        exact hend
  apply bind_safe ht (rescue_safe ht hsettles)
  · exact fun _ _ _ _ => trivial
  · intro outcome v htv _ hend
    apply decide_safe
    intro w nowMs hvw hnow
    refine ⟨fromMs, (hst.trans (htv.trans hvw)).journal.subset haccepted, ?_⟩
    exact LookedUp.mono (hend outcome rfl) (fun _ _ hfound => hfound.mono hvw.journal.subset)
      (hvw.clock.trans hnow)

/-- Every request is safe. -/
theorem handle_safe (hsha : Set.InjOn (digestOf library.platform) texts) (incoming : Incoming)
    (s : Edge) :
    (edgeDiscipline library env texts).Safe incoming Discipline.Anywhere
      ((edgeSystem library env).handle incoming) s := by
  refine Discipline.Safe.perform fun t _ ht => ⟨trivial, fun i n u _ hexec => ?_⟩
  obtain ⟨hu, htu, hcache, -⟩ := own_step ht hexec fun _ hdecided => nomatch hdecided
  have haccepted : .accepted n u.clockMs ∈ u.journal := by
    obtain ⟨-, heq⟩ := exec_inv hexec
    cases heq
    exact List.mem_append_right _ (List.mem_singleton_self _)
  refine ⟨hu, ⟨htu, hcache⟩, ?_, trivial⟩
  cases incoming with
  | stateless request => exact issueStatelessPlaybackToken_safe hsha hu le_rfl haccepted
  | ticket stream playbackId hplayback =>
    exact ticketProviderPolicy_safe hsha hplayback le_rfl haccepted

end Program

end Youtick.Bridge.Stateless
