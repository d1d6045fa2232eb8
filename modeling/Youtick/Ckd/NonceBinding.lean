import Youtick.Ckd.Contract
import Mathlib.Logic.Equiv.Basic

/-!
# ckd-gate: what the nonce binds

The nonce hashes the two keys of the app joined by `|`, and `request_key` takes any strings for them.
With an injective hash the nonce of a pair is its own exactly when neither key contains the separator
(`nonce_binds_iff`); otherwise the same text splits into another pair (`nonce_shared`).
-/

set_option autoImplicit false

namespace Youtick.Ckd

open Youtick.Lib

/-- `request_key` goes through with this app key in some call. -/
def Accepts (host : Host) (app : AppPublicKeyPV) : Prop :=
  ∃ ctx s jwt accountId o, requestKey ⟨host, ctx⟩ s jwt app accountId = .ok o

/-- The call reads nothing of the app key: it hands it on. -/
theorem Accepts.any {host : Host} {app : AppPublicKeyPV} (h : Accepts host app)
    (other : AppPublicKeyPV) : Accepts host other := by
  obtain ⟨ctx, s, jwt, accountId, o, h⟩ := h
  obtain ⟨_, hsize, h⟩ := bind_eq_ok.mp h
  obtain ⟨sub, hsub, -⟩ := bind_eq_ok.mp h
  refine ⟨ctx, s, jwt, accountId, _, bind_eq_ok.mpr ⟨_, hsize, bind_eq_ok.mpr ⟨sub, hsub, rfl⟩⟩⟩

/-- The two keys, joined. -/
def AppPublicKeyPV.joined (app : AppPublicKeyPV) : List Char :=
  app.pk1.toList ++ '|' :: app.pk2.toList

section Binding

variable {host : Host}

theorem expectedNonce_eq_iff (hsha : Function.Injective host.sha256)
    (hbase : Function.Injective host.base64UrlEncode) {app other : AppPublicKeyPV} :
    expectedNonce host other = expectedNonce host app ↔ other.joined = app.joined := by
  unfold expectedNonce AppPublicKeyPV.joined
  constructor
  · intro h
    have htext := congrArg String.toList (utf8_injective (hsha (hbase h)))
    simpa using htext
  · intro h
    have htext : "ckd-gate|" ++ host.currentAccountId ++ "|" ++ other.pk1 ++ "|" ++ other.pk2 =
        "ckd-gate|" ++ host.currentAccountId ++ "|" ++ app.pk1 ++ "|" ++ app.pk2 := by
      apply String.toList_inj.mp
      simpa using h
    rw [htext]

theorem joined_unique {app other : AppPublicKeyPV} (h₁ : '|' ∉ app.pk1.toList)
    (h₂ : '|' ∉ app.pk2.toList) (h : other.joined = app.joined) : other = app := by
  unfold AppPublicKeyPV.joined at h
  -- The joined text of `app` has one separator, so the first key of `other` has none.
  have hcount := congrArg (List.count '|') h
  rw [List.count_append, List.count_append, List.count_cons_self, List.count_cons_self,
    List.count_eq_zero_of_not_mem h₁, List.count_eq_zero_of_not_mem h₂] at hcount
  have hother : '|' ∉ other.pk1.toList := List.count_eq_zero.mp (by omega)
  obtain ⟨hpk1, hpk2⟩ := append_separator_injective hother h₁ h
  cases other
  cases app
  rw [AppPublicKeyPV.mk.injEq]
  exact ⟨String.toList_inj.mp hpk1, String.toList_inj.mp hpk2⟩

/-- A separator inside a key is another place to split the joined text. -/
theorem exists_other_split {app : AppPublicKeyPV}
    (h : '|' ∈ app.pk1.toList ∨ '|' ∈ app.pk2.toList) :
    ∃ other : AppPublicKeyPV, other ≠ app ∧ other.joined = app.joined := by
  rcases h with h | h
  · obtain ⟨before, after, hsplit⟩ := List.append_of_mem h
    refine ⟨⟨String.ofList before, String.ofList (after ++ '|' :: app.pk2.toList)⟩, ?_, ?_⟩
    · intro heq
      have hlength := congrArg (fun pair => pair.pk1.toList.length) heq
      rw [hsplit] at hlength
      simp at hlength
    · simp [AppPublicKeyPV.joined, hsplit]
  · obtain ⟨before, after, hsplit⟩ := List.append_of_mem h
    refine ⟨⟨String.ofList (app.pk1.toList ++ '|' :: before), String.ofList after⟩, ?_, ?_⟩
    · intro heq
      have hlength := congrArg (fun pair => pair.pk2.toList.length) heq
      rw [hsplit] at hlength
      simp at hlength
      omega
    · simp [AppPublicKeyPV.joined, hsplit]

/-- The nonce of an accepted pair belongs to no other accepted pair exactly when neither of its keys
contains the separator. -/
theorem nonce_binds_iff (hsha : Function.Injective host.sha256)
    (hbase : Function.Injective host.base64UrlEncode) {app : AppPublicKeyPV}
    (haccepts : Accepts host app) :
    (∀ other, Accepts host other → expectedNonce host other = expectedNonce host app →
        other = app) ↔
      '|' ∉ app.pk1.toList ∧ '|' ∉ app.pk2.toList := by
  constructor
  · intro hbinds
    by_contra hsplit
    rw [not_and_or, not_not, not_not] at hsplit
    obtain ⟨other, hne, hjoined⟩ := exists_other_split hsplit
    exact hne (hbinds other (haccepts.any other) ((expectedNonce_eq_iff hsha hbase).mpr hjoined))
  · rintro ⟨h₁, h₂⟩ other - hnonce
    exact joined_unique h₁ h₂ ((expectedNonce_eq_iff hsha hbase).mp hnonce)

end Binding

/-! ## One gate -/

namespace Vectors

/-- The gate of the token, with a hash and an encoding that are injective and agree with the real
ones on the nonce of `app`. -/
def bindingHost : Host :=
  { host with
    sha256 := Equiv.swap (utf8 "ckd-gate|gate.testnet|bls12381g1:a|bls12381g2:b") nonceBytes
    base64UrlEncode := fun bytes => Equiv.swap (hex nonceBytes) nonce (hex bytes) }

theorem bindingHost_sha256 : Function.Injective bindingHost.sha256 := Equiv.injective _

theorem bindingHost_base64 : Function.Injective bindingHost.base64UrlEncode :=
  (Equiv.injective _).comp fun _ _ => hex_injective

theorem bindingHost_accepts (app : AppPublicKeyPV) : Accepts bindingHost app := by
  have haccepted : (requestKey ⟨bindingHost, context "relayer.testnet" start 0⟩
      initial.contract token ⟨"", ""⟩ none).isOk = true := by decide +kernel
  have hany : Accepts bindingHost ⟨"", ""⟩ := by
    cases hrun : requestKey ⟨bindingHost, context "relayer.testnet" start 0⟩ initial.contract token
        ⟨"", ""⟩ none with
    | ok o => exact ⟨_, _, _, _, o, hrun⟩
    | error e =>
      rw [hrun] at haccepted
      cases haccepted
  exact hany.any app

end Vectors

/-- Two accepted pairs with one nonce. -/
theorem nonce_shared :
    Function.Injective Vectors.bindingHost.sha256 ∧
      Function.Injective Vectors.bindingHost.base64UrlEncode ∧
      Accepts Vectors.bindingHost ⟨"a|b", "c"⟩ ∧ Accepts Vectors.bindingHost ⟨"a", "b|c"⟩ ∧
      expectedNonce Vectors.bindingHost ⟨"a|b", "c"⟩ =
        expectedNonce Vectors.bindingHost ⟨"a", "b|c"⟩ ∧
      (⟨"a|b", "c"⟩ : AppPublicKeyPV) ≠ ⟨"a", "b|c"⟩ := by
  refine ⟨Vectors.bindingHost_sha256, Vectors.bindingHost_base64, Vectors.bindingHost_accepts _,
    Vectors.bindingHost_accepts _, ?_, by decide⟩
  rw [expectedNonce_eq_iff Vectors.bindingHost_sha256 Vectors.bindingHost_base64]
  rfl

/-- The token's pair is accepted, and its nonce is its own. -/
theorem nonce_binds_app :
    Accepts Vectors.bindingHost Vectors.app ∧
      ∀ other, Accepts Vectors.bindingHost other →
        expectedNonce Vectors.bindingHost other = expectedNonce Vectors.bindingHost Vectors.app →
          other = Vectors.app :=
  ⟨Vectors.bindingHost_accepts Vectors.app,
    (nonce_binds_iff Vectors.bindingHost_sha256 Vectors.bindingHost_base64
      (Vectors.bindingHost_accepts Vectors.app)).mpr ⟨by decide, by decide⟩⟩

end Youtick.Ckd
