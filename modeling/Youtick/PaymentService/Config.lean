import Youtick.PaymentService.Formats

/-!
# Payment service: configuration

The service's settings, read from the Worker's environment. A setting that is missing or malformed
turns the whole service off (`paymentConfig` is `none`), so a running service holds only settings
that passed these checks.
-/

set_option autoImplicit false

namespace Youtick.PaymentService

open Youtick.Lib

/-- The environment variables of the payment part. -/
structure Env where
  paymentServiceEnabled : Option String
  nearNetwork : Option String
  nearRpcUrl : Option String
  marketV2ContractId : Option String
  vatPolicy : Option String
  vatRateBps : Option String
  vatKeyVersion : Option String
  vatSignerPrivateKey : Option String
  allowedOrigins : Option String

/-- A key pair of the key library: its public key's type and text. -/
structure KeyPair where
  keyType : Nat
  publicKey : String
  deriving DecidableEq

structure PaymentConfig where
  network : String
  rpcUrl : String
  marketContractId : String
  rateBps : Int
  keyVersion : Nat
  signer : KeyPair
  publicKey : String
  allowedOrigins : List String
  deriving DecidableEq

/-- `[a-z0-9.-]` -/
def isHostChar (c : Char) : Bool := isAccountChar c || c == '.' || c == '-'

/-- `^https:\/\/[a-z0-9.-]+(:[0-9]+)?$` or `^http:\/\/localhost:[0-9]+$` -/
def isOrigin (origin : String) : Bool :=
  (match stripPrefix origin "https://" with
    | some rest =>
      match rest.toList.splitOn ':' with
      | [host] => !host.isEmpty && host.all isHostChar
      | [host, port] => !host.isEmpty && host.all isHostChar && isDigits port
      | _ => false
    | none => false) ||
  (match stripPrefix origin "http://localhost:" with
    | some port => isDigits port.toList
    | none => false)

/-- The comma separated origins, trimmed, without the empty ones. -/
def originsOf (text : String) : List String :=
  ((text.toList.splitOn ',').map fun part => String.ofList (trim part)).filter (· ≠ "")

/-- `^(0|[1-9][0-9]{0,3})$`, and at most 2700. -/
def vatRate (text : String) : Option Int :=
  if (text = "0" ∨ isPositiveDecimal 3 text = true) ∧ (digitsValue text.toList : Int) ≤ 2700 then
    some (digitsValue text.toList)
  else none

def vatKeyVersion (text : String) : Option Nat :=
  if isPositiveDecimal 8 text then some (digitsValue text.toList) else none

/-- The settings, or `none` when the service is off. `keyPairFromString` is the key library's reader;
it throws on what is not a key. -/
def paymentConfig (keyPairFromString : Option String → Option KeyPair) (env : Env) :
    Option PaymentConfig := do
  guard (env.paymentServiceEnabled = some "true" ∧ env.nearNetwork = some "testnet" ∧
    env.vatPolicy = some "fixed-testnet")
  let origins := originsOf (env.allowedOrigins.getD "")
  let rpcUrl ← env.nearRpcUrl.filter fun url => startsWith url "https://"
  let marketContractId ← env.marketV2ContractId.filter isAccountId
  let rateBps ← vatRate (env.vatRateBps.getD "")
  let keyVersion ← vatKeyVersion (env.vatKeyVersion.getD "")
  guard (origins.all isOrigin = true)
  let signer ← keyPairFromString env.vatSignerPrivateKey
  guard (signer.keyType = 0)
  return {
    network := "testnet"
    rpcUrl := rpcUrl
    marketContractId := marketContractId
    rateBps := rateBps
    keyVersion := keyVersion
    signer := signer
    publicKey := signer.publicKey
    allowedOrigins := origins }

/-- What a running service holds. -/
theorem paymentConfig_eq_some {keyPairFromString : Option String → Option KeyPair} {env : Env}
    {config : PaymentConfig} (h : paymentConfig keyPairFromString env = some config) :
    config.network = "testnet" ∧ isAccountId config.marketContractId = true ∧
      0 ≤ config.rateBps ∧ config.rateBps ≤ 2700 := by
  simp only [paymentConfig, Option.bind_eq_bind, Option.bind_eq_some_iff, Option.filter_eq_some_iff,
    vatRate] at h
  obtain ⟨_, -, _, -, contractId, ⟨-, hcontract⟩, rate, hrate, _, -, _, -, _, -, _, -, h⟩ := h
  cases h
  obtain ⟨⟨-, hbound⟩, hvalue⟩ := Option.ite_none_right_eq_some.mp hrate
  cases hvalue
  exact ⟨rfl, hcontract, Int.natCast_nonneg _, hbound⟩

/-! ## A configured service -/

namespace Vectors

def keyPair : KeyPair := ⟨0, "ed25519:11111111111111111111111111111111"⟩

/-- The service of a testnet deployment, at the highest rate. -/
def settings : Env where
  paymentServiceEnabled := some "true"
  nearNetwork := some "testnet"
  nearRpcUrl := some "https://rpc.testnet.near.org"
  marketV2ContractId := some "market-v2.youtick.testnet"
  vatPolicy := some "fixed-testnet"
  vatRateBps := some "2700"
  vatKeyVersion := some "1"
  vatSignerPrivateKey := some "ed25519:1"
  allowedOrigins := some "https://youtick.net, http://localhost:3000"

def config : PaymentConfig where
  network := "testnet"
  rpcUrl := "https://rpc.testnet.near.org"
  marketContractId := "market-v2.youtick.testnet"
  rateBps := 2700
  keyVersion := 1
  signer := keyPair
  publicKey := keyPair.publicKey
  allowedOrigins := ["https://youtick.net", "http://localhost:3000"]

theorem paymentConfig_settings : paymentConfig (fun _ => some keyPair) settings = some config := by
  decide +kernel

end Vectors

end Youtick.PaymentService
