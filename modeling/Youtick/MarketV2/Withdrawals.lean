import Youtick.MarketV2.Guards

/-!
# Market V2: USDC withdrawals

The three balances an account can withdraw, and the callback each transfer is followed by: the
balance is emptied when the transfer is scheduled and restored when the transfer failed.
-/

set_option autoImplicit false

namespace Youtick.MarketV2

open Youtick.Lib

def withdrawCreatorBalance (env : Env) (s : Contract) : Result (Outcome Unit) := do
  let creatorId := env.predecessorAccountId
  let amount := (s.creatorBalances.get creatorId).getD 0
  require (amount > 0) "No creator balance"
  let withdrawalId := "creator-withdrawal:" ++ creatorId ++ ":" ++ decimal amount ++ ":" ++
    decimal env.blockTimestampMs
  let _usdc ← usdcContractId env
  return {
    state := { s with creatorBalances := s.creatorBalances.insert creatorId 0 }
    value := ()
    events := [emitMarketEvent env "creator_balance_withdrawal_started" withdrawalId
      [("account_id", .str creatorId),
       ("asset", .str "USDC"),
       ("amount", .dec amount),
       ("withdrawal_id", .str withdrawalId)]]
    promises := [.ftTransfer creatorId amount "creator payout"
      (.onCreatorWithdraw creatorId amount withdrawalId)] }

def withdrawPlatformBalance (env : Env) (s : Contract) : Result (Outcome Unit) := do
  require (env.predecessorAccountId = s.platformAccountId) "Only the platform account can withdraw"
  let amount := s.platformBalance
  require (amount > 0) "No platform balance"
  let withdrawalId := "platform-withdrawal:USDC:" ++ decimal amount ++ ":" ++
    decimal env.blockTimestampMs
  let _usdc ← usdcContractId env
  return {
    state := { s with platformBalance := 0 }
    value := ()
    events := [emitMarketEvent env "platform_withdrawal_started" withdrawalId
      [("account_id", .str s.platformAccountId),
       ("asset", .str "USDC"),
       ("amount", .dec amount),
       ("withdrawal_id", .str withdrawalId)]]
    promises := [.ftTransfer s.platformAccountId amount "platform commission"
      (.onPlatformWithdraw amount)] }

def withdrawTaxBalance (env : Env) (s : Contract) : Result (Outcome Unit) := do
  let caller := env.predecessorAccountId
  require (caller = s.taxAccountId ∨ caller = s.platformAccountId)
    "Only the tax or platform account can withdraw VAT"
  let amount := s.taxBalance
  require (amount > 0) "No tax balance"
  let _usdc ← usdcContractId env
  return {
    state := { s with taxBalance := 0 }
    value := ()
    promises := [.ftTransfer s.taxAccountId amount "VAT" (.onTaxWithdraw amount)] }

/-! ## Callbacks -/

def onCreatorWithdraw (env : Env) (s : Contract) (creatorId : AccountId) (amount : Nat)
    (withdrawalId : String) : Result (Outcome Bool) := do
  assertPrivate env "on_creator_withdraw"
  let result ← callbackResult env "Expected one withdrawal result"
  match result with
  | .successful =>
    return {
      state := s
      value := true
      events := [emitMarketEvent env "creator_balance_withdrawal_succeeded" withdrawalId
        [("account_id", .str creatorId),
         ("asset", .str "USDC"),
         ("amount", .dec amount),
         ("withdrawal_id", .str withdrawalId)]] }
  | .failed =>
    let restored ← checkedAdd 128 ((s.creatorBalances.get creatorId).getD 0) amount
      "Creator balance overflow"
    return {
      state := { s with creatorBalances := s.creatorBalances.insert creatorId restored }
      value := false
      events := [emitMarketEvent env "creator_balance_withdrawal_failed" withdrawalId
        [("account_id", .str creatorId),
         ("asset", .str "USDC"),
         ("amount", .dec amount),
         ("withdrawal_id", .str withdrawalId),
         ("reason_code", .str "PROMISE_FAILED")]] }

def onPlatformWithdraw (env : Env) (s : Contract) (amount : Nat) : Result (Outcome Bool) := do
  assertPrivate env "on_platform_withdraw"
  let result ← callbackResult env "Expected one withdrawal result"
  match result with
  | .successful => return { state := s, value := true }
  | .failed =>
    let restored ← checkedAdd 128 s.platformBalance amount "Platform balance overflow"
    return { state := { s with platformBalance := restored }, value := false }

def onTaxWithdraw (env : Env) (s : Contract) (amount : Nat) : Result (Outcome Bool) := do
  assertPrivate env "on_tax_withdraw"
  let result ← callbackResult env "Expected one withdrawal result"
  match result with
  | .successful => return { state := s, value := true }
  | .failed =>
    let restored ← checkedAdd 128 s.taxBalance amount "Tax balance overflow"
    return { state := { s with taxBalance := restored }, value := false }

def onPlatformNearWithdraw (env : Env) (s : Contract) (amount : Nat) : Result (Outcome Bool) := do
  assertPrivate env "on_platform_near_withdraw"
  let result ← callbackResult env "Expected one withdrawal result"
  match result with
  | .successful => return { state := s, value := true }
  | .failed =>
    let restored ← checkedAdd 128 s.platformNearBalance amount "Platform NEAR balance overflow"
    return { state := { s with platformNearBalance := restored }, value := false }

end Youtick.MarketV2
