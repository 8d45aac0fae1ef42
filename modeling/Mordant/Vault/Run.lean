/-
# Runs of the vault

A run is a finite list of events: a call into the vault by any account at any
block time, a donation of settlement tokens to the vault, or anything else that
happens on the chain.  The last kind may replace the outside world and the token
ledger at will, except that nobody but the vault can spend or raise the vault's
own balance through it.

Block times are unrestricted, so the nondecreasing ones are among them.
-/

import Mordant.Vault.Operations

namespace Mordant.Vault

open Evm Foundation

/-- The external functions that change state. -/
inductive Call
  | activate (pledge : Pledge) (signature : Bytes) (funder : Address) (holders : List Address)
      (allocations : List (BitVec 256))
  | authorizeOriginatorWallet (signer : Address)
  | commitConflict (commitment : Bytes32)
  | revealConflict (pledge : Pledge) (signature : Bytes) (salt : Bytes32)
  | expireCommit
  | cureConflict (cancellation : Cancellation) (signature : Bytes)
  | finalizeConflict
  | claimBond
  | fundRedemption (amount : BitVec 256)
  | claimSettlementCredit
  | redeem (units : BitVec 256)
  | closeProtection
  | markDefault
  | releaseDefaultCva (units : BitVec 256)
  | transfer (target : Address) (value : BitVec 256)
  | transferFrom (source target : Address) (value : BitVec 256)
  | approve (spender : Address) (value : BitVec 256)

/-- What can happen next. -/
inductive Event (W : Type)
  | call (msg : Msg) (call : Call)
  | donate (source : Address) (amount : ℕ)
  | outside (token : Settlement) (world : W)

/-- Somebody sends settlement tokens to the vault outside its functions. -/
def Event.IsDonation {W : Type} : Event W → Prop
  | .donate _ _ => True
  | _ => False

instance {W : Type} : DecidablePred (Event.IsDonation (W := W))
  | .call _ _ => .isFalse id
  | .donate _ _ => .isTrue trivial
  | .outside _ _ => .isFalse id

/-- A call of `activate`. -/
def Event.IsActivation {W : Type} : Event W → Prop
  | .call _ (.activate ..) => True
  | _ => False

variable {W : Type} (crypto : Crypto) (env : Externals W) (terms : Terms)

/-- A call without the closing `_assertAccounting`. -/
def Call.body (c : Chain W) (msg : Msg) : Call → Except VaultError (Chain W)
  | .activate pledge signature funder holders allocations =>
      activateBody crypto env terms c msg pledge signature funder holders allocations
  | .authorizeOriginatorWallet signer => Vault.authorizeOriginatorWallet env terms c msg signer
  | .commitConflict commitment => Vault.commitConflict env terms c msg commitment
  | .revealConflict pledge signature salt =>
      Vault.revealConflict crypto env terms c msg pledge signature salt
  | .expireCommit => expireCommitBody terms c msg
  | .cureConflict cancellation signature =>
      cureConflictBody crypto env terms c msg cancellation signature
  | .finalizeConflict => finalizeConflictBody c msg
  | .claimBond => Prod.snd <$> claimBondBody env terms c msg
  | .fundRedemption amount => fundRedemptionBody env terms c msg amount.toNat
  | .claimSettlementCredit => Prod.snd <$> claimSettlementCreditBody env terms c msg
  | .redeem units => Prod.snd <$> redeemBody env terms c msg units.toNat
  | .closeProtection => closeProtectionBody env terms c msg
  | .markDefault => markDefaultBody env terms c msg
  | .releaseDefaultCva units => releaseDefaultCvaBody env terms c msg units.toNat
  | .transfer target value => Vault.transfer env terms c msg target value.toNat
  | .transferFrom source target value =>
      Vault.transferFrom env terms c msg source target value.toNat
  | .approve spender value => Vault.approve c msg spender value.toNat

/-- A call of the deployed function. -/
def Call.perform (c : Chain W) (msg : Msg) : Call → Except VaultError (Chain W)
  | .activate pledge signature funder holders allocations =>
      Vault.activate crypto env terms c msg pledge signature funder holders allocations
  | .authorizeOriginatorWallet signer => Vault.authorizeOriginatorWallet env terms c msg signer
  | .commitConflict commitment => Vault.commitConflict env terms c msg commitment
  | .revealConflict pledge signature salt =>
      Vault.revealConflict crypto env terms c msg pledge signature salt
  | .expireCommit => Vault.expireCommit env terms c msg
  | .cureConflict cancellation signature =>
      Vault.cureConflict crypto env terms c msg cancellation signature
  | .finalizeConflict => Vault.finalizeConflict env terms c msg
  | .claimBond => Prod.snd <$> Vault.claimBond env terms c msg
  | .fundRedemption amount => Vault.fundRedemption env terms c msg amount.toNat
  | .claimSettlementCredit => Prod.snd <$> Vault.claimSettlementCredit env terms c msg
  | .redeem units => Prod.snd <$> Vault.redeem env terms c msg units.toNat
  | .closeProtection => Vault.closeProtection env terms c msg
  | .markDefault => Vault.markDefault env terms c msg
  | .releaseDefaultCva units => Vault.releaseDefaultCva env terms c msg units.toNat
  | .transfer target value => Vault.transfer env terms c msg target value.toNat
  | .transferFrom source target value =>
      Vault.transferFrom env terms c msg source target value.toNat
  | .approve spender value => Vault.approve c msg spender value.toNat

/-- One event. -/
def exec (c : Chain W) : Event W → Except VaultError (Chain W)
  | .call msg call => call.perform crypto env terms c msg
  | .donate source amount => do
      revertIf (source = terms.vault) .unauthorized
      settle env c source terms.vault amount
  | .outside token world => do
      revertIf (token.balanceOf terms.vault ≠ c.token.balanceOf terms.vault) .unauthorized
      pure { c with token := token, world := world }

/-- The chain right after a construction that returned `s`. -/
def deployed (s : VaultState) (token : Settlement) (world : W) : Chain W := ⟨s, token, world⟩

section

variable {crypto env terms} {c c' : Chain W} {msg : Msg}

theorem closing_ok (h : closing env terms c = .ok c') : c' = c := by
  simp only [closing, bind_ok_iff, pure_ok_iff] at h
  obtain ⟨-, -, rfl⟩ := h
  rfl

theorem closing_bind_ok {body : Except VaultError (Chain W)}
    (h : (body >>= closing env terms) = .ok c') : body = .ok c' := by
  obtain ⟨c₁, hbody, hclosing⟩ := bind_ok_iff.mp h
  rw [closing_ok hclosing, hbody]

theorem closing_pair_ok {body : Except VaultError (ℕ × Chain W)}
    (h : Prod.snd <$> (do
      let (amount, c) ← body
      let c ← closing env terms c
      pure (amount, c)) = .ok c') : Prod.snd <$> body = .ok c' := by
  simp only [map_ok_iff, bind_ok_iff, pure_ok_iff] at h
  obtain ⟨_, ⟨⟨amount, c₁⟩, hbody, c₂, hclosing, rfl⟩, rfl⟩ := h
  rw [closing_ok hclosing]
  exact map_ok_iff.mpr ⟨_, hbody, rfl⟩

/-- A committed call is its committed body: the closing assertion only reads. -/
theorem Call.perform_ok {call : Call} (h : call.perform crypto env terms c msg = .ok c') :
    call.body crypto env terms c msg = .ok c' := by
  cases call with
  | activate => exact closing_bind_ok h
  | authorizeOriginatorWallet => exact h
  | commitConflict => exact h
  | revealConflict => exact h
  | expireCommit => exact closing_bind_ok h
  | cureConflict => exact closing_bind_ok h
  | finalizeConflict => exact closing_bind_ok h
  | claimBond => exact closing_pair_ok h
  | fundRedemption => exact closing_bind_ok h
  | claimSettlementCredit => exact closing_pair_ok h
  | redeem => exact closing_pair_ok h
  | closeProtection => exact closing_bind_ok h
  | markDefault => exact closing_bind_ok h
  | releaseDefaultCva => exact closing_bind_ok h
  | transfer => exact h
  | transferFrom => exact h
  | approve => exact h

end

end Mordant.Vault
