/-
# The vault's money: payouts, credits, the bond and the accounting assertion

The private functions that move settlement value between the vault's four
liabilities: the locked bond, the unclaimed entitlement, the redemption escrow
and the settlement credits.  Each is modelled as the source computes it, with
every addition and subtraction checked, and each comes with one lemma that says
what a committed call did to storage and to the token ledger.
-/

import Mordant.Foundation.Prorata
import Mordant.Vault.Units

namespace Mordant.Vault

open Evm Foundation

variable {W : Type} (env : Externals W) (terms : Terms) {s s' : VaultState}

/-- `requiredBond(supply)`: the bond share of `supply` units, rounded up. -/
def requiredBond (supply : ℕ) : Except VaultError ℕ := do
  let result ← mulDiv 256 terms.initialBond supply terms.initialUnits
  if terms.initialBond * supply % terms.initialUnits ≠ 0 then checkedAdd 256 result 1
  else pure result

/-- `faceValue - redeemedFace - cvaReleasedFace`. -/
def remainingLiability (s : VaultState) : Except VaultError ℕ := do
  let afterRedeemed ← checkedSub terms.faceValue s.redeemedFace
  checkedSub afterRedeemed s.cvaReleasedFace

/-- `_faceAmount(units, supplyBefore)`: the last exit takes the remainder. -/
def faceAmount (s : VaultState) (units supplyBefore : ℕ) : Except VaultError ℕ :=
  if units = supplyBefore then remainingLiability terms s
  else mulDiv 256 terms.faceValue units terms.initialUnits

def creditSettlement (s : VaultState) (account : Address) (amount : ℕ) :
    Except VaultError VaultState :=
  if amount = 0 then pure s
  else do
    let credit ← checkedAdd 256 (s.settlementCredit account) amount
    let total ← checkedAdd 256 s.settlementCreditTotal amount
    pure { s with
      settlementCredit := Function.update s.settlementCredit account credit
      settlementCreditTotal := total }

def refundExcessRedemptionEscrow (s : VaultState) : Except VaultError VaultState := do
  let remainingCashLiability ← remainingLiability terms s
  if s.redemptionEscrow ≤ remainingCashLiability then pure s
  else do
    let refund ← checkedSub s.redemptionEscrow remainingCashLiability
    creditSettlement { s with redemptionEscrow := remainingCashLiability } terms.buyer refund

/-- `_releaseExcessBond`: give back what the shrunken supply no longer needs. -/
def releaseExcessBond (s : VaultState) : Except VaultError VaultState :=
  if s.protectionState ≠ .active then pure s
  else do
    let target ← requiredBond terms s.totalSupply
    if s.bondLocked ≤ target then pure s
    else do
      let amount ← checkedSub s.bondLocked target
      let returned ← checkedAdd 256 s.bondReturned amount
      creditSettlement { s with bondLocked := target, bondReturned := returned }
        terms.originatorTreasury amount

def returnAllLockedBond (s : VaultState) : Except VaultError VaultState := do
  let returned ← checkedAdd 256 s.bondReturned s.bondLocked
  creditSettlement { s with bondLocked := 0, bondReturned := returned }
    terms.originatorTreasury s.bondLocked

/-- A settlement-token transfer: the token may refuse, and otherwise moves
exactly the amount. -/
def settle (c : Chain W) (source target : Address) (amount : ℕ) :
    Except VaultError (Chain W) := do
  revertIf (env.settlementAccepts c.world source target amount = false) .settlementTransferFailed
  let token ← require .settlementTransferFailed (c.token.move source target amount)
  pure { c with token := token }

def transferExact (c : Chain W) (recipient : Address) (amount : ℕ) :
    Except VaultError (Chain W) :=
  if amount = 0 then pure c
  else do
    requireSettlementIdentity env terms c
    revertIf (env.isAssetTransferAllowed c.world terms.settlementToken terms.vault recipient amount
      = false) .settlementNotReady
    let after ← settle env c terms.vault recipient amount
    let received ← checkedSub (after.token.balanceOf recipient) (c.token.balanceOf recipient)
    revertIf (received ≠ amount) .accountingMismatch
    pure after

/-- `safeTransferFrom(payer, address(this), amount)` with the vault's own check
that the balance rose by exactly the amount. -/
def collectExact (c : Chain W) (payer : Address) (amount : ℕ) : Except VaultError (Chain W) := do
  let after ← settle env c payer terms.vault amount
  let received ← checkedSub (after.token.balanceOf terms.vault) (c.token.balanceOf terms.vault)
  revertIf (received ≠ amount) .accountingMismatch
  pure after

def accountedSettlementBalance (s : VaultState) : Except VaultError ℕ := do
  let unclaimed ← checkedSub s.entitlementAllocated s.entitlementClaimed
  let withBond ← checkedAdd 256 s.bondLocked unclaimed
  let withEscrow ← checkedAdd 256 withBond s.redemptionEscrow
  checkedAdd 256 withEscrow s.settlementCreditTotal

/-- The settlement clause of `_assertAccounting`. -/
def assertSettlementFunded (c : Chain W) : Except VaultError Unit := do
  let accounted ← accountedSettlementBalance c.vault
  revertIf (c.token.balanceOf terms.vault < accounted) .accountingMismatch

def assertAccounting (c : Chain W) : Except VaultError Unit := do
  assertCvaIntegrity env terms c
  revertIf (c.vault.totalSupply ≠ c.vault.cvaAccounted) .accountingMismatch
  let bonds ← checkedAdd 256 c.vault.bondLocked c.vault.bondReturned
  let bonds ← checkedAdd 256 bonds c.vault.entitlementAllocated
  revertIf (bonds ≠ terms.initialBond) .accountingMismatch
  revertIf (c.vault.entitlementAllocated < c.vault.entitlementClaimed ∨
    c.vault.entitlementSnapshotSupply < c.vault.entitlementClaimedUnits) .accountingMismatch
  let face ← checkedAdd 256 c.vault.redeemedFace c.vault.cvaReleasedFace
  revertIf (terms.faceValue < face) .accountingMismatch
  assertSettlementFunded terms c

/-! ## What each of them did -/

/-- Storage after crediting `amount` to `account`. -/
def credited (s : VaultState) (account : Address) (amount : ℕ) : VaultState :=
  { s with
    settlementCredit :=
      Function.update s.settlementCredit account (s.settlementCredit account + amount)
    settlementCreditTotal := s.settlementCreditTotal + amount }

theorem credited_zero (s : VaultState) (account : Address) : credited s account 0 = s := by
  simp only [credited, Nat.add_zero, Function.update_eq_self]

theorem creditSettlement_ok {account : Address} {amount : ℕ}
    (h : creditSettlement s account amount = .ok s') : s' = credited s account amount := by
  unfold creditSettlement at h
  by_cases hzero : amount = 0
  · rw [if_pos hzero, pure_ok_iff] at h
    rw [← h, hzero, credited_zero]
  · simp only [if_neg hzero, bind_ok_iff, checkedAdd_ok_iff, pure_ok_iff] at h
    obtain ⟨_, ⟨-, rfl⟩, _, ⟨-, rfl⟩, rfl⟩ := h
    rfl

theorem remainingLiability_ok_iff {amount : ℕ} :
    remainingLiability terms s = .ok amount ↔
      s.redeemedFace + s.cvaReleasedFace + amount = terms.faceValue := by
  simp only [remainingLiability, bind_ok_iff, checkedSub_ok_iff]
  constructor
  · rintro ⟨_, ⟨hfirst, rfl⟩, hsecond, hamount⟩
    omega
  · intro hsum
    exact ⟨_, ⟨by omega, rfl⟩, by omega, by omega⟩

/-- `requiredBond` never faults on a supply the vault can have, and is the
rounded-up share. -/
theorem requiredBond_eq {supply : ℕ} (hsupply : supply ≤ terms.initialUnits) :
    requiredBond terms supply =
      .ok (ceilShare terms.initialBond supply terms.initialUnits) := by
  have hle : ceilShare terms.initialBond supply terms.initialUnits ≤ terms.initialBond :=
    ceilShare_le terms.units_pos hsupply
  have hbond := terms.bond_lt
  have hadvance := terms.advance_lt
  have hpos := terms.units_pos
  unfold ceilShare at hle ⊢
  simp only [requiredBond, bind_ok_iff, mulDiv_ok_iff]
  by_cases hrem : terms.initialBond * supply % terms.initialUnits ≠ 0
  · rw [if_pos hrem] at hle ⊢
    refine ⟨_, ⟨⟨by omega, by omega⟩, rfl⟩, ?_⟩
    rw [if_pos hrem, checkedAdd_ok_iff]
    exact ⟨by omega, rfl⟩
  · rw [if_neg hrem] at hle ⊢
    refine ⟨_, ⟨⟨by omega, by omega⟩, rfl⟩, ?_⟩
    rw [if_neg hrem, pure_ok_iff, Nat.add_zero]

/-- Storage after trimming the escrow to what can still be owed. -/
def refunded (s : VaultState) (remaining : ℕ) : VaultState :=
  { credited s terms.buyer (s.redemptionEscrow - remaining) with
    redemptionEscrow := min s.redemptionEscrow remaining }

theorem refundExcessRedemptionEscrow_ok (h : refundExcessRedemptionEscrow terms s = .ok s') :
    ∃ remaining, s.redeemedFace + s.cvaReleasedFace + remaining = terms.faceValue ∧
      s' = refunded terms s remaining := by
  simp only [refundExcessRedemptionEscrow, bind_ok_iff, remainingLiability_ok_iff] at h
  obtain ⟨remaining, hremaining, hrest⟩ := h
  refine ⟨remaining, hremaining, ?_⟩
  by_cases hle : s.redemptionEscrow ≤ remaining
  · rw [if_pos hle, pure_ok_iff] at hrest
    rw [← hrest, refunded, Nat.sub_eq_zero_of_le hle, min_eq_left hle, credited_zero]
  · simp only [if_neg hle, bind_ok_iff, checkedSub_ok_iff] at hrest
    obtain ⟨_, ⟨-, rfl⟩, hcredit⟩ := hrest
    rw [creditSettlement_ok hcredit, refunded, min_eq_right (not_le.mp hle).le]
    rfl

/-- Storage after lowering the locked bond to `target`. -/
def bondTrimmed (s : VaultState) (target : ℕ) : VaultState :=
  { credited s terms.originatorTreasury (s.bondLocked - target) with
    bondLocked := min s.bondLocked target
    bondReturned := s.bondReturned + (s.bondLocked - target) }

theorem releaseExcessBond_ok (hactive : s.protectionState = .active)
    (h : releaseExcessBond terms s = .ok s') :
    ∃ target, requiredBond terms s.totalSupply = .ok target ∧ s' = bondTrimmed terms s target := by
  rw [releaseExcessBond, if_neg (not_not.mpr hactive), bind_ok_iff] at h
  obtain ⟨target, htarget, hrest⟩ := h
  refine ⟨target, htarget, ?_⟩
  by_cases hle : s.bondLocked ≤ target
  · rw [if_pos hle, pure_ok_iff] at hrest
    rw [← hrest, bondTrimmed, Nat.sub_eq_zero_of_le hle, min_eq_left hle, credited_zero,
      Nat.add_zero]
  · simp only [if_neg hle, bind_ok_iff, checkedSub_ok_iff, checkedAdd_ok_iff] at hrest
    obtain ⟨_, ⟨-, rfl⟩, _, ⟨-, rfl⟩, hcredit⟩ := hrest
    rw [creditSettlement_ok hcredit, bondTrimmed, min_eq_right (not_le.mp hle).le]
    rfl

theorem returnAllLockedBond_ok (h : returnAllLockedBond terms s = .ok s') :
    s' = bondTrimmed terms s 0 := by
  simp only [returnAllLockedBond, bind_ok_iff, checkedAdd_ok_iff] at h
  obtain ⟨_, ⟨-, rfl⟩, hcredit⟩ := h
  rw [creditSettlement_ok hcredit, bondTrimmed, min_eq_right (Nat.zero_le _)]
  rfl

section

variable {env terms} {c c' : Chain W} {account : Address} {amount : ℕ}

theorem settle_ok {source target : Address} (h : settle env c source target amount = .ok c') :
    ∃ token, c.token.move source target amount = some token ∧ c' = { c with token := token } := by
  simp only [settle, bind_ok_iff, revertIf_ok_iff, require_ok_iff, pure_ok_iff] at h
  obtain ⟨-, -, token, hmove, rfl⟩ := h
  exact ⟨token, hmove, rfl⟩

/-- A committed payout lowered the vault's balance by exactly its amount: the
recipient check excludes a payout of the vault to itself. -/
theorem transferExact_ok (h : transferExact env terms c account amount = .ok c') :
    ∃ token : Settlement,
      token.balanceOf terms.vault + amount = c.token.balanceOf terms.vault ∧
      c' = { c with token := token } := by
  unfold transferExact at h
  by_cases hzero : amount = 0
  · rw [if_pos hzero, pure_ok_iff] at h
    exact ⟨c.token, by omega, by rw [← h]⟩
  · simp only [if_neg hzero, bind_ok_iff, revertIf_ok_iff, checkedSub_ok_iff, pure_ok_iff,
      not_not] at h
    obtain ⟨-, -, -, -, after, hsettle, received, ⟨-, hreceived⟩, -, hamount, rfl⟩ := h
    obtain ⟨token, hmove, rfl⟩ := settle_ok hsettle
    have hne := Ledger.ne_of_move_received hzero hmove (hreceived.trans hamount)
    exact ⟨token, Ledger.move_out hne hmove, rfl⟩

/-- A committed collection raised the vault's balance by exactly its amount. -/
theorem collectExact_ok (hpos : amount ≠ 0) (h : collectExact env terms c account amount = .ok c') :
    ∃ token : Settlement,
      token.balanceOf terms.vault = c.token.balanceOf terms.vault + amount ∧
      c' = { c with token := token } := by
  simp only [collectExact, bind_ok_iff, revertIf_ok_iff, checkedSub_ok_iff, pure_ok_iff,
    not_not] at h
  obtain ⟨after, hsettle, received, ⟨-, hreceived⟩, -, hamount, rfl⟩ := h
  obtain ⟨token, hmove, rfl⟩ := settle_ok hsettle
  have hne := Ledger.ne_of_move_received hpos hmove (hreceived.trans hamount)
  exact ⟨token, Ledger.move_in hne hmove, rfl⟩

end

end Mordant.Vault
