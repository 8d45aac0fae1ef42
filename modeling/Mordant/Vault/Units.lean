/-
# The vault's units: holder rules, movements and checkpoints

Units are an ERC-20 whose `_update` hook admits a movement, performs it, and
checkpoints every balance it touched.  This module models the hook with the
role and custody checks it calls, and the public snapshot reads.

A movement is described by `unitsMoved` (what happens to balances and supply)
and `checkpointed` (what is written about it); `update_ok` says that a
committed `_update` is exactly the two in sequence and changes nothing else.
-/

import Mordant.Vault.State

namespace Mordant.Vault

open Evm Foundation

variable {W : Type} (env : Externals W) (terms : Terms)

def requireEligible (c : Chain W) (account : Address) (role : ℕ) : Except VaultError Unit :=
  revertIf (env.isEligible c.world account role = false) (.ineligible account role)

/-- `_requireHolderRole`: eligible as a holder and none of the parties. -/
def requireHolderRole (c : Chain W) (account : Address) : Except VaultError Unit := do
  requireEligible env c account roleHolder
  revertIf (account = 0 ∨ account = terms.buyer ∨ account = terms.originatorTreasury ∨
      account = terms.vault ∨ account = terms.cvaAdapter ∨ account = terms.cvaToken ∨
      account = terms.settlementToken ∨ account = terms.factory ∨ account = terms.cviVerifier ∨
      c.vault.authorizedOriginator account = true ∨ env.isFacility c.world account = true)
    (.ineligible account roleHolder)

/-- `_requireHolder`: a holder that may also receive the custody asset. -/
def requireHolder (c : Chain W) (account : Address) (amount : ℕ) : Except VaultError Unit := do
  requireHolderRole env terms c account
  revertIf (env.isEligibleForAsset c.world account roleHolder terms.cvaToken terms.cvaAdapter
      amount = false) (.ineligible account roleHolder)

def requireSettlementIdentity (c : Chain W) : Except VaultError Unit :=
  revertIf (env.hasValidIdentity c.world terms.vault = false) .settlementNotReady

/-- `_assertCvaIntegrity`: the custody adapter still agrees with the vault. -/
def assertCvaIntegrity (c : Chain W) : Except VaultError Unit := do
  revertIf (env.asset c.world ≠ terms.cvaToken) .accountingMismatch
  let available ← require .externalCallFailed (env.availableBalance c.world terms.vault)
  revertIf (available ≠ c.vault.cvaAccounted) .accountingMismatch
  let issued ← require .externalCallFailed (env.issuedSupply c.world)
  let expected ← checkedSub terms.initialUnits c.vault.cvaBurned
  revertIf (issued ≠ expected) .accountingMismatch

/-- `if (protectionState != ProtectionState.Unfunded) _assertCvaIntegrity()`. -/
def assertFundedCvaIntegrity (c : Chain W) : Except VaultError Unit :=
  if c.vault.protectionState ≠ .unfunded then assertCvaIntegrity env terms c else pure ()

/-- Unchecked 256-bit addition and subtraction. -/
def wrappingAdd (a b : ℕ) : ℕ := (a + b) % 2 ^ 256

def wrappingSub (a b : ℕ) : ℕ := (a + 2 ^ 256 - b) % 2 ^ 256

/-- Balances and supply after a movement, in the order the base contract writes
them: debit or mint first, credit or burn second. -/
def unitsMoved (balances : Address → ℕ) (supply : ℕ) (source target : Address) (value : ℕ) :
    (Address → ℕ) × ℕ :=
  let debited := if source = 0 then balances
    else Function.update balances source (balances source - value)
  let minted := if source = 0 then supply + value else supply
  if target = 0 then (debited, wrappingSub minted value)
  else (Function.update debited target (wrappingAdd (debited target) value), minted)

/-- `super._update`: the base ERC-20 movement. -/
def baseUpdate (s : VaultState) (source target : Address) (value : ℕ) :
    Except VaultError VaultState :=
  let units := unitsMoved s.balanceOf s.totalSupply source target value
  let moved := { s with balanceOf := units.1, totalSupply := units.2 }
  if source = 0 then do
    let _ ← checkedAdd 256 s.totalSupply value
    pure moved
  else do
    revertIf (s.balanceOf source < value)
      (.erc20InsufficientBalance source (s.balanceOf source) value)
    pure moved

/-- `_writeCheckpoint(_balanceCheckpoints[account], balanceOf(account))`, made
for every account but the zero address. -/
def writeBalanceCheckpoint (s : VaultState) (account : Address) :
    Except VaultError VaultState :=
  if account = 0 then pure s
  else do
    revertIf (2 ^ 208 - 1 < s.balanceOf account) .accountingMismatch
    pure { s with
      balanceCheckpoints := Function.update s.balanceCheckpoints account
        (writeCheckpoint (s.balanceCheckpoints account) s.sequence (s.balanceOf account)) }

/-- `_writeCheckpoint(_supplyCheckpoints, totalSupply())`. -/
def writeSupplyCheckpoint (s : VaultState) : Except VaultError VaultState := do
  revertIf (2 ^ 208 - 1 < s.totalSupply) .accountingMismatch
  pure { s with
    supplyCheckpoints := writeCheckpoint s.supplyCheckpoints s.sequence s.totalSupply }

/-- The admission half of `_update`: who may move units to whom. -/
def admitUpdate (c : Chain W) (source target : Address) (value : ℕ) :
    Except VaultError Unit := do
  assertFundedCvaIntegrity env terms c
  if source ≠ 0 ∧ target ≠ 0 then
    revertIf (c.vault.receivableState ≠ .outstanding ∧
      c.vault.receivableState ≠ .defaultOutstanding) .invalidState
    requireHolderRole env terms c source
    let recipientClaim ← if source ≠ target then checkedAdd 256 (c.vault.balanceOf target) value
      else pure (c.vault.balanceOf target)
    requireHolder env terms c target recipientClaim
    revertIf (env.isAssetTransferAllowed c.world terms.cvaToken source target value = false)
      (.ineligible target roleHolder)
  else if target ≠ 0 then requireHolder env terms c target value
  else if source ≠ 0 then requireHolderRole env terms c source

def update (c : Chain W) (source target : Address) (value : ℕ) :
    Except VaultError (Chain W) := do
  admitUpdate env terms c source target value
  revertIf (c.vault.sequence = 2 ^ 48 - 1) .invalidState
  let s ← baseUpdate { c.vault with sequence := c.vault.sequence + 1 } source target value
  let s := { s with updateLog := s.updateLog ++ [(s.balanceOf, s.totalSupply)] }
  let s ← writeBalanceCheckpoint s source
  let s ← writeBalanceCheckpoint s target
  let s ← writeSupplyCheckpoint s
  pure { c with vault := s }

/-- `_mint`, `_burn` and `_transfer` of the base contract. -/
def mint (c : Chain W) (account : Address) (value : ℕ) : Except VaultError (Chain W) := do
  revertIf (account = 0) (.erc20InvalidReceiver 0)
  update env terms c 0 account value

def burn (c : Chain W) (account : Address) (value : ℕ) : Except VaultError (Chain W) := do
  revertIf (account = 0) (.erc20InvalidSender 0)
  update env terms c account 0 value

def transferUnits (c : Chain W) (source target : Address) (value : ℕ) :
    Except VaultError (Chain W) := do
  revertIf (source = 0) (.erc20InvalidSender 0)
  revertIf (target = 0) (.erc20InvalidReceiver 0)
  update env terms c source target value

def balanceAt (s : VaultState) (holder : Address) (atSequence : ℕ) : Except VaultError ℕ := do
  revertIf (s.sequence < atSequence) .invalidConfiguration
  pure (lookup (s.balanceCheckpoints holder) atSequence)

def totalSupplyAt (s : VaultState) (atSequence : ℕ) : Except VaultError ℕ := do
  revertIf (s.sequence < atSequence) .invalidConfiguration
  pure (lookup s.supplyCheckpoints atSequence)

/-! ## What a committed movement did -/

/-- Checkpoint lists after writing the balance of one account. -/
def touched (checkpoints : Address → List Checkpoint) (sequence : ℕ) (balances : Address → ℕ)
    (account : Address) : Address → List Checkpoint :=
  if account = 0 then checkpoints
  else Function.update checkpoints account
    (writeCheckpoint (checkpoints account) sequence (balances account))

/-- Storage after a committed `_update`. Every field not listed is unchanged. -/
def updated (s : VaultState) (source target : Address) (value : ℕ) : VaultState :=
  let units := unitsMoved s.balanceOf s.totalSupply source target value
  { s with
    sequence := s.sequence + 1
    balanceOf := units.1
    totalSupply := units.2
    balanceCheckpoints :=
      touched (touched s.balanceCheckpoints (s.sequence + 1) units.1 source) (s.sequence + 1)
        units.1 target
    supplyCheckpoints := writeCheckpoint s.supplyCheckpoints (s.sequence + 1) units.2
    updateLog := s.updateLog ++ [units] }

theorem baseUpdate_ok {s s' : VaultState} {source target : Address} {value : ℕ}
    (h : baseUpdate s source target value = .ok s') :
    (source = 0 → s.totalSupply + value < 2 ^ 256) ∧
      (source ≠ 0 → value ≤ s.balanceOf source) ∧
      s' = { s with
        balanceOf := (unitsMoved s.balanceOf s.totalSupply source target value).1
        totalSupply := (unitsMoved s.balanceOf s.totalSupply source target value).2 } := by
  unfold baseUpdate at h
  by_cases hsource : source = 0
  · simp only [if_pos hsource, bind_ok_iff, checkedAdd_ok_iff, pure_ok_iff] at h
    obtain ⟨_, ⟨hfits, -⟩, hs'⟩ := h
    exact ⟨fun _ => hfits, fun hne => absurd hsource hne, hs'.symm⟩
  · simp only [if_neg hsource, revertIf_bind_ok_iff, pure_ok_iff, not_lt] at h
    exact ⟨fun heq => absurd heq hsource, fun _ => h.1, h.2.symm⟩

theorem writeBalanceCheckpoint_ok {s s' : VaultState} {account : Address}
    (h : writeBalanceCheckpoint s account = .ok s') :
    (account ≠ 0 → s.balanceOf account < 2 ^ 208) ∧
      s' = { s with
        balanceCheckpoints := touched s.balanceCheckpoints s.sequence s.balanceOf account } := by
  unfold writeBalanceCheckpoint at h
  by_cases hzero : account = 0
  · rw [if_pos hzero, pure_ok_iff] at h
    exact ⟨fun hne => absurd hzero hne, by rw [← h, touched, if_pos hzero]⟩
  · simp only [if_neg hzero, revertIf_bind_ok_iff, pure_ok_iff] at h
    obtain ⟨hfits, hs'⟩ := h
    exact ⟨fun _ => by omega, by rw [← hs', touched, if_neg hzero]⟩

/-- Everything a committed `_update` establishes: it was admitted and covered,
the new supply fits a checkpoint, and the result is `updated`. -/
structure UpdateEffect (c : Chain W) (source target : Address) (value : ℕ) (c' : Chain W) :
    Prop where
  admitted : admitUpdate env terms c source target value = .ok ()
  mintFits : source = 0 → c.vault.totalSupply + value < 2 ^ 256
  covered : source ≠ 0 → value ≤ c.vault.balanceOf source
  supplyFits : (updated c.vault source target value).totalSupply < 2 ^ 208
  result : c' = { c with vault := updated c.vault source target value }

/-- The one inversion of `_update`. -/
theorem update_ok {c c' : Chain W} {source target : Address} {value : ℕ}
    (h : update env terms c source target value = .ok c') :
    UpdateEffect env terms c source target value c' := by
  simp only [update, bind_ok_iff, revertIf_ok_iff, pure_ok_iff] at h
  obtain ⟨⟨⟩, hadmission, ⟨⟩, -, s₁, hbase, s₂, hsource, s₃, htarget, s₄, hsupply, rfl⟩ := h
  obtain ⟨hmint, hcovered, rfl⟩ := baseUpdate_ok hbase
  obtain ⟨-, rfl⟩ := writeBalanceCheckpoint_ok hsource
  obtain ⟨-, rfl⟩ := writeBalanceCheckpoint_ok htarget
  simp only [writeSupplyCheckpoint, revertIf_bind_ok_iff, pure_ok_iff] at hsupply
  obtain ⟨hfits, rfl⟩ := hsupply
  refine ⟨hadmission, hmint, hcovered, ?_, rfl⟩
  simp only [updated]
  exact Nat.lt_of_le_pred (by decide) (not_lt.mp hfits)

/-! ## Balances and supply -/

/-- The units table is consistent: balances add up to the supply, and the
supply fits a word. -/
structure UnitsConsistent (s : VaultState) : Prop where
  total : ∑ account, s.balanceOf account = s.totalSupply
  fits : s.totalSupply < 2 ^ 256

theorem wrappingAdd_eq {a b : ℕ} (h : a + b < 2 ^ 256) : wrappingAdd a b = a + b :=
  Nat.mod_eq_of_lt h

theorem wrappingSub_eq {a b : ℕ} (hle : b ≤ a) (hfits : a < 2 ^ 256) :
    wrappingSub a b = a - b := by
  unfold wrappingSub
  rw [show a + 2 ^ 256 - b = (a - b) + 2 ^ 256 by omega, Nat.add_mod_right]
  exact Nat.mod_eq_of_lt (by omega)

section

variable {balances : Address → ℕ} {supply value : ℕ}

/-- A covered transfer moves no supply and, since no balance exceeds the
supply, its credit cannot wrap. -/
theorem unitsMoved_transfer (htotal : ∑ account, balances account = supply)
    (hfits : supply < 2 ^ 256) {source target : Address} (hsource : source ≠ 0)
    (htarget : target ≠ 0) (hcovered : value ≤ balances source) :
    unitsMoved balances supply source target value =
      (Ledger.moved balances source target value, supply) := by
  have hbound := le_sum (Ledger.moved balances source target value) target
  rw [sum_moved balances target hcovered, htotal] at hbound
  simp only [Ledger.moved, Function.update_self] at hbound
  simp only [unitsMoved, if_neg hsource, if_neg htarget, Ledger.moved]
  rw [wrappingAdd_eq (lt_of_le_of_lt hbound hfits)]

theorem unitsMoved_mint (htotal : ∑ account, balances account = supply)
    (hfits : supply + value < 2 ^ 256) {target : Address} (htarget : target ≠ 0) :
    unitsMoved balances supply 0 target value =
      (Function.update balances target (balances target + value), supply + value) := by
  have hbound := le_sum balances target
  rw [htotal] at hbound
  simp only [unitsMoved, if_true, if_neg htarget]
  rw [wrappingAdd_eq (by omega)]

theorem unitsMoved_burn (htotal : ∑ account, balances account = supply)
    (hfits : supply < 2 ^ 256) {source : Address} (hsource : source ≠ 0)
    (hcovered : value ≤ balances source) :
    unitsMoved balances supply source 0 value =
      (Function.update balances source (balances source - value), supply - value) := by
  have hbound := le_sum balances source
  rw [htotal] at hbound
  simp only [unitsMoved, if_neg hsource, if_true]
  rw [wrappingSub_eq (by omega) hfits]

end

section

variable {env terms} {c c' : Chain W} {source target account : Address} {value : ℕ}

/-- A transfer between accounts rearranges balances under an unchanged supply. -/
theorem transferUnits_ok (h : transferUnits env terms c source target value = .ok c')
    (hunits : UnitsConsistent c.vault) :
    value ≤ c.vault.balanceOf source ∧
      c'.vault.totalSupply = c.vault.totalSupply ∧ UnitsConsistent c'.vault ∧
      c' = { c with vault := updated c.vault source target value } := by
  simp only [transferUnits, revertIf_bind_ok_iff] at h
  obtain ⟨hsource, htarget, hupdate⟩ := h
  obtain ⟨-, -, hcovered, -, rfl⟩ := update_ok env terms hupdate
  have hmoved := unitsMoved_transfer hunits.total hunits.fits hsource htarget (hcovered hsource)
  refine ⟨hcovered hsource, ?_, ⟨?_, ?_⟩, rfl⟩
  · simp only [updated, hmoved]
  · simp only [updated, hmoved]
    rw [sum_moved _ _ (hcovered hsource), hunits.total]
  · simp only [updated, hmoved]
    exact hunits.fits

/-- A mint adds its value to one balance and to the supply. -/
theorem mint_ok (h : mint env terms c account value = .ok c')
    (hunits : UnitsConsistent c.vault) :
    c'.vault.totalSupply = c.vault.totalSupply + value ∧ UnitsConsistent c'.vault ∧
      c' = { c with vault := updated c.vault 0 account value } := by
  simp only [mint, revertIf_bind_ok_iff] at h
  obtain ⟨haccount, hupdate⟩ := h
  obtain ⟨-, hfits, -, -, rfl⟩ := update_ok env terms hupdate
  have hmoved := unitsMoved_mint hunits.total (hfits rfl) haccount
  refine ⟨?_, ⟨?_, ?_⟩, rfl⟩
  · simp only [updated, hmoved]
  · simp only [updated, hmoved]
    have hsum := sum_update_add c.vault.balanceOf account (c.vault.balanceOf account + value)
    have htotal := hunits.total
    omega
  · simp only [updated, hmoved]
    exact hfits rfl

/-- A burn takes its value from one balance and from the supply. -/
theorem burn_ok (h : burn env terms c account value = .ok c')
    (hunits : UnitsConsistent c.vault) :
    value ≤ c.vault.balanceOf account ∧
      c'.vault.totalSupply + value = c.vault.totalSupply ∧ UnitsConsistent c'.vault ∧
      c' = { c with vault := updated c.vault account 0 value } := by
  simp only [burn, revertIf_bind_ok_iff] at h
  obtain ⟨haccount, hupdate⟩ := h
  obtain ⟨-, -, hcovered, -, rfl⟩ := update_ok env terms hupdate
  have hle := hcovered haccount
  have hmoved := unitsMoved_burn hunits.total hunits.fits haccount hle
  have hbound := le_sum c.vault.balanceOf account
  rw [hunits.total] at hbound
  have hfits := hunits.fits
  refine ⟨hle, ?_, ⟨?_, ?_⟩, rfl⟩
  · simp only [updated, hmoved]
    omega
  · simp only [updated, hmoved]
    have hsum := sum_update_add c.vault.balanceOf account (c.vault.balanceOf account - value)
    have htotal := hunits.total
    omega
  · simp only [updated, hmoved]
    omega

end

/-! ## Movements along a call -/

/-- The storage a movement of units can touch. -/
structure UnitView where
  sequence : ℕ
  balanceCheckpoints : Address → List Checkpoint
  supplyCheckpoints : List Checkpoint
  balanceOf : Address → ℕ
  totalSupply : ℕ
  updateLog : List ((Address → ℕ) × ℕ)

def VaultState.unitView (s : VaultState) : UnitView where
  sequence := s.sequence
  balanceCheckpoints := s.balanceCheckpoints
  supplyCheckpoints := s.supplyCheckpoints
  balanceOf := s.balanceOf
  totalSupply := s.totalSupply
  updateLog := s.updateLog

/-- `s'` follows from `s` by movements of units and writes that do not concern
them. -/
inductive UnitMoves : VaultState → VaultState → Prop
  | other {s s' : VaultState} (hview : s'.unitView = s.unitView) : UnitMoves s s'
  | move (s : VaultState) (source target : Address) (value : ℕ)
      (hunits : UnitsConsistent (updated s source target value)) :
      UnitMoves s (updated s source target value)
  | trans {s₁ s₂ s₃ : VaultState} (hfirst : UnitMoves s₁ s₂) (hsecond : UnitMoves s₂ s₃) :
      UnitMoves s₁ s₃

/-- Writes that do not concern units may come first. -/
theorem UnitMoves.after {s s₁ s₂ : VaultState} (hmoves : UnitMoves s₁ s₂)
    (hview : s₁.unitView = s.unitView) : UnitMoves s s₂ :=
  .trans (.other hview) hmoves

/-- Units consistency reads balances and supply only. -/
theorem UnitsConsistent.congr {s s' : VaultState} (hunits : UnitsConsistent s)
    (hview : s'.unitView = s.unitView) : UnitsConsistent s' := by
  have hbalances : s'.balanceOf = s.balanceOf := congrArg UnitView.balanceOf hview
  have hsupply : s'.totalSupply = s.totalSupply := congrArg UnitView.totalSupply hview
  exact ⟨by rw [hbalances, hsupply, hunits.total], by rw [hsupply]; exact hunits.fits⟩

end Mordant.Vault
