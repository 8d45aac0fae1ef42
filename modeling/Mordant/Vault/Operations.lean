/-
# The vault's entry points

Every external function of the vault, in the order of the source.  A function
that ends in `_assertAccounting` is given as a body followed by `closing`, so
that what the body alone guarantees can be compared with what the assertion
then demands.

Emitted events are not part of the model.  A call is atomic: the functions that
hand control to another contract either hold the reentrancy lock or have
written their state before they do.
-/

import Mordant.Vault.Settlement

namespace Mordant.Vault

open Evm Foundation

variable {W : Type} (crypto : Crypto) (env : Externals W) (terms : Terms)

/-! ## Typed data -/

def pledgeTypehash : Bytes32 := crypto.keccakText
  ("Pledge(bytes32 invoiceRoot,address originatorSigner,address facility," ++
    "bytes32 obligationId,uint256 amount,bytes32 currency,uint64 activeFrom," ++
    "uint64 activeUntil,uint256 nonce,uint64 deadline,bool exclusive)")

def cancellationTypehash : Bytes32 := crypto.keccakText
  "Cancellation(bytes32 invoiceRoot,bytes32 pledgeDigest,uint256 nonce,uint64 deadline)"

/-- `_hashTypedDataV4` in the domain `("Mordant", "1")`. -/
def hashTypedDataV4 (structHash : Bytes32) : Bytes32 :=
  crypto.typedDataHash (crypto.domainSeparator "Mordant" "1" terms.chainId terms.vault) structHash

def hashPledge (pledge : Pledge) : Bytes32 :=
  hashTypedDataV4 crypto terms (crypto.hashWords
    [pledgeTypehash crypto, pledge.invoiceRoot, addressWord pledge.originatorSigner,
      addressWord pledge.facility, pledge.obligationId, pledge.amount, pledge.currency,
      pledge.activeFrom.setWidth 256, pledge.activeUntil.setWidth 256, pledge.nonce,
      pledge.deadline.setWidth 256, boolWord pledge.exclusive])

def hashCancellation (cancellation : Cancellation) : Bytes32 :=
  hashTypedDataV4 crypto terms (crypto.hashWords
    [cancellationTypehash crypto, cancellation.invoiceRoot, cancellation.pledgeDigest,
      cancellation.nonce, cancellation.deadline.setWidth 256])

def conflictCommitment (pledgeDigest signatureHash : Bytes32) (facility : Address)
    (salt : Bytes32) : Bytes32 :=
  crypto.hashWords
    [pledgeDigest, signatureHash, addressWord facility, addressWord terms.vault, salt]

/-- `_validatePledge`: the pledge is for this invoice, in force at `validAt`,
and signed by an authorised originator; its digest is returned. -/
def validatePledge (c : Chain W) (pledge : Pledge) (signature : Bytes) (facilityCaller : Address)
    (validAt : ℕ) : Except VaultError Bytes32 := do
  revertIf (pledge.invoiceRoot ≠ terms.invoiceRoot ∨ pledge.facility ≠ facilityCaller ∨
    pledge.amount.toNat ≠ terms.faceValue ∨ pledge.currency ≠ terms.currency ∨
    pledge.exclusive = false ∨ validAt < pledge.activeFrom.toNat ∨
    pledge.activeUntil.toNat ≤ validAt ∨ pledge.deadline.toNat < validAt ∨
    pledge.activeUntil.toNat ≤ pledge.activeFrom.toNat ∨
    c.vault.authorizedOriginator pledge.originatorSigner = false ∨
    env.isFacility c.world facilityCaller = false ∨ facilityCaller = terms.buyer ∨
    facilityCaller = terms.originatorTreasury ∨
    c.vault.authorizedOriginator facilityCaller = true) .invalidPledge
  requireEligible env c pledge.originatorSigner roleOriginator
  requireEligible env c facilityCaller roleFacility
  let digest := hashPledge crypto terms pledge
  let signer ← require .ecdsaFailure (crypto.ecdsaRecover digest signature)
  revertIf (signer ≠ pledge.originatorSigner) .invalidSignature
  pure digest

/-- Mark a pledge digest and its signer's nonce as used. -/
def VaultState.spendPledge (s : VaultState) (digest : Bytes32) (pledge : Pledge) : VaultState :=
  { s with
    usedPledgeDigest := Function.update s.usedPledgeDigest digest true
    usedPledgeNonce := Function.update s.usedPledgeNonce pledge.originatorSigner
      (Function.update (s.usedPledgeNonce pledge.originatorSigner) pledge.nonce true) }

/-- Whether a pledge digest or its signer's nonce has been used. -/
def VaultState.PledgeSpent (s : VaultState) (digest : Bytes32) (pledge : Pledge) : Prop :=
  s.usedPledgeDigest digest = true ∨ s.usedPledgeNonce pledge.originatorSigner pledge.nonce = true

instance (s : VaultState) (digest : Bytes32) (pledge : Pledge) :
    Decidable (s.PledgeSpent digest pledge) := by
  unfold VaultState.PledgeSpent
  infer_instance

/-- The final `_assertAccounting` of a function. -/
def closing (c : Chain W) : Except VaultError (Chain W) := do
  assertAccounting env terms c
  pure c

/-! ## Issuance -/

def authorizeOriginatorWallet (c : Chain W) (msg : Msg) (signer : Address) :
    Except VaultError (Chain W) := do
  revertIf (msg.sender ≠ terms.buyer) .unauthorized
  requireEligible env c terms.buyer roleBuyer
  requireEligible env c signer roleOriginator
  revertIf (signer = terms.buyer ∨ env.isFacility c.world signer = true) .roleOverlap
  revertIf (signer = 0 ∨ c.vault.balanceOf signer ≠ 0) .invalidConfiguration
  assertFundedCvaIntegrity env terms c
  pure { c with vault := { c.vault with
    authorizedOriginator := Function.update c.vault.authorizedOriginator signer true } }

/-- The allocation loop of `activate`: positive shares, distinct and eligible
holders, custody ready for each share. Returns the allocated total. -/
def checkAllocations (c : Chain W) :
    List Address → ℕ → List (Address × ℕ) → Except VaultError ℕ
  | _, allocated, [] => pure allocated
  | seen, allocated, (holder, allocation) :: rest => do
    revertIf (allocation = 0) .invalidAllocation
    revertIf (holder ∈ seen) .invalidAllocation
    requireHolder env terms c holder allocation
    revertIf (env.isRedemptionReady c.world terms.vault allocation = false) .cvaNotReady
    let allocated ← checkedAdd 256 allocated allocation
    checkAllocations c (seen ++ [holder]) allocated rest

/-- The minting loop of `activate`. -/
def mintAll (c : Chain W) : List (Address × ℕ) → Except VaultError (Chain W)
  | [] => pure c
  | (holder, allocation) :: rest => do
    let c ← mint env terms c holder allocation
    mintAll c rest

/-- Storage `activate` writes between collecting the advance and minting. -/
def VaultState.activated (s : VaultState) (terms : Terms) (pledge : Pledge) (digest : Bytes32)
    (facility : Address) : VaultState :=
  { s.spendPledge digest pledge with
    protectedPledgeDigest := digest
    protectedFacility := facility
    protectedActiveFrom := pledge.activeFrom.toNat
    protectedActiveUntil := pledge.activeUntil.toNat
    cvaAccounted := terms.initialUnits
    bondLocked := terms.initialBond
    protectionState := .active
    receivableState := .outstanding }

def activateBody (c : Chain W) (msg : Msg) (pledge : Pledge) (signature : Bytes)
    (funder : Address) (holders : List Address) (allocations : List (BitVec 256)) :
    Except VaultError (Chain W) := do
  revertIf (c.vault.protectionState ≠ .unfunded ∨ c.vault.receivableState ≠ .unissued)
    .invalidState
  revertIf (holders.length = 0 ∨ holders.length ≠ allocations.length) .invalidAllocation
  let digest ←
    validatePledge crypto env terms c pledge signature msg.sender (toUint64 msg.timestamp)
  revertIf (pledge.activeUntil.toNat < terms.protectionEnd) .invalidPledge
  revertIf (c.vault.PledgeSpent digest pledge) .alreadyUsed
  let available ← require .externalCallFailed (env.availableBalance c.world terms.vault)
  revertIf (available ≠ terms.initialUnits) .insufficientCva
  revertIf (env.asset c.world ≠ terms.cvaToken) .accountingMismatch
  let issued ← require .externalCallFailed (env.issuedSupply c.world)
  revertIf (issued ≠ terms.initialUnits) .accountingMismatch
  revertIf (env.isActivationReady c.world terms.vault = false) .cvaNotReady
  requireSettlementIdentity env terms c
  requireHolderRole env terms c funder
  let shares := holders.zip (allocations.map BitVec.toNat)
  let allocated ← checkAllocations env terms c [] 0 shares
  revertIf (allocated ≠ terms.initialUnits) .invalidAllocation
  let c ← collectExact env terms c funder terms.advanceAmount
  let c ← mintAll env terms
    { c with vault := c.vault.activated terms pledge digest msg.sender } shares
  transferExact env terms c terms.originatorTreasury terms.netProceeds

def activate (c : Chain W) (msg : Msg) (pledge : Pledge) (signature : Bytes) (funder : Address)
    (holders : List Address) (allocations : List (BitVec 256)) : Except VaultError (Chain W) :=
  activateBody crypto env terms c msg pledge signature funder holders allocations >>=
    closing env terms

/-! ## Conflicts -/

/-- `commitConflict(commitment)`: snapshot the supply and the bond it exposes. -/
def commitConflict (c : Chain W) (msg : Msg) (commitment : Bytes32) :
    Except VaultError (Chain W) := do
  assertCvaIntegrity env terms c
  revertIf (c.vault.protectionState ≠ .active) .invalidState
  revertIf (commitment = 0) .invalidCommitment
  revertIf (terms.protectionEnd < msg.timestamp) .windowClosed
  revertIf (msg.sender = c.vault.protectedFacility ∨ msg.sender = terms.buyer ∨
    msg.sender = terms.originatorTreasury ∨ c.vault.authorizedOriginator msg.sender = true ∨
    env.isFacility c.world msg.sender = false) .unauthorized
  requireEligible env c msg.sender roleFacility
  let supply := c.vault.totalSupply
  revertIf (supply = 0 ∨ 2 ^ 208 - 1 < supply) .invalidState
  let exposedBond ← requiredBond terms supply
  revertIf (c.vault.bondLocked < exposedBond) .accountingMismatch
  let revealDeadline ← checkedAdd 64 (toUint64 msg.timestamp) terms.revealPeriod
  pure { c with vault := { c.vault with
    pendingConflict :=
      { commitment := commitment
        facility := msg.sender
        snapshotSequence := c.vault.sequence
        snapshotSupply := supply
        snapshotBond := exposedBond
        committedAt := toUint64 msg.timestamp
        revealDeadline := revealDeadline }
    protectionState := .commitPending } }

def revealConflict (c : Chain W) (msg : Msg) (pledge : Pledge) (signature : Bytes)
    (salt : Bytes32) : Except VaultError (Chain W) := do
  assertCvaIntegrity env terms c
  revertIf (c.vault.protectionState ≠ .commitPending) .invalidState
  let pending := c.vault.pendingConflict
  revertIf (msg.sender ≠ pending.facility) .unauthorized
  revertIf (pending.revealDeadline < msg.timestamp) .windowClosed
  let digest ←
    validatePledge crypto env terms c pledge signature msg.sender pending.committedAt
  revertIf (conflictCommitment crypto terms digest (crypto.keccak256 signature) msg.sender salt ≠
    pending.commitment) .invalidCommitment
  revertIf (msg.sender = c.vault.protectedFacility) .invalidPledge
  revertIf (c.vault.protectedActiveUntil ≤ pledge.activeFrom.toNat ∨
    pledge.activeUntil.toNat ≤ c.vault.protectedActiveFrom) .invalidPledge
  revertIf (c.vault.PledgeSpent digest pledge) .alreadyUsed
  let cureDeadline ← checkedAdd 64 (toUint64 msg.timestamp) terms.curePeriod
  pure { c with vault := { c.vault.spendPledge digest pledge with
    pendingConflict :=
      { pending with
        conflictingPledgeDigest := digest
        conflictSigner := pledge.originatorSigner
        cureDeadline := cureDeadline }
    protectionState := .conflictConfirmed } }

/-- `delete pendingConflict`, back to `Active`, and trim the bond. -/
def reopen (s : VaultState) : Except VaultError VaultState :=
  releaseExcessBond terms { s with pendingConflict := {}, protectionState := .active }

def expireCommitBody (c : Chain W) (msg : Msg) : Except VaultError (Chain W) := do
  revertIf (c.vault.protectionState ≠ .commitPending) .invalidState
  revertIf (msg.timestamp ≤ c.vault.pendingConflict.revealDeadline) .windowOpen
  let s ← reopen terms c.vault
  pure { c with vault := s }

def expireCommit (c : Chain W) (msg : Msg) : Except VaultError (Chain W) :=
  expireCommitBody terms c msg >>= closing env terms

def cureConflictBody (c : Chain W) (msg : Msg) (cancellation : Cancellation)
    (signature : Bytes) : Except VaultError (Chain W) := do
  revertIf (c.vault.protectionState ≠ .conflictConfirmed) .invalidState
  let pending := c.vault.pendingConflict
  revertIf (msg.sender ≠ pending.facility) .unauthorized
  requireEligible env c msg.sender roleFacility
  revertIf (pending.cureDeadline < msg.timestamp ∨ cancellation.deadline.toNat < msg.timestamp)
    .windowClosed
  revertIf (cancellation.invoiceRoot ≠ terms.invoiceRoot ∨
    cancellation.pledgeDigest ≠ pending.conflictingPledgeDigest) .invalidPledge
  revertIf (c.vault.usedCancellationNonce pending.conflictSigner cancellation.nonce = true)
    .alreadyUsed
  let signer ← require .ecdsaFailure
    (crypto.ecdsaRecover (hashCancellation crypto terms cancellation) signature)
  revertIf (signer ≠ pending.conflictSigner) .invalidSignature
  let s ← reopen terms { c.vault with
    usedCancellationNonce := Function.update c.vault.usedCancellationNonce pending.conflictSigner
      (Function.update (c.vault.usedCancellationNonce pending.conflictSigner)
        cancellation.nonce true) }
  pure { c with vault := s }

def cureConflict (c : Chain W) (msg : Msg) (cancellation : Cancellation) (signature : Bytes) :
    Except VaultError (Chain W) :=
  cureConflictBody crypto env terms c msg cancellation signature >>= closing env terms

def finalizeConflictBody (c : Chain W) (msg : Msg) : Except VaultError (Chain W) := do
  revertIf (c.vault.protectionState ≠ .conflictConfirmed) .invalidState
  let pending := c.vault.pendingConflict
  revertIf (msg.timestamp ≤ pending.cureDeadline) .windowOpen
  revertIf (c.vault.bondLocked < pending.snapshotBond ∨ c.vault.entitlementAllocated ≠ 0)
    .accountingMismatch
  let bondLocked ← checkedSub c.vault.bondLocked pending.snapshotBond
  pure { c with vault := { c.vault with
    entitlementSnapshotSequence := pending.snapshotSequence
    entitlementSnapshotSupply := pending.snapshotSupply
    entitlementAllocated := pending.snapshotBond
    bondLocked := bondLocked
    pendingConflict := {}
    protectionState := .entitled } }

def finalizeConflict (c : Chain W) (msg : Msg) : Except VaultError (Chain W) :=
  finalizeConflictBody c msg >>= closing env terms

/-! ## Money out and in -/

/-- The amount of a bond claim: the last claim takes what is left. -/
def bondAmount (s : VaultState) (units nextClaimedUnits : ℕ) : Except VaultError ℕ :=
  if nextClaimedUnits = s.entitlementSnapshotSupply then
    checkedSub s.entitlementAllocated s.entitlementClaimed
  else mulDiv 256 s.entitlementAllocated units s.entitlementSnapshotSupply

def claimBondBody (c : Chain W) (msg : Msg) : Except VaultError (ℕ × Chain W) := do
  revertIf (c.vault.protectionState ≠ .entitled ∨ c.vault.bondClaimedBy msg.sender = true)
    .nothingToClaim
  let units ← balanceAt c.vault msg.sender c.vault.entitlementSnapshotSequence
  revertIf (units = 0) .nothingToClaim
  requireHolderRole env terms c msg.sender
  let nextClaimedUnits ← checkedAdd 256 c.vault.entitlementClaimedUnits units
  revertIf (c.vault.entitlementSnapshotSupply < nextClaimedUnits) .accountingMismatch
  let amount ← bondAmount c.vault units nextClaimedUnits
  let claimed ← checkedAdd 256 c.vault.entitlementClaimed amount
  let c ← transferExact env terms
    { c with vault := { c.vault with
      bondClaimedBy := Function.update c.vault.bondClaimedBy msg.sender true
      entitlementClaimedUnits := nextClaimedUnits
      entitlementClaimed := claimed } } msg.sender amount
  pure (amount, c)

def claimBond (c : Chain W) (msg : Msg) : Except VaultError (ℕ × Chain W) := do
  let (amount, c) ← claimBondBody env terms c msg
  let c ← closing env terms c
  pure (amount, c)

def fundRedemptionBody (c : Chain W) (msg : Msg) (amount : ℕ) : Except VaultError (Chain W) := do
  revertIf (msg.sender ≠ terms.buyer) .unauthorized
  assertCvaIntegrity env terms c
  revertIf (c.vault.receivableState ≠ .outstanding ∧
    c.vault.receivableState ≠ .defaultOutstanding) .invalidState
  revertIf (amount = 0) .invalidAmount
  let remaining ← remainingLiability terms c.vault
  let remainingUnfundedLiability ← checkedSub remaining c.vault.redemptionEscrow
  revertIf (c.vault.receivableState = .defaultOutstanding ∧ amount ≠ remainingUnfundedLiability)
    .invalidAmount
  revertIf (remainingUnfundedLiability < amount) .invalidAmount
  revertIf (env.isCashRedemptionReady c.world terms.vault = false) .cvaNotReady
  requireSettlementIdentity env terms c
  let c ← collectExact env terms c msg.sender amount
  let escrow ← checkedAdd 256 c.vault.redemptionEscrow amount
  pure { c with vault := { c.vault with redemptionEscrow := escrow } }

def fundRedemption (c : Chain W) (msg : Msg) (amount : ℕ) : Except VaultError (Chain W) :=
  fundRedemptionBody env terms c msg amount >>= closing env terms

def claimSettlementCreditBody (c : Chain W) (msg : Msg) : Except VaultError (ℕ × Chain W) := do
  let amount := c.vault.settlementCredit msg.sender
  revertIf (amount = 0) .nothingToClaim
  let total ← checkedSub c.vault.settlementCreditTotal amount
  let c ← transferExact env terms
    { c with vault := { c.vault with
      settlementCredit := Function.update c.vault.settlementCredit msg.sender 0
      settlementCreditTotal := total } } msg.sender amount
  pure (amount, c)

def claimSettlementCredit (c : Chain W) (msg : Msg) : Except VaultError (ℕ × Chain W) := do
  let (amount, c) ← claimSettlementCreditBody env terms c msg
  let c ← closing env terms c
  pure (amount, c)

/-- A custody call that must take exactly `units` out of custody. -/
def custodyExit (c : Chain W) (units : ℕ) (call : Option W) : Except VaultError (Chain W) := do
  let cvaBefore ← require .externalCallFailed (env.availableBalance c.world terms.vault)
  let world ← require .externalCallFailed call
  let cvaAfter ← require .externalCallFailed (env.availableBalance world terms.vault)
  revertIf (cvaBefore < cvaAfter ∨ cvaBefore - cvaAfter ≠ units) .accountingMismatch
  pure { c with world := world }

/-- An active reserve follows the supply down, and is released with the last
unit. -/
def followSupply (s : VaultState) : Except VaultError VaultState :=
  if s.protectionState = .active then do
    let s ← releaseExcessBond terms s
    pure (if s.totalSupply = 0 then { s with protectionState := .released } else s)
  else pure s

/-- `if (totalSupply() == 0) receivableState = ReceivableState.Redeemed`. -/
def retireReceivable (s : VaultState) : VaultState :=
  if s.totalSupply = 0 then { s with receivableState := .redeemed } else s

/-- `redeem` up to and including the payout. -/
def redeemPaid (c : Chain W) (msg : Msg) (units : ℕ) : Except VaultError (ℕ × Chain W) := do
  revertIf (c.vault.receivableState ≠ .outstanding ∧
    c.vault.receivableState ≠ .defaultOutstanding) .invalidState
  let supplyBefore := c.vault.totalSupply
  revertIf (units = 0 ∨ c.vault.balanceOf msg.sender < units) .invalidAmount
  requireHolderRole env terms c msg.sender
  let amount ← faceAmount terms c.vault units supplyBefore
  revertIf (c.vault.redemptionEscrow < amount ∨ c.vault.cvaAccounted < units) .invalidAmount
  let c ← custodyExit env terms c units (env.consumeOnRedemption c.world terms.vault units)
  let accounted ← checkedSub c.vault.cvaAccounted units
  let burned ← checkedAdd 256 c.vault.cvaBurned units
  let escrow ← checkedSub c.vault.redemptionEscrow amount
  let redeemed ← checkedAdd 256 c.vault.redeemedFace amount
  let c ← burn env terms
    { c with vault := { c.vault with
      cvaAccounted := accounted
      cvaBurned := burned
      redemptionEscrow := escrow
      redeemedFace := redeemed } } msg.sender units
  let c ← transferExact env terms c msg.sender amount
  pure (amount, c)

def redeemBody (c : Chain W) (msg : Msg) (units : ℕ) : Except VaultError (ℕ × Chain W) := do
  let (amount, c) ← redeemPaid env terms c msg units
  let s ← refundExcessRedemptionEscrow terms c.vault
  let s ← followSupply terms s
  pure (amount, { c with vault := retireReceivable s })

def redeem (c : Chain W) (msg : Msg) (units : ℕ) : Except VaultError (ℕ × Chain W) := do
  let (amount, c) ← redeemBody env terms c msg units
  let c ← closing env terms c
  pure (amount, c)

/-! ## Closing and default -/

def closeProtectionBody (c : Chain W) (msg : Msg) : Except VaultError (Chain W) := do
  assertCvaIntegrity env terms c
  revertIf (c.vault.protectionState ≠ .active) .invalidState
  revertIf (c.vault.totalSupply ≠ 0 ∧ msg.timestamp ≤ terms.protectionEnd) .windowOpen
  let receivableState : ReceivableState :=
    if c.vault.totalSupply ≠ 0 then .defaultOutstanding else .redeemed
  let s ← returnAllLockedBond terms { c.vault with receivableState := receivableState }
  pure { c with vault := { s with protectionState := .released } }

def closeProtection (c : Chain W) (msg : Msg) : Except VaultError (Chain W) :=
  closeProtectionBody env terms c msg >>= closing env terms

def markDefaultBody (c : Chain W) (msg : Msg) : Except VaultError (Chain W) := do
  assertCvaIntegrity env terms c
  revertIf (c.vault.protectionState ≠ .entitled) .invalidState
  revertIf (c.vault.receivableState ≠ .outstanding) .invalidState
  revertIf (msg.timestamp ≤ terms.protectionEnd) .windowOpen
  pure { c with vault := { c.vault with receivableState := .defaultOutstanding } }

def markDefault (c : Chain W) (msg : Msg) : Except VaultError (Chain W) :=
  markDefaultBody env terms c msg >>= closing env terms

/-- `releaseDefaultCva` up to and including the burn. -/
def defaultCvaReleased (c : Chain W) (msg : Msg) (units : ℕ) : Except VaultError (Chain W) := do
  revertIf (c.vault.receivableState ≠ .defaultOutstanding) .invalidState
  let holderBalance := c.vault.balanceOf msg.sender
  revertIf (units = 0 ∨ holderBalance < units ∨ c.vault.cvaAccounted < units) .invalidAmount
  -- the holder's complete remaining claim is probed, not only this release
  requireHolder env terms c msg.sender holderBalance
  let supplyBefore := c.vault.totalSupply
  let holderCashAmount ← faceAmount terms c.vault holderBalance supplyBefore
  revertIf (holderCashAmount ≤ c.vault.redemptionEscrow ∧
    env.isRedemptionReady c.world terms.vault holderBalance = true ∧
    env.isAssetTransferAllowed c.world terms.settlementToken terms.vault msg.sender
      holderCashAmount = true) .invalidState
  let releasedFace ← faceAmount terms c.vault units supplyBefore
  let c ← custodyExit env terms
    { c with vault := { c.vault with defaultCvaReleaseStarted := true } } units
    (env.releaseOnDefault c.world terms.vault msg.sender units)
  let accounted ← checkedSub c.vault.cvaAccounted units
  let released ← checkedAdd 256 c.vault.cvaReleasedFace releasedFace
  burn env terms
    { c with vault := { c.vault with
      cvaAccounted := accounted
      cvaReleasedFace := released } } msg.sender units

def releaseDefaultCvaBody (c : Chain W) (msg : Msg) (units : ℕ) :
    Except VaultError (Chain W) := do
  let c ← defaultCvaReleased env terms c msg units
  let s ← refundExcessRedemptionEscrow terms c.vault
  pure { c with vault := retireReceivable s }

def releaseDefaultCva (c : Chain W) (msg : Msg) (units : ℕ) : Except VaultError (Chain W) :=
  releaseDefaultCvaBody env terms c msg units >>= closing env terms

/-! ## The ERC-20 surface -/

/-- `_approve(owner, spender, value)`. -/
def approveUnits (s : VaultState) (owner spender : Address) (value : ℕ) :
    Except VaultError VaultState := do
  revertIf (owner = 0) (.erc20InvalidApprover 0)
  revertIf (spender = 0) (.erc20InvalidSpender 0)
  pure { s with
    allowance :=
      Function.update s.allowance owner (Function.update (s.allowance owner) spender value) }

/-- `_spendAllowance`: an infinite allowance is not spent. -/
def spendAllowance (s : VaultState) (owner spender : Address) (value : ℕ) :
    Except VaultError VaultState :=
  let current := s.allowance owner spender
  if current < 2 ^ 256 - 1 then do
    revertIf (current < value) (.erc20InsufficientAllowance spender current value)
    approveUnits s owner spender (current - value)
  else pure s

def transfer (c : Chain W) (msg : Msg) (target : Address) (value : ℕ) :
    Except VaultError (Chain W) :=
  transferUnits env terms c msg.sender target value

def approve (c : Chain W) (msg : Msg) (spender : Address) (value : ℕ) :
    Except VaultError (Chain W) := do
  let s ← approveUnits c.vault msg.sender spender value
  pure { c with vault := s }

def transferFrom (c : Chain W) (msg : Msg) (source target : Address) (value : ℕ) :
    Except VaultError (Chain W) := do
  let s ← spendAllowance c.vault source msg.sender value
  transferUnits env terms { c with vault := s } source target value

end Mordant.Vault
