/-
# The invoice vault: configuration and storage

`MordantInvoiceVault` is one buyer-accepted invoice together with its funded
exclusivity reserve.  Its immutables are `Terms`: the constructor's checks are
fields of that structure, so every later argument reads them off instead of
reproving them.  Its storage is the flat record `VaultState`, one field for each
storage variable, plus one history variable that no function reads.

The contracts the vault calls are not part of it.  Eligibility, custody and the
facility list are arbitrary functions of an arbitrary outside world, collected
in `Externals`; the settlement token is a ledger with exact transfers.
-/

import Mordant.Evm.Abi
import Mordant.Foundation.Call
import Mordant.Foundation.Checkpoint
import Mordant.Foundation.Ledger

namespace Mordant.Vault

open Evm Foundation

/-- Lifecycle of the exclusivity reserve. -/
inductive ProtectionState
  | unfunded | active | commitPending | conflictConfirmed | entitled | released
  deriving DecidableEq, Repr

/-- Lifecycle of the receivable itself. -/
inductive ReceivableState
  | unissued | outstanding | redeemed | defaultOutstanding
  deriving DecidableEq, Repr

/-- The vault's custom errors, the ERC-20 errors of its units, an arithmetic
panic, and the failure of a call into another contract. -/
inductive VaultError
  | invalidConfiguration | roleOverlap | invalidState
  | ineligible (account : Address) (role : ℕ)
  | unauthorized | invalidPledge | invalidSignature | alreadyUsed | invalidCommitment
  | windowClosed | windowOpen | invalidAmount | invalidAllocation | insufficientCva
  | cvaNotReady | settlementNotReady | accountingMismatch | nothingToClaim
  | erc20InvalidSender (account : Address) | erc20InvalidReceiver (account : Address)
  | erc20InvalidApprover (account : Address) | erc20InvalidSpender (account : Address)
  | erc20InsufficientBalance (account : Address) (balance needed : ℕ)
  | erc20InsufficientAllowance (spender : Address) (allowance needed : ℕ)
  | ecdsaFailure | settlementTransferFailed | externalCallFailed | panic
  deriving DecidableEq, Repr

instance : ArithmeticFault VaultError := ⟨.panic⟩

def roleBuyer : ℕ := 1
def roleOriginator : ℕ := 2
def roleFacility : ℕ := 3
def roleHolder : ℕ := 4

/-- The constructor argument. -/
structure Init where
  factory : Address
  cviVerifier : Address
  cvaAdapter : Address
  settlementToken : Address
  invoiceRoot : Bytes32
  currency : Bytes32
  buyer : Address
  originatorTreasury : Address
  initialOriginatorSigner : Address
  initialUnits : BitVec 256
  advanceAmount : BitVec 256
  faceValue : BitVec 256
  bondBps : BitVec 16
  protectionEnd : BitVec 64
  revealPeriod : BitVec 64
  curePeriod : BitVec 64

/-- A signed pledge of the invoice to one facility. -/
structure Pledge where
  invoiceRoot : Bytes32
  originatorSigner : Address
  facility : Address
  obligationId : Bytes32
  amount : BitVec 256
  currency : Bytes32
  activeFrom : BitVec 64
  activeUntil : BitVec 64
  nonce : BitVec 256
  deadline : BitVec 64
  exclusive : Bool
  deriving DecidableEq

/-- A signed withdrawal of a revealed pledge. -/
structure Cancellation where
  invoiceRoot : Bytes32
  pledgeDigest : Bytes32
  nonce : BitVec 256
  deadline : BitVec 64
  deriving DecidableEq

/-- The conflict under way, if any. `delete` resets every field to zero. -/
structure PendingConflict where
  commitment : Bytes32 := 0
  facility : Address := 0
  snapshotSequence : ℕ := 0
  snapshotSupply : ℕ := 0
  snapshotBond : ℕ := 0
  committedAt : ℕ := 0
  revealDeadline : ℕ := 0
  cureDeadline : ℕ := 0
  conflictingPledgeDigest : Bytes32 := 0
  conflictSigner : Address := 0
  deriving DecidableEq

/-- The immutables a successful construction fixes, with what its checks
establish about them. -/
structure Terms where
  /-- `address(this)`. -/
  vault : Address
  chainId : ℕ
  factory : Address
  cviVerifier : Address
  cvaAdapter : Address
  settlementToken : Address
  cvaToken : Address
  invoiceRoot : Bytes32
  currency : Bytes32
  buyer : Address
  originatorTreasury : Address
  initialUnits : ℕ
  advanceAmount : ℕ
  faceValue : ℕ
  initialBond : ℕ
  netProceeds : ℕ
  bondBps : ℕ
  protectionEnd : ℕ
  revealPeriod : ℕ
  curePeriod : ℕ
  units_pos : 0 < initialUnits
  units_lt : initialUnits < 2 ^ 208
  units_le_face : initialUnits ≤ faceValue
  face_lt : faceValue < 2 ^ 256
  advance_lt : advanceAmount < 2 ^ 256
  bond_pos : 0 < initialBond
  bond_lt : initialBond < advanceAmount
  net_eq : netProceeds = advanceAmount - initialBond

/-- Every storage variable of the vault, its ERC-20 storage included. -/
structure VaultState where
  protectionState : ProtectionState
  receivableState : ReceivableState
  authorizedOriginator : Address → Bool
  usedPledgeNonce : Address → BitVec 256 → Bool
  usedCancellationNonce : Address → BitVec 256 → Bool
  usedPledgeDigest : Bytes32 → Bool
  protectedFacility : Address
  protectedPledgeDigest : Bytes32
  protectedActiveFrom : ℕ
  protectedActiveUntil : ℕ
  pendingConflict : PendingConflict
  sequence : ℕ
  balanceCheckpoints : Address → List Checkpoint
  supplyCheckpoints : List Checkpoint
  cvaAccounted : ℕ
  cvaBurned : ℕ
  bondLocked : ℕ
  bondReturned : ℕ
  entitlementAllocated : ℕ
  entitlementClaimed : ℕ
  entitlementClaimedUnits : ℕ
  entitlementSnapshotSequence : ℕ
  entitlementSnapshotSupply : ℕ
  bondClaimedBy : Address → Bool
  redemptionEscrow : ℕ
  redeemedFace : ℕ
  cvaReleasedFace : ℕ
  defaultCvaReleaseStarted : Bool
  settlementCreditTotal : ℕ
  settlementCredit : Address → ℕ
  balanceOf : Address → ℕ
  totalSupply : ℕ
  allowance : Address → Address → ℕ
  /-- History variable: balances and supply right after each `_update`, oldest
  first. It is not storage and no function reads it. -/
  updateLog : List ((Address → ℕ) × ℕ)

/-- Storage right after construction. -/
def VaultState.initial (initialOriginatorSigner : Address) : VaultState where
  protectionState := .unfunded
  receivableState := .unissued
  authorizedOriginator := Function.update (fun _ => false) initialOriginatorSigner true
  usedPledgeNonce _ _ := false
  usedCancellationNonce _ _ := false
  usedPledgeDigest _ := false
  protectedFacility := 0
  protectedPledgeDigest := 0
  protectedActiveFrom := 0
  protectedActiveUntil := 0
  pendingConflict := {}
  sequence := 0
  balanceCheckpoints _ := []
  supplyCheckpoints := []
  cvaAccounted := 0
  cvaBurned := 0
  bondLocked := 0
  bondReturned := 0
  entitlementAllocated := 0
  entitlementClaimed := 0
  entitlementClaimedUnits := 0
  entitlementSnapshotSequence := 0
  entitlementSnapshotSupply := 0
  bondClaimedBy _ := false
  redemptionEscrow := 0
  redeemedFace := 0
  cvaReleasedFace := 0
  defaultCvaReleaseStarted := false
  settlementCreditTotal := 0
  settlementCredit _ := 0
  balanceOf _ := 0
  totalSupply := 0
  allowance _ _ := 0
  updateLog := []

/-- The contracts the vault calls, as functions of an arbitrary outside world.
The two custody mutators may change that world or fail; the two custody
balances may fail, as the sponsor adapter's do. -/
structure Externals (W : Type) where
  /-- `IMordantFactory`. -/
  isFacility : W → Address → Bool
  /-- `ICviVerifier`. -/
  hasValidIdentity : W → Address → Bool
  isEligible : W → Address → ℕ → Bool
  isEligibleForAsset : W → Address → ℕ → Address → Address → ℕ → Bool
  isAssetTransferAllowed : W → Address → Address → Address → ℕ → Bool
  /-- `ICvaAdapter`. -/
  asset : W → Address
  issuedSupply : W → Option ℕ
  availableBalance : W → Address → Option ℕ
  isActivationReady : W → Address → Bool
  isCashRedemptionReady : W → Address → Bool
  isRedemptionReady : W → Address → ℕ → Bool
  consumeOnRedemption : W → Address → ℕ → Option W
  releaseOnDefault : W → Address → Address → ℕ → Option W
  /-- Whether the settlement token accepts a transfer it can cover. -/
  settlementAccepts : W → Address → Address → ℕ → Bool

/-- The settlement token: an ERC-20 whose transfers move exactly the stated
amount. -/
abbrev Settlement := Ledger Address 256

/-- The vault with everything it can observe. -/
structure Chain (W : Type) where
  vault : VaultState
  token : Settlement
  world : W

theorem toNat_pos_of_ne_zero {n : ℕ} {x : BitVec n} (hne : x ≠ 0) : 0 < x.toNat :=
  Nat.pos_of_ne_zero fun hzero => hne (BitVec.eq_of_toNat_eq (by simpa using hzero))

/-- The disjunction the constructor rejects as `InvalidConfiguration`. -/
@[reducible]
def Init.Invalid (init : Init) (now : ℕ) : Prop :=
  init.factory = 0 ∨ init.cviVerifier = 0 ∨ init.cvaAdapter = 0 ∨ init.settlementToken = 0 ∨
    init.invoiceRoot = 0 ∨ init.currency = 0 ∨ init.buyer = 0 ∨ init.originatorTreasury = 0 ∨
    init.initialOriginatorSigner = 0 ∨ init.initialUnits = 0 ∨
    2 ^ 208 - 1 < init.initialUnits.toNat ∨ init.advanceAmount = 0 ∨
    init.faceValue.toNat < init.advanceAmount.toNat ∨
    init.faceValue.toNat < init.initialUnits.toNat ∨ init.bondBps = 0 ∨
    10000 ≤ init.bondBps.toNat ∨ init.protectionEnd.toNat ≤ now ∨ init.revealPeriod = 0 ∨
    init.curePeriod = 0

/-- `Math.mulDiv(advanceAmount, bondBps, 10_000)`. -/
def Init.initialBond (init : Init) : ℕ :=
  init.advanceAmount.toNat * init.bondBps.toNat / 10000

theorem Init.initialBond_lt {init : Init} {now : ℕ} (hvalid : ¬ init.Invalid now) :
    init.initialBond < init.advanceAmount.toNat := by
  simp only [Init.Invalid, not_or, not_le] at hvalid
  obtain ⟨-, -, -, -, -, -, -, -, -, -, -, hadvance, -, -, -, hbps, -⟩ := hvalid
  rw [Init.initialBond, Nat.div_lt_iff_lt_mul (by decide)]
  exact (Nat.mul_lt_mul_left (toNat_pos_of_ne_zero hadvance)).mpr hbps

/-- The constructor: checks, custody asset, role separation, and a bond that
must not round down to nothing. -/
def construct {W : Type} (env : Externals W) (world : W) (self : Address) (chainId now : ℕ)
    (init : Init) : Except VaultError (Terms × VaultState) :=
  if hvalid : init.Invalid now then .error .invalidConfiguration
  else if env.asset world = 0 then .error .invalidConfiguration
  else if init.buyer = init.originatorTreasury ∨ init.buyer = init.initialOriginatorSigner ∨
      env.isFacility world init.buyer = true ∨ env.isFacility world init.originatorTreasury = true ∨
      env.isFacility world init.initialOriginatorSigner = true then .error .roleOverlap
  else if hbond : init.initialBond = 0 then .error .invalidConfiguration
  else .ok
    ({ vault := self
       chainId := chainId
       factory := init.factory
       cviVerifier := init.cviVerifier
       cvaAdapter := init.cvaAdapter
       settlementToken := init.settlementToken
       cvaToken := env.asset world
       invoiceRoot := init.invoiceRoot
       currency := init.currency
       buyer := init.buyer
       originatorTreasury := init.originatorTreasury
       initialUnits := init.initialUnits.toNat
       advanceAmount := init.advanceAmount.toNat
       faceValue := init.faceValue.toNat
       initialBond := init.initialBond
       netProceeds := init.advanceAmount.toNat - init.initialBond
       bondBps := init.bondBps.toNat
       protectionEnd := init.protectionEnd.toNat
       revealPeriod := init.revealPeriod.toNat
       curePeriod := init.curePeriod.toNat
       units_pos := toNat_pos_of_ne_zero fun hzero => hvalid (by simp [Init.Invalid, hzero])
       units_lt := by
         by_contra hge
         exact hvalid (by unfold Init.Invalid; omega)
       units_le_face := by
         by_contra hlt
         exact hvalid (by unfold Init.Invalid; omega)
       face_lt := init.faceValue.isLt
       advance_lt := init.advanceAmount.isLt
       bond_pos := Nat.pos_of_ne_zero hbond
       bond_lt := Init.initialBond_lt hvalid
       net_eq := rfl },
     VaultState.initial init.initialOriginatorSigner)

/-- What the constructor establishes about the three time parameters: both
periods are positive, and all three are 64-bit. -/
structure Terms.Timed (terms : Terms) : Prop where
  end_lt : terms.protectionEnd < 2 ^ 64
  reveal_pos : 0 < terms.revealPeriod
  reveal_lt : terms.revealPeriod < 2 ^ 64
  cure_pos : 0 < terms.curePeriod
  cure_lt : terms.curePeriod < 2 ^ 64

theorem construct_ok {W : Type} {env : Externals W} {world : W} {self : Address} {chainId now : ℕ}
    {init : Init} {terms : Terms} {s : VaultState}
    (h : construct env world self chainId now init = .ok (terms, s)) :
    s = VaultState.initial init.initialOriginatorSigner ∧ terms.Timed := by
  unfold construct at h
  split at h
  · exact nomatch h
  · next hvalid =>
      split at h
      · exact nomatch h
      · split at h
        · exact nomatch h
        · split at h
          · exact nomatch h
          · obtain ⟨rfl, rfl⟩ := Prod.mk.inj (Except.ok.inj h)
            simp only [Init.Invalid, not_or] at hvalid
            obtain ⟨-, -, -, -, -, -, -, -, -, -, -, -, -, -, -, -, -, hreveal, hcure⟩ := hvalid
            exact ⟨rfl, ⟨init.protectionEnd.isLt, toNat_pos_of_ne_zero hreveal,
              init.revealPeriod.isLt, toNat_pos_of_ne_zero hcure, init.curePeriod.isLt⟩⟩

end Mordant.Vault
