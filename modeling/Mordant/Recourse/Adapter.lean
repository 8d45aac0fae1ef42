/-
# The settlement adapters

`MordantRecourseAdapter` and `MordantCoalitionAdapter` settle released conflict
decisions out of a funded reserve.  They differ in the release they accept and
in one gate before a payout; everything else is the same text and is written
once here: the reserve, the record of an accepted release, and the lifecycle of
a case.

Emitted events are part of the state.  They are the only record of what was
funded, withdrawn and paid in total.
-/

import Mordant.Evm.Abi
import Mordant.Foundation.Call
import Mordant.Foundation.Ledger

namespace Mordant.Recourse

open Evm Foundation

/-- Lifecycle of one run. -/
inductive CaseState
  | none | cureOpen | cured | entitled | claimed | refused
  deriving DecidableEq, Repr

/-- The errors of both adapters, and the failure of a call into another
contract. -/
inductive AdapterError
  | zeroAddress | zeroAmount | notOwner | notFacility
  | wrongState (state : CaseState)
  | runConsumed (runId : Bytes32) | resultConsumed (resultDigest : Bytes32)
  | attestationConsumed (attestationDigest : Bytes32)
  | badAttestor (recovered : Address) | badAsset (supplied : Bytes32)
  | governedAuthorityMismatch (supplied expected : Bytes32)
  | coalitionAuthorityMismatch (supplied expected : Bytes32)
  | quorumTooSmall (supplied required : ℕ)
  | nonCanonicalDecision (sameEconomicAsset policyConflict : Bool)
  | badReleaseMode (supplied : Bytes32) | badCircuit
  | expired (expiry : ℕ) | notYetIssued (issuedAt : ℕ)
  | insufficientReserve (required available : ℕ)
  | windowOpen | windowClosed | alreadyPaid | nothingToPay
  | ineligible (account : Address) (role : ℕ)
  | transferPolicyDenied (holder : Address) (amount : ℕ)
  | payoutOnNoConflict | insolvent | ecdsaFailure | transferFailed | panic
  deriving DecidableEq, Repr

instance : ArithmeticFault AdapterError := ⟨.panic⟩

def roleFacility : ℕ := 3
def roleHolder : ℕ := 4

/-- One run's case. -/
structure Case where
  state : CaseState := .none
  paidA : Bool := false
  paidB : Bool := false
  cureDeadline : ℕ := 0
  holderA : Address := 0
  holderB : Address := 0
  payoutA : ℕ := 0
  payoutB : ℕ := 0
  deriving DecidableEq

/-- The events of both adapters. A governed release carries one Boolean, a
coalition release two. -/
inductive Log
  | reserveFunded (payer : Address) (amount available : ℕ)
  | reserveWithdrawn (target : Address) (amount available : ℕ)
  | releaseConsumed (runId : Bytes32) (facts : List Bool) (resultDigest : Bytes32)
  | cureWindowOpened (runId : Bytes32) (cureDeadline reserved : ℕ)
  | conflictCured (runId : Bytes32) (released : ℕ)
  | recourseRefused (runId : Bytes32)
  | entitlementOpened (runId : Bytes32) (amount : ℕ)
  | claimed (runId : Bytes32) (holder : Address) (amount : ℕ)

/-- The immutables both adapters fix, with what their constructors check. The
authority is the governed release authority or the coalition's manifest. -/
structure AdapterTerms where
  /-- `address(this)`. -/
  adapter : Address
  deployedChainId : ℕ
  settlementToken : Address
  cviVerifier : Address
  attestor : Address
  facility : Address
  owner : Address
  assetIdentityDigest : Bytes32
  expectedAuthorityId : Bytes32
  releaseMode : Bytes32
  circuitHash : Bytes32
  parameterFingerprint : Bytes32
  cureWindow : BitVec 64

/-- The checks both constructors make, in their order. -/
def AdapterTerms.check (terms : AdapterTerms) : Except AdapterError Unit := do
  revertIf (terms.settlementToken = 0 ∨ terms.cviVerifier = 0 ∨ terms.attestor = 0 ∨
    terms.facility = 0 ∨ terms.owner = 0) .zeroAddress
  revertIf (terms.assetIdentityDigest = 0 ∨ terms.expectedAuthorityId = 0 ∨
    terms.releaseMode = 0 ∨ terms.circuitHash = 0 ∨ terms.parameterFingerprint = 0 ∨
    terms.cureWindow = 0) .zeroAmount

/-- Storage, and the events emitted so far, newest first. -/
structure AdapterState where
  availableReserve : ℕ := 0
  openReserved : ℕ := 0
  entitledUnpaid : ℕ := 0
  caseByRun : Bytes32 → Case := fun _ => {}
  resultConsumed : Bytes32 → Bool := fun _ => false
  attestationConsumed : Bytes32 → Bool := fun _ => false
  logs : List Log := []

/-- The contracts an adapter calls, and the chain it runs on, as functions of an
arbitrary outside world. -/
structure Externals (W : Type) where
  /-- `block.chainid`. -/
  chainId : W → ℕ
  /-- `ICviVerifier`. -/
  isEligible : W → Address → ℕ → Bool
  isAssetTransferAllowed : W → Address → Address → Address → ℕ → Bool
  /-- Whether the settlement token accepts a transfer it can cover. -/
  settlementAccepts : W → Address → Address → ℕ → Bool

/-- The adapter with everything it can observe. The token's transfers move
exactly the stated amount. -/
structure Chain (W : Type) where
  adapter : AdapterState
  token : Ledger Address 256
  world : W

namespace AdapterState

def emit (s : AdapterState) (log : Log) : AdapterState := { s with logs := log :: s.logs }

/-- Write one case. -/
def setCase (s : AdapterState) (runId : Bytes32) (entry : Case) : AdapterState :=
  { s with caseByRun := Function.update s.caseByRun runId entry }

end AdapterState

section

variable {W : Type} (env : Externals W) (terms : AdapterTerms) (c : Chain W)

/-- `safeTransfer` and `safeTransferFrom`. -/
def settle (source target : Address) (amount : ℕ) : Except AdapterError (Chain W) := do
  revertIf (env.settlementAccepts c.world source target amount = false) .transferFailed
  let token ← require .transferFailed (c.token.move source target amount)
  pure { c with token := token }

def requireEligible (account : Address) (role : ℕ) : Except AdapterError Unit :=
  revertIf (env.isEligible c.world account role = false) (.ineligible account role)

def fundReserve (msg : Msg) (amount : ℕ) : Except AdapterError (Chain W) := do
  revertIf (amount = 0) .zeroAmount
  let available ← checkedAdd 256 c.adapter.availableReserve amount
  let c := { c with adapter := { c.adapter with availableReserve := available } }
  let c ← settle env c msg.sender terms.adapter amount
  pure { c with adapter := c.adapter.emit (.reserveFunded msg.sender amount available) }

def withdrawAvailable (msg : Msg) (target : Address) (amount : ℕ) :
    Except AdapterError (Chain W) := do
  revertIf (msg.sender ≠ terms.owner) .notOwner
  revertIf (target = 0) .zeroAddress
  revertIf (amount = 0) .zeroAmount
  revertIf (c.adapter.availableReserve < amount)
    (.insufficientReserve amount c.adapter.availableReserve)
  let available ← checkedSub c.adapter.availableReserve amount
  let c := { c with adapter := { c.adapter with availableReserve := available } }
  let c ← settle env c terms.adapter target amount
  pure { c with adapter := c.adapter.emit (.reserveWithdrawn target amount available) }

/-- The fields of an authenticated release its record is made of. -/
structure AcceptedRelease where
  runId : Bytes32
  resultDigest : Bytes32
  attestationDigest : Bytes32
  holderA : Address
  holderB : Address
  payoutA : BitVec 256
  payoutB : BitVec 256
  /-- The decision that opens or refuses the consequence. -/
  conflict : Bool
  /-- The Booleans the event carries. -/
  facts : List Bool

/-- The marks and holders both branches of a `consume` function write. -/
def markConsumed (s : AdapterState) (r : AcceptedRelease) : AdapterState :=
  let s := { s with
    resultConsumed := Function.update s.resultConsumed r.resultDigest true
    attestationConsumed := Function.update s.attestationConsumed r.attestationDigest true }
  s.setCase r.runId { s.caseByRun r.runId with holderA := r.holderA, holderB := r.holderB }

/-- A release without conflict is terminal and reserves nothing. -/
def refuseCase (r : AcceptedRelease) : Except AdapterError (Chain W) := do
  revertIf (r.payoutA ≠ 0 ∨ r.payoutB ≠ 0) .payoutOnNoConflict
  let s := markConsumed c.adapter r
  let s := s.setCase r.runId { s.caseByRun r.runId with state := .refused }
  let s := s.emit (.releaseConsumed r.runId r.facts r.resultDigest)
  pure { c with adapter := s.emit (.recourseRefused r.runId) }

/-- A conflict moves both payouts from the available to the open reserve. -/
def openCase (msg : Msg) (r : AcceptedRelease) : Except AdapterError (Chain W) := do
  let s := markConsumed c.adapter r
  revertIf (r.holderA = 0 ∨ r.holderB = 0) .zeroAddress
  let total ← checkedAdd 256 r.payoutA.toNat r.payoutB.toNat
  revertIf (total = 0) .zeroAmount
  revertIf (s.availableReserve < total) (.insufficientReserve total s.availableReserve)
  let available ← checkedSub s.availableReserve total
  let reserved ← checkedAdd 256 s.openReserved total
  let deadline ← checkedAdd 64 (toUint64 msg.timestamp) terms.cureWindow.toNat
  let s := { s with availableReserve := available, openReserved := reserved }
  let s := s.setCase r.runId { s.caseByRun r.runId with
    payoutA := r.payoutA.toNat
    payoutB := r.payoutB.toNat
    state := .cureOpen
    cureDeadline := deadline }
  let s := s.emit (.releaseConsumed r.runId r.facts r.resultDigest)
  pure { c with adapter := s.emit (.cureWindowOpened r.runId deadline total) }

/-- What both `consume` functions do with an authenticated release. -/
def recordRelease (msg : Msg) (r : AcceptedRelease) : Except AdapterError (Chain W) :=
  if r.conflict then openCase terms c msg r else refuseCase c r

def cure (msg : Msg) (runId : Bytes32) : Except AdapterError (Chain W) := do
  revertIf (msg.sender ≠ terms.facility) .notFacility
  requireEligible env c msg.sender roleFacility
  let entry := c.adapter.caseByRun runId
  revertIf (entry.state ≠ .cureOpen) (.wrongState entry.state)
  revertIf (entry.cureDeadline < msg.timestamp) .windowClosed
  let released ← checkedAdd 256 entry.payoutA entry.payoutB
  let reserved ← checkedSub c.adapter.openReserved released
  let available ← checkedAdd 256 c.adapter.availableReserve released
  let s := { c.adapter with openReserved := reserved, availableReserve := available }
  let s := s.setCase runId { entry with state := .cured }
  pure { c with adapter := s.emit (.conflictCured runId released) }

def finalize (msg : Msg) (runId : Bytes32) : Except AdapterError (Chain W) := do
  let entry := c.adapter.caseByRun runId
  revertIf (entry.state ≠ .cureOpen) (.wrongState entry.state)
  revertIf (msg.timestamp ≤ entry.cureDeadline) .windowOpen
  let amount ← checkedAdd 256 entry.payoutA entry.payoutB
  let reserved ← checkedSub c.adapter.openReserved amount
  let unpaid ← checkedAdd 256 c.adapter.entitledUnpaid amount
  let s := { c.adapter with openReserved := reserved, entitledUnpaid := unpaid }
  let s := s.setCase runId { entry with state := .entitled }
  pure { c with adapter := s.emit (.entitlementOpened runId amount) }

namespace Case

/-- The side of a case `holderIsA` selects. -/
def holder (entry : Case) (holderIsA : Bool) : Address :=
  if holderIsA then entry.holderA else entry.holderB

def payout (entry : Case) (holderIsA : Bool) : ℕ :=
  if holderIsA then entry.payoutA else entry.payoutB

def paid (entry : Case) (holderIsA : Bool) : Bool :=
  if holderIsA then entry.paidA else entry.paidB

/-- Mark one side paid. -/
def markPaid (entry : Case) (holderIsA : Bool) : Case :=
  if holderIsA then { entry with paidA := true } else { entry with paidB := true }

/-- A case with both sides paid is closed. -/
def close (entry : Case) : Case :=
  if entry.paidA && entry.paidB then { entry with state := .claimed } else entry

end Case

/-- `claim`, with the gate that stands between eligibility and the payout. -/
def claimThrough (gate : Address → ℕ → Except AdapterError Unit) (runId : Bytes32)
    (holderIsA : Bool) : Except AdapterError (Chain W) := do
  let entry := c.adapter.caseByRun runId
  revertIf (entry.state ≠ .entitled) (.wrongState entry.state)
  let holder := entry.holder holderIsA
  let amount := entry.payout holderIsA
  revertIf (entry.paid holderIsA = true) .alreadyPaid
  revertIf (amount = 0) .nothingToPay
  requireEligible env c holder roleHolder
  gate holder amount
  let unpaid ← checkedSub c.adapter.entitledUnpaid amount
  let s := { c.adapter with entitledUnpaid := unpaid }
  let s := s.setCase runId (entry.markPaid holderIsA).close
  let c ← settle env { c with adapter := s } terms.adapter holder amount
  pure { c with adapter := c.adapter.emit (.claimed runId holder amount) }

def solvent : Except AdapterError Bool := do
  let reserved ← checkedAdd 256 c.adapter.availableReserve c.adapter.openReserved
  let owed ← checkedAdd 256 reserved c.adapter.entitledUnpaid
  pure (decide (owed ≤ c.token.balanceOf terms.adapter))

def assertSolvency : Except AdapterError Unit := do
  let covered ← solvent terms c
  revertIf (covered = false) .insolvent

end

/-! ## Runs -/

/-- The external functions that change state, for releases of type `R`. -/
inductive Call (R : Type)
  | fundReserve (amount : BitVec 256)
  | withdrawAvailable (target : Address) (amount : BitVec 256)
  | consumeRelease (release : R) (signature : Bytes)
  | cure (runId : Bytes32)
  | finalize (runId : Bytes32)
  | claim (runId : Bytes32) (holderIsA : Bool)

/-- What can happen next: a call, or anything else on the chain. -/
inductive Event (W R : Type)
  | call (msg : Msg) (call : Call R)
  | outside (token : Ledger Address 256) (world : W)

/-- The two functions that are not shared. -/
structure Flavour (W R : Type) where
  consumeRelease : Chain W → Msg → R → Bytes → Except AdapterError (Chain W)
  claim : Chain W → Bytes32 → Bool → Except AdapterError (Chain W)

section

variable {W R : Type} (env : Externals W) (terms : AdapterTerms) (flavour : Flavour W R)

/-- One call. -/
def Call.perform (c : Chain W) (msg : Msg) : Call R → Except AdapterError (Chain W)
  | .fundReserve amount => Recourse.fundReserve env terms c msg amount.toNat
  | .withdrawAvailable target amount =>
      Recourse.withdrawAvailable env terms c msg target amount.toNat
  | .consumeRelease release signature => flavour.consumeRelease c msg release signature
  | .cure runId => Recourse.cure env terms c msg runId
  | .finalize runId => Recourse.finalize c msg runId
  | .claim runId holderIsA => flavour.claim c runId holderIsA

/-- One event. The adapter never calls itself, and nobody else can spend its
tokens. -/
def exec (c : Chain W) : Event W R → Except AdapterError (Chain W)
  | .call msg call => do
      revertIf (msg.sender = terms.adapter) .transferFailed
      call.perform env terms flavour c msg
  | .outside token world => do
      revertIf (token.balanceOf terms.adapter < c.token.balanceOf terms.adapter) .transferFailed
      pure { c with token := token, world := world }

/-- A fresh adapter beside any token and world. -/
def deployed (token : Ledger Address 256) (world : W) : Chain W := ⟨{}, token, world⟩

end

end Mordant.Recourse
