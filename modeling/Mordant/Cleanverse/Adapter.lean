/-
# The custody adapter of one invoice

`CleanverseCvaAdapter` keeps the A-Tokens behind one vault.  Its storage is an
owner, the vault it is bound to and the credit that vault may still draw on;
binding happens once, and before it there is no credit, which the storage
carries as a field.

The A-Token is a ledger with a supply: a burn takes exactly its amount from
both, a transfer moves exactly its amount.  Whether the token, its policy and the
identity registry consent, and what else a token call changes, are arbitrary
functions of everything there is.
-/

import Mordant.Evm.Abi
import Mordant.Foundation.Call
import Mordant.Foundation.Ledger

namespace Mordant.Cleanverse

open Evm Foundation

/-- The adapter's custom errors, the owner check, and the failure of a call into
another contract. -/
inductive AdapterError
  | invalidConfiguration | alreadyBound | unauthorizedVault | insufficientCredit
  | accountingMismatch | invalidCustodyIdentity | missingMinterRole | transferPolicyDenied
  | invalidTokenDecimals (actual : ℕ)
  | ownableUnauthorizedAccount (account : Address)
  | externalCallFailed | panic
  deriving DecidableEq, Repr

instance : ArithmeticFault AdapterError := ⟨.panic⟩

def expectedDecimals : ℕ := 6

/-- The A-Token's own books. -/
abbrev AToken := SuppliedLedger Address 256

/-- The adapter's storage. -/
structure AdapterState where
  owner : Address
  boundVault : Address
  custodyCredit : ℕ
  unbound : boundVault = 0 → custodyCredit = 0

/-- `custodyCredit -= units`. -/
def AdapterState.spend (a : AdapterState) (units : ℕ) : AdapterState :=
  { a with
    custodyCredit := a.custodyCredit - units
    unbound := fun hzero => by rw [a.unbound hzero, Nat.zero_sub] }

/-- The adapter and its token, with the rest of the chain. -/
structure Custody (V : Type) where
  adapter : AdapterState
  token : AToken
  outer : V

/-- The adapter's immutables and the contracts it calls. A call that fails is
`none`; the decimals of a token never change. -/
structure Contracts (V : Type) where
  /-- `address(this)`. -/
  self : Address
  token : Address
  decimals : Option ℕ
  minterRole : Custody V → Option Bytes32
  hasRole : Custody V → Bytes32 → Address → Option Bool
  policy : Custody V → Option Address
  /-- What else a burn or a transfer changes, if the token consents. -/
  burned : Custody V → Address → ℕ → Option V
  transferred : Custody V → Address → Address → ℕ → Option V
  /-- `ICleanverseAPass`. -/
  isValidAPass : Custody V → Address → Option Bool
  /-- `ICleanversePolicy` at some address. -/
  canTransfer : Custody V → Address → Address → Address → Address → ℕ → Option Bool
  /-- `code.length != 0`. -/
  hasCode : Custody V → Address → Bool
  /-- `IMordantCvaVault` at some address. -/
  cvaAdapter : Custody V → Address → Option Address
  cvaToken : Custody V → Address → Option Address
  initialUnits : Custody V → Address → Option ℕ

variable {V : Type} (k : Contracts V)

/-! ## Private views -/

def hasValidAPass (w : Custody V) : Bool := (k.isValidAPass w k.self).getD false

def hasMinterRole (w : Custody V) : Bool :=
  match k.minterRole w with
  | some role => (k.hasRole w role k.self).getD false
  | none => false

def hasExpectedDecimals : Bool := k.decimals == some expectedDecimals

def requireExpectedDecimals : Except AdapterError Unit := do
  let actual ← require .externalCallFailed k.decimals
  revertIf (actual ≠ expectedDecimals) (.invalidTokenDecimals actual)

def hasPolicy (w : Custody V) : Bool :=
  match k.policy w with
  | some policy => policy != 0 && k.hasCode w policy
  | none => false

def isPolicyTransferAllowed (w : Custody V) (source target : Address) (amount : ℕ) : Bool :=
  match k.policy w with
  | some policy =>
      if policy = 0 ∨ k.hasCode w policy = false then false
      else (k.canTransfer w policy k.token source target amount).getD false
  | none => false

def requireVault (w : Custody V) (sender vault : Address) (units : ℕ) :
    Except AdapterError Unit := do
  revertIf (sender ≠ w.adapter.boundVault ∨ vault ≠ w.adapter.boundVault) .unauthorizedVault
  revertIf (units = 0 ∨ w.adapter.custodyCredit < units) .insufficientCredit
  requireExpectedDecimals k
  revertIf (w.token.balanceOf k.self < w.adapter.custodyCredit) .accountingMismatch

/-- One `try` of `_validateVaultBinding`: the vault must report `expected`. -/
def requireConfigured {α : Type} [DecidableEq α] (reported : Option α) (expected : α) :
    Except AdapterError Unit := do
  let configured ← require .invalidConfiguration reported
  revertIf (configured ≠ expected) .invalidConfiguration

def validateVaultBinding (w : Custody V) (vault : Address) (units : ℕ) :
    Except AdapterError Unit := do
  requireConfigured (k.cvaAdapter w vault) k.self
  requireConfigured (k.cvaToken w vault) k.token
  requireConfigured (k.initialUnits w vault) units

/-! ## Public views -/

def issuedSupply (w : Custody V) : Except AdapterError ℕ := do
  requireExpectedDecimals k
  pure w.token.supply

def availableBalance (w : Custody V) (vault : Address) : Except AdapterError ℕ :=
  if vault ≠ w.adapter.boundVault then pure 0
  else do
    requireExpectedDecimals k
    revertIf (w.token.balanceOf k.self < w.adapter.custodyCredit) .accountingMismatch
    pure w.adapter.custodyCredit

def isActivationReady (w : Custody V) (vault : Address) : Bool :=
  if vault ≠ w.adapter.boundVault ∨ w.adapter.custodyCredit = 0 ∨ hasValidAPass k w = false then
    false
  else if hasExpectedDecimals k = false ∨ hasMinterRole k w = false then false
  else if hasPolicy k w = false then false
  else if w.token.balanceOf k.self < w.adapter.custodyCredit then false
  else w.token.supply == w.adapter.custodyCredit

def isCashRedemptionReady (w : Custody V) (vault : Address) : Bool :=
  if vault ≠ w.adapter.boundVault ∨ w.adapter.custodyCredit = 0 ∨ hasValidAPass k w = false then
    false
  else if hasExpectedDecimals k = false ∨ hasMinterRole k w = false ∨ hasPolicy k w = false then
    false
  else decide (w.adapter.custodyCredit ≤ w.token.balanceOf k.self)

def isRedemptionReady (w : Custody V) (vault : Address) (units : ℕ) : Bool :=
  if vault ≠ w.adapter.boundVault ∨ units = 0 ∨ w.adapter.custodyCredit < units ∨
      hasValidAPass k w = false then false
  else if hasExpectedDecimals k = false ∨ hasMinterRole k w = false then false
  else if isPolicyTransferAllowed k w k.self 0 units = false then false
  else decide (w.adapter.custodyCredit ≤ w.token.balanceOf k.self)

/-! ## Calls -/

/-- `token.burn(account, amount)`. -/
def burnTokens (w : Custody V) (account : Address) (amount : ℕ) :
    Except AdapterError (Custody V) := do
  let outer ← require .externalCallFailed (k.burned w account amount)
  let token ← require .externalCallFailed (w.token.burn account amount)
  pure { w with token := token, outer := outer }

/-- `token.safeTransfer(target, amount)`, sent by the adapter. -/
def transferTokens (w : Custody V) (target : Address) (amount : ℕ) :
    Except AdapterError (Custody V) := do
  let outer ← require .externalCallFailed (k.transferred w k.self target amount)
  let token ← require .externalCallFailed (w.token.transfer k.self target amount)
  pure { w with token := token, outer := outer }

def bindVault (w : Custody V) (sender vault : Address) (units : ℕ) :
    Except AdapterError (Custody V) := do
  revertIf (sender ≠ w.adapter.owner) (.ownableUnauthorizedAccount sender)
  revertIf (w.adapter.boundVault ≠ 0) .alreadyBound
  if hvault : vault = 0 ∨ k.hasCode w vault = false ∨ units = 0 then .error .invalidConfiguration
  else do
    validateVaultBinding k w vault units
    requireExpectedDecimals k
    revertIf (hasValidAPass k w = false) .invalidCustodyIdentity
    revertIf (hasMinterRole k w = false) .missingMinterRole
    revertIf (w.token.supply ≠ units ∨ w.token.balanceOf k.self ≠ units) .accountingMismatch
    pure { w with
      adapter :=
        { w.adapter with
          boundVault := vault
          custodyCredit := units
          unbound := fun hzero => absurd (Or.inl hzero) hvault } }

def consumeOnRedemption (w : Custody V) (sender vault : Address) (units : ℕ) :
    Except AdapterError (Custody V) := do
  requireVault k w sender vault units
  revertIf (hasValidAPass k w = false) .invalidCustodyIdentity
  revertIf (hasMinterRole k w = false) .missingMinterRole
  revertIf (isPolicyTransferAllowed k w k.self 0 units = false) .transferPolicyDenied
  let _ ← checkedSub w.adapter.custodyCredit units
  let after ← burnTokens k { w with adapter := w.adapter.spend units } k.self units
  revertIf (w.token.balanceOf k.self < after.token.balanceOf k.self ∨
    w.token.balanceOf k.self - after.token.balanceOf k.self ≠ units ∨
    w.token.supply < after.token.supply ∨ w.token.supply - after.token.supply ≠ units)
    .accountingMismatch
  pure after

def releaseOnDefault (w : Custody V) (sender vault holder : Address) (units : ℕ) :
    Except AdapterError (Custody V) := do
  requireVault k w sender vault units
  revertIf (hasValidAPass k w = false) .invalidCustodyIdentity
  revertIf (holder = 0) .invalidConfiguration
  revertIf (isPolicyTransferAllowed k w k.self holder units = false) .transferPolicyDenied
  let _ ← checkedSub w.adapter.custodyCredit units
  let after ← transferTokens k { w with adapter := w.adapter.spend units } holder units
  revertIf (w.token.balanceOf k.self < after.token.balanceOf k.self ∨
    w.token.balanceOf k.self - after.token.balanceOf k.self ≠ units ∨
    after.token.balanceOf holder < w.token.balanceOf holder ∨
    after.token.balanceOf holder - w.token.balanceOf holder ≠ units) .accountingMismatch
  pure after

/-! ## What each of them did -/

section

variable {k} {w w' : Custody V} {sender vault holder : Address} {units : ℕ}

theorem requireExpectedDecimals_ok_iff {u : Unit} :
    requireExpectedDecimals k = .ok u ↔ k.decimals = some expectedDecimals := by
  simp only [requireExpectedDecimals, bind_ok_iff, require_ok_iff, revertIf_ok_iff, not_not]
  constructor
  · rintro ⟨actual, hdecimals, rfl⟩
    exact hdecimals
  · intro hdecimals
    exact ⟨_, hdecimals, rfl⟩

theorem issuedSupply_ok_iff {supply : ℕ} :
    issuedSupply k w = .ok supply ↔
      k.decimals = some expectedDecimals ∧ w.token.supply = supply := by
  simp only [issuedSupply, bind_ok_iff, requireExpectedDecimals_ok_iff, pure_ok_iff]
  exact ⟨fun ⟨_, hdecimals, hsupply⟩ => ⟨hdecimals, hsupply⟩,
    fun ⟨hdecimals, hsupply⟩ => ⟨(), hdecimals, hsupply⟩⟩

/-- What the adapter reports to its vault is the credit, as long as its balance
covers it. -/
theorem availableBalance_bound (hbound : w.adapter.boundVault = vault)
    (hdecimals : k.decimals = some expectedDecimals)
    (hheld : w.adapter.custodyCredit ≤ w.token.balanceOf k.self) :
    availableBalance k w vault = .ok w.adapter.custodyCredit := by
  rw [availableBalance, if_neg (not_not.mpr hbound.symm)]
  simp only [bind_ok_iff, requireExpectedDecimals_ok_iff, revertIf_ok_iff, not_lt, pure_ok_iff]
  exact ⟨(), hdecimals, (), hheld, trivial⟩

/-- A ready adapter is bound to the vault, holds its whole credit, and nothing
else was issued. -/
theorem isActivationReady_ok (h : isActivationReady k w vault = true) :
    w.adapter.boundVault = vault ∧ w.adapter.custodyCredit ≠ 0 ∧
      k.decimals = some expectedDecimals ∧
      w.adapter.custodyCredit ≤ w.token.balanceOf k.self ∧
      w.token.supply = w.adapter.custodyCredit := by
  unfold isActivationReady at h
  split at h
  · exact nomatch h
  · next hbase =>
      split at h
      · exact nomatch h
      · next hconfigured =>
          split at h
          · exact nomatch h
          · split at h
            · exact nomatch h
            · next hcovered =>
                simp only [not_or, not_not] at hbase hconfigured
                exact ⟨hbase.1.symm, hbase.2.1,
                  by simpa [hasExpectedDecimals] using hconfigured.1, not_lt.mp hcovered,
                  eq_of_beq h⟩

theorem requireVault_ok {u : Unit} (h : requireVault k w sender vault units = .ok u) :
    sender = w.adapter.boundVault ∧ vault = w.adapter.boundVault ∧ units ≠ 0 ∧
      units ≤ w.adapter.custodyCredit := by
  simp only [requireVault, bind_ok_iff, revertIf_ok_iff, not_or, not_not, not_lt] at h
  obtain ⟨-, ⟨hsender, hvault⟩, -, ⟨hpos, hcredit⟩, -⟩ := h
  exact ⟨hsender, hvault, hpos, hcredit⟩

/-- What an exit of `units` did to the adapter: credit and balance fell by it. -/
structure Drawn (k : Contracts V) (w : Custody V) (sender : Address) (units : ℕ)
    (w' : Custody V) : Prop where
  sender : sender = w.adapter.boundVault
  positive : units ≠ 0
  bound : w'.adapter.boundVault = w.adapter.boundVault
  credit : w'.adapter.custodyCredit + units = w.adapter.custodyCredit
  held : w'.token.balanceOf k.self + units = w.token.balanceOf k.self

/-- A consumption is an exit that burns. -/
theorem consumeOnRedemption_ok (h : consumeOnRedemption k w sender vault units = .ok w') :
    Drawn k w sender units w' ∧ w'.token.supply + units = w.token.supply := by
  simp only [consumeOnRedemption, burnTokens, bind_ok_iff, require_ok_iff, pure_ok_iff] at h
  obtain ⟨_, hvault, -, -, -, -, -, -, _, -, _, ⟨outer, -, token, hburn, rfl⟩, -, -, rfl⟩ := h
  obtain ⟨hsender, -, hpos, hcredit⟩ := requireVault_ok hvault
  obtain ⟨hheld, hsupply⟩ := SuppliedLedger.burn_eq_some hburn
  exact ⟨⟨hsender, hpos, rfl, Nat.sub_add_cancel hcredit, hheld⟩, hsupply⟩

/-- A release is an exit that leaves the supply alone: the comparison of the
adapter's balance excludes a release to itself. -/
theorem releaseOnDefault_ok (h : releaseOnDefault k w sender vault holder units = .ok w') :
    Drawn k w sender units w' ∧ w'.token.supply = w.token.supply := by
  simp only [releaseOnDefault, transferTokens, bind_ok_iff, require_ok_iff, revertIf_ok_iff,
    pure_ok_iff, not_or, not_lt, not_not] at h
  obtain ⟨_, hvault, -, -, -, -, -, -, _, -, _, ⟨outer, -, token, htransfer, rfl⟩, -,
    ⟨hle, hdrop, -, -⟩, rfl⟩ := h
  obtain ⟨hsender, -, hpos, hcredit⟩ := requireVault_ok hvault
  obtain ⟨-, hsupply⟩ := SuppliedLedger.transfer_eq_some htransfer
  refine ⟨⟨hsender, hpos, rfl, Nat.sub_add_cancel hcredit, ?_⟩, hsupply⟩
  rw [← hdrop]
  exact Nat.add_sub_cancel' hle

/-- A bound adapter cannot be bound again. -/
theorem bindVault_unbound (h : bindVault k w sender vault units = .ok w') :
    w.adapter.boundVault = 0 := by
  simp only [bindVault, bind_ok_iff, revertIf_ok_iff, not_not] at h
  obtain ⟨-, -, -, hunbound, -⟩ := h
  exact hunbound

end

end Mordant.Cleanverse
