/-
# The docket of a conflict

What the vault keeps about pledges, a conflict under way and the entitlement it
ends in, with money and units forgotten.  `DocketStep` lists what each event can
write there, together with everything the code checked before it wrote; an event
that writes nothing is one case.  `CustodyStep` does the same for what an event
asks of custody.  `exec_docket` connects both to the model of the code, and is
the only place where the bodies are opened for it.

`Reaches.history` is the induction rule of this part of the development: what an
event does to the docket is compared with the events that came before it.
-/

import Mordant.Vault.Refinement

namespace Mordant.Vault

open Evm Foundation

/-- The storage a conflict is argued from. -/
structure Docket where
  protectionState : ProtectionState
  authorizedOriginator : Address → Bool
  usedPledgeNonce : Address → BitVec 256 → Bool
  usedPledgeDigest : Bytes32 → Bool
  protectedFacility : Address
  protectedPledgeDigest : Bytes32
  protectedActiveFrom : ℕ
  protectedActiveUntil : ℕ
  pendingConflict : PendingConflict
  entitlementAllocated : ℕ
  entitlementClaimed : ℕ
  entitlementClaimedUnits : ℕ
  entitlementSnapshotSequence : ℕ
  entitlementSnapshotSupply : ℕ
  bondClaimedBy : Address → Bool

def VaultState.docket (s : VaultState) : Docket where
  protectionState := s.protectionState
  authorizedOriginator := s.authorizedOriginator
  usedPledgeNonce := s.usedPledgeNonce
  usedPledgeDigest := s.usedPledgeDigest
  protectedFacility := s.protectedFacility
  protectedPledgeDigest := s.protectedPledgeDigest
  protectedActiveFrom := s.protectedActiveFrom
  protectedActiveUntil := s.protectedActiveUntil
  pendingConflict := s.pendingConflict
  entitlementAllocated := s.entitlementAllocated
  entitlementClaimed := s.entitlementClaimed
  entitlementClaimedUnits := s.entitlementClaimedUnits
  entitlementSnapshotSequence := s.entitlementSnapshotSequence
  entitlementSnapshotSupply := s.entitlementSnapshotSupply
  bondClaimedBy := s.bondClaimedBy

/-- Mark a pledge digest and its signer's nonce as used. -/
def Docket.spend (d : Docket) (digest : Bytes32) (pledge : Pledge) : Docket :=
  { d with
    usedPledgeDigest := Function.update d.usedPledgeDigest digest true
    usedPledgeNonce := Function.update d.usedPledgeNonce pledge.originatorSigner
      (Function.update (d.usedPledgeNonce pledge.originatorSigner) pledge.nonce true) }

/-- The calls that always write to the docket. -/
def Event.Files {W : Type} : Event W → Prop
  | .call _ entry => match entry with
    | .activate .. | .authorizeOriginatorWallet .. | .commitConflict .. | .revealConflict ..
    | .expireCommit | .cureConflict .. | .finalizeConflict | .claimBond | .closeProtection => True
    | _ => False
  | _ => False

/-- The calls that touch custody, and what happens outside. -/
def Event.MovesCustody {W : Type} : Event W → Prop
  | .call _ entry => match entry with
    | .activate .. | .redeem .. | .releaseDefaultCva .. => True
    | _ => False
  | .donate .. => False
  | .outside .. => True

/-- The custody units the vault accounts for, and those it has burned. -/
def VaultState.cva (s : VaultState) : ℕ × ℕ := (s.cvaAccounted, s.cvaBurned)

section

variable {W : Type} (crypto : Crypto) (env : Externals W) (terms : Terms)

/-- Everything `_validatePledge` establishes about a pledge it returns a digest
for. -/
structure PledgeAccepted (c : Chain W) (pledge : Pledge) (signature : Bytes)
    (facility : Address) (validAt : ℕ) : Prop where
  invoiceRoot : pledge.invoiceRoot = terms.invoiceRoot
  facility_eq : pledge.facility = facility
  amount : pledge.amount.toNat = terms.faceValue
  currency : pledge.currency = terms.currency
  exclusive : pledge.exclusive = true
  started : pledge.activeFrom.toNat ≤ validAt
  unexpired : validAt < pledge.activeUntil.toNat
  authorized : c.vault.authorizedOriginator pledge.originatorSigner = true
  registered : env.isFacility c.world facility = true
  notBuyer : facility ≠ terms.buyer
  notTreasury : facility ≠ terms.originatorTreasury
  notOriginator : c.vault.authorizedOriginator facility = false
  signed : crypto.ecdsaRecover (hashPledge crypto terms pledge) signature =
    some pledge.originatorSigner

/-- What one event can do to the docket. -/
inductive DocketStep (c : Chain W) : Event W → Docket → Prop
  | activate {msg : Msg} {pledge : Pledge} {signature : Bytes} {funder : Address}
      {holders : List Address} {allocations : List (BitVec 256)}
      (hstate : c.vault.protectionState = .unfunded)
      (haccepted : PledgeAccepted crypto env terms c pledge signature msg.sender
        (toUint64 msg.timestamp))
      (hcovers : terms.protectionEnd ≤ pledge.activeUntil.toNat)
      (hfresh : ¬ c.vault.PledgeSpent (hashPledge crypto terms pledge) pledge) :
      DocketStep c (.call msg (.activate pledge signature funder holders allocations))
        { c.vault.docket.spend (hashPledge crypto terms pledge) pledge with
          protectionState := .active
          protectedPledgeDigest := hashPledge crypto terms pledge
          protectedFacility := msg.sender
          protectedActiveFrom := pledge.activeFrom.toNat
          protectedActiveUntil := pledge.activeUntil.toNat }
  | authorize {msg : Msg} {signer : Address} (hbalance : c.vault.balanceOf signer = 0) :
      DocketStep c (.call msg (.authorizeOriginatorWallet signer))
        { c.vault.docket with
          authorizedOriginator := Function.update c.vault.authorizedOriginator signer true }
  | commit {msg : Msg} {commitment : Bytes32} {exposed : ℕ}
      (hstate : c.vault.protectionState = .active) (hcommitment : commitment ≠ 0)
      (hwindow : msg.timestamp ≤ terms.protectionEnd)
      (hother : msg.sender ≠ c.vault.protectedFacility) (hbuyer : msg.sender ≠ terms.buyer)
      (htreasury : msg.sender ≠ terms.originatorTreasury)
      (horiginator : c.vault.authorizedOriginator msg.sender = false)
      (hregistered : env.isFacility c.world msg.sender = true)
      (hsupply : c.vault.totalSupply ≠ 0)
      (hexposed : requiredBond terms c.vault.totalSupply = .ok exposed)
      (hdeadline : toUint64 msg.timestamp + terms.revealPeriod < 2 ^ 64) :
      DocketStep c (.call msg (.commitConflict commitment))
        { c.vault.docket with
          protectionState := .commitPending
          pendingConflict :=
            { commitment := commitment
              facility := msg.sender
              snapshotSequence := c.vault.sequence
              snapshotSupply := c.vault.totalSupply
              snapshotBond := exposed
              committedAt := toUint64 msg.timestamp
              revealDeadline := toUint64 msg.timestamp + terms.revealPeriod } }
  | reveal {msg : Msg} {pledge : Pledge} {signature : Bytes} {salt : Bytes32}
      (hstate : c.vault.protectionState = .commitPending)
      (hsender : msg.sender = c.vault.pendingConflict.facility)
      (hwindow : msg.timestamp ≤ c.vault.pendingConflict.revealDeadline)
      (haccepted : PledgeAccepted crypto env terms c pledge signature msg.sender
        c.vault.pendingConflict.committedAt)
      (hopens : conflictCommitment crypto terms (hashPledge crypto terms pledge)
        (crypto.keccak256 signature) msg.sender salt = c.vault.pendingConflict.commitment)
      (hother : msg.sender ≠ c.vault.protectedFacility)
      (hoverlap : pledge.activeFrom.toNat < c.vault.protectedActiveUntil ∧
        c.vault.protectedActiveFrom < pledge.activeUntil.toNat)
      (hfresh : ¬ c.vault.PledgeSpent (hashPledge crypto terms pledge) pledge)
      (hdeadline : toUint64 msg.timestamp + terms.curePeriod < 2 ^ 64) :
      DocketStep c (.call msg (.revealConflict pledge signature salt))
        { c.vault.docket.spend (hashPledge crypto terms pledge) pledge with
          protectionState := .conflictConfirmed
          pendingConflict :=
            { c.vault.pendingConflict with
              conflictingPledgeDigest := hashPledge crypto terms pledge
              conflictSigner := pledge.originatorSigner
              cureDeadline := toUint64 msg.timestamp + terms.curePeriod } }
  | expire {msg : Msg} (hstate : c.vault.protectionState = .commitPending)
      (hwindow : c.vault.pendingConflict.revealDeadline < msg.timestamp) :
      DocketStep c (.call msg .expireCommit)
        { c.vault.docket with protectionState := .active, pendingConflict := {} }
  | cure {msg : Msg} {cancellation : Cancellation} {signature : Bytes}
      (hstate : c.vault.protectionState = .conflictConfirmed)
      (hwindow : msg.timestamp ≤ c.vault.pendingConflict.cureDeadline) :
      DocketStep c (.call msg (.cureConflict cancellation signature))
        { c.vault.docket with protectionState := .active, pendingConflict := {} }
  | finalize {msg : Msg} (hstate : c.vault.protectionState = .conflictConfirmed)
      (hwindow : c.vault.pendingConflict.cureDeadline < msg.timestamp) :
      DocketStep c (.call msg .finalizeConflict)
        { c.vault.docket with
          protectionState := .entitled
          pendingConflict := {}
          entitlementSnapshotSequence := c.vault.pendingConflict.snapshotSequence
          entitlementSnapshotSupply := c.vault.pendingConflict.snapshotSupply
          entitlementAllocated := c.vault.pendingConflict.snapshotBond }
  | claim {msg : Msg} {units amount : ℕ} (hstate : c.vault.protectionState = .entitled)
      (hunclaimed : c.vault.bondClaimedBy msg.sender = false)
      (hunits : balanceAt c.vault msg.sender c.vault.entitlementSnapshotSequence = .ok units)
      (hpos : units ≠ 0) (hrole : c.vault.authorizedOriginator msg.sender = false)
      (hheld : c.vault.entitlementClaimedUnits + units ≤ c.vault.entitlementSnapshotSupply)
      (hamount : bondAmount c.vault units (c.vault.entitlementClaimedUnits + units) = .ok amount)
      (hpaid : ∃ after, claimBondBody env terms c msg = .ok (amount, after)) :
      DocketStep c (.call msg .claimBond)
        { c.vault.docket with
          bondClaimedBy := Function.update c.vault.bondClaimedBy msg.sender true
          entitlementClaimedUnits := c.vault.entitlementClaimedUnits + units
          entitlementClaimed := c.vault.entitlementClaimed + amount }
  | release {msg : Msg} {entry : Call} (hstate : c.vault.protectionState = .active)
      (hentry : entry = .closeProtection ∨ ∃ units, entry = .redeem units) :
      DocketStep c (.call msg entry) { c.vault.docket with protectionState := .released }
  | quiet {event : Event W} (hquiet : ¬ event.Files) : DocketStep c event c.vault.docket

/-- No account that is an originator before gains units. -/
def OriginatorsGainNothing (s s' : VaultState) : Prop :=
  ∀ account, s.authorizedOriginator account = true → s'.balanceOf account ≤ s.balanceOf account

/-- What one event can do to custody. -/
inductive CustodyStep (c c' : Chain W) : Event W → Prop
  | activate {msg : Msg} {pledge : Pledge} {signature : Bytes} {funder : Address}
      {holders : List Address} {allocations : List (BitVec 256)}
      (hstate : c.vault.protectionState = .unfunded)
      (havailable : env.availableBalance c.world terms.vault = some terms.initialUnits)
      (hasset : env.asset c.world = terms.cvaToken)
      (hissued : env.issuedSupply c.world = some terms.initialUnits)
      (hready : env.isActivationReady c.world terms.vault = true)
      (hworld : c'.world = c.world)
      (hcva : c'.vault.cva = (terms.initialUnits, c.vault.cvaBurned)) :
      CustodyStep c c' (.call msg (.activate pledge signature funder holders allocations))
  | redeem {msg : Msg} {units : BitVec 256}
      (hstate : c.vault.receivableState = .outstanding ∨
        c.vault.receivableState = .defaultOutstanding)
      (hcovered : units.toNat ≤ c.vault.cvaAccounted)
      (hexit : env.consumeOnRedemption c.world terms.vault units.toNat = some c'.world)
      (hcva : c'.vault.cva =
        (c.vault.cvaAccounted - units.toNat, c.vault.cvaBurned + units.toNat)) :
      CustodyStep c c' (.call msg (.redeem units))
  | release {msg : Msg} {units : BitVec 256}
      (hstate : c.vault.receivableState = .defaultOutstanding)
      (hcovered : units.toNat ≤ c.vault.cvaAccounted)
      (hexit : env.releaseOnDefault c.world terms.vault msg.sender units.toNat = some c'.world)
      (hcva : c'.vault.cva = (c.vault.cvaAccounted - units.toNat, c.vault.cvaBurned)) :
      CustodyStep c c' (.call msg (.releaseDefaultCva units))
  | outside {token : Settlement} {world : W} (hworld : c'.world = world)
      (hvault : c'.vault = c.vault) : CustodyStep c c' (.outside token world)
  | same {event : Event W} (hevent : ¬ event.MovesCustody) (hworld : c'.world = c.world)
      (hcva : c'.vault.cva = c.vault.cva) : CustodyStep c c' event

/-- What an event did to the docket and to custody, and what it did not do to
originators. -/
structure Filed (c : Chain W) (event : Event W) (c' : Chain W) : Prop where
  step : DocketStep crypto env terms c event c'.vault.docket
  originators : OriginatorsGainNothing c.vault c'.vault
  custody : CustodyStep env terms c c' event

/-- A call that leaves the docket and custody alone. -/
structure Kept (c c' : Chain W) : Prop where
  docket : c'.vault.docket = c.vault.docket
  originators : OriginatorsGainNothing c.vault c'.vault
  world : c'.world = c.world
  cva : c'.vault.cva = c.vault.cva

end

section

variable {W : Type} {crypto : Crypto} {env : Externals W} {terms : Terms}
variable {c c' : Chain W} {msg : Msg} {signature : Bytes} {s s' : VaultState} {amount value : ℕ}
  {source target : Address} {token : Settlement}

/-! ## What the calls write -/

theorem validatePledge_ok {pledge : Pledge} {facility : Address} {validAt : ℕ} {digest : Bytes32}
    (h : validatePledge crypto env terms c pledge signature facility validAt = .ok digest) :
    digest = hashPledge crypto terms pledge ∧
      PledgeAccepted crypto env terms c pledge signature facility validAt := by
  simp only [validatePledge, bind_ok_iff, revertIf_ok_iff, require_ok_iff, pure_ok_iff, not_or,
    not_not, not_le, not_lt, Bool.not_eq_true, Bool.not_eq_false] at h
  obtain ⟨-, ⟨hroot, hfacility, hamount, hcurrency, hexclusive, hstarted, hunexpired, -, -,
    hauthorized, hregistered, hbuyer, htreasury, horiginator⟩, -, -, -, -, signer, hrecover, -,
    hsigner, hdigest⟩ := h
  refine ⟨hdigest.symm, ⟨hroot, hfacility, hamount, hcurrency, hexclusive, hstarted, hunexpired,
    hauthorized, hregistered, hbuyer, htreasury, horiginator, ?_⟩⟩
  rw [hrecover, hsigner]

theorem OriginatorsGainNothing.of_eq (h : s'.balanceOf = s.balanceOf) :
    OriginatorsGainNothing s s' :=
  fun account _ => (congrFun h account).le

theorem requireHolder_originator {account : Address} {u : Unit}
    (h : requireHolder env terms c account amount = .ok u) :
    c.vault.authorizedOriginator account = false := by
  simp only [requireHolder, requireHolderRole, bind_ok_iff, revertIf_ok_iff, not_or,
    Bool.not_eq_true] at h
  obtain ⟨-, ⟨-, -, -, -, -, -, -, -, -, -, -, horiginator, -⟩, -⟩ := h
  exact horiginator

theorem admitUpdate_target {u : Unit} (h : admitUpdate env terms c source target value = .ok u)
    (htarget : target ≠ 0) :
    c.vault.authorizedOriginator target = false := by
  unfold admitUpdate at h
  obtain ⟨-, -, h⟩ := bind_ok_iff.mp h
  by_cases hmint : source = 0
  · rw [if_neg (fun hboth => hboth.1 hmint), if_pos htarget] at h
    exact requireHolder_originator h
  · rw [if_pos ⟨hmint, htarget⟩] at h
    obtain ⟨-, -, h⟩ := bind_ok_iff.mp h
    obtain ⟨-, -, h⟩ := bind_ok_iff.mp h
    -- the probed claim differs between the two branches, the holder does not
    dsimp only at h
    split at h
    · obtain ⟨claim, -, h⟩ := bind_ok_iff.mp h
      obtain ⟨_, hholder, -⟩ := bind_ok_iff.mp h
      exact requireHolder_originator hholder
    · obtain ⟨claim, -, h⟩ := bind_ok_iff.mp h
      obtain ⟨_, hholder, -⟩ := bind_ok_iff.mp h
      exact requireHolder_originator hholder

/-- A movement credits only an account that passed as a holder. -/
theorem UpdateEffect.originators (h : UpdateEffect env terms c source target value c') :
    OriginatorsGainNothing c.vault c'.vault := by
  intro account horiginator
  have hdebited : (if source = 0 then c.vault.balanceOf
      else Function.update c.vault.balanceOf source (c.vault.balanceOf source - value)) account ≤
        c.vault.balanceOf account := by
    split
    · exact le_rfl
    · by_cases hsource : account = source
      · rw [hsource, Function.update_self]
        exact Nat.sub_le _ _
      · rw [Function.update_of_ne hsource]
  rw [h.result]
  change (unitsMoved c.vault.balanceOf c.vault.totalSupply source target value).1 account ≤ _
  unfold unitsMoved
  dsimp only
  by_cases htarget : target = 0
  · rw [if_pos htarget]
    exact hdebited
  · -- the target passed `_requireHolder`, so it is no originator
    have hholder := admitUpdate_target h.admitted htarget
    have hother : account ≠ target := by
      rintro rfl
      rw [hholder] at horiginator
      exact nomatch horiginator
    rw [if_neg htarget]
    refine le_trans (le_of_eq ?_) hdebited
    exact Function.update_of_ne hother _ _

theorem Kept.trans {c₁ : Chain W} (hfirst : Kept c c₁) (hsecond : Kept c₁ c') : Kept c c' where
  docket := hsecond.docket.trans hfirst.docket
  originators account horiginator := by
    have hstill : c₁.vault.authorizedOriginator account = true := by
      rw [show c₁.vault.authorizedOriginator = c.vault.authorizedOriginator from
        congrArg Docket.authorizedOriginator hfirst.docket]
      exact horiginator
    exact (hsecond.originators account hstill).trans (hfirst.originators account horiginator)
  world := hsecond.world.trans hfirst.world
  cva := hsecond.cva.trans hfirst.cva

theorem UpdateEffect.kept (h : UpdateEffect env terms c source target value c') : Kept c c' where
  docket := by
    rw [h.result]
    rfl
  originators := h.originators
  world := by rw [h.result]
  cva := by
    rw [h.result]
    rfl

theorem mintAll_docket {shares : List (Address × ℕ)} (h : mintAll env terms c shares = .ok c') :
    Kept c c' := by
  induction shares generalizing c with
  | nil =>
      rw [mintAll, pure_ok_iff] at h
      rw [h]
      exact ⟨rfl, fun _ _ => le_rfl, rfl, rfl⟩
  | cons share rest ih =>
      obtain ⟨c₁, hmint, hrest⟩ := bind_ok_iff.mp h
      rw [mint, revertIf_bind_ok_iff] at hmint
      exact (update_ok env terms hmint.2).kept.trans (ih hrest)

theorem activateBody_docket {pledge : Pledge} {funder : Address} {holders : List Address}
    {allocations : List (BitVec 256)}
    (h : activateBody crypto env terms c msg pledge signature funder holders allocations =
      .ok c') :
    Filed crypto env terms c
      (.call msg (.activate pledge signature funder holders allocations)) c' := by
  simp only [activateBody, bind_ok_iff, revertIf_ok_iff, require_ok_iff, not_or, not_not, not_lt,
    Bool.not_eq_false] at h
  obtain ⟨-, ⟨hstate, -⟩, -, -, digest, hvalid, -, hcovers, -, hfresh, _, havailable, -, rfl, -,
    hasset, _, hissued, -, rfl, -, hready, -, -, -, -, total, -, -, -, c₁, hcollect, c₂, hmint,
    hpay⟩ := h
  obtain ⟨rfl, haccepted⟩ := validatePledge_ok hvalid
  have hadvance : terms.advanceAmount ≠ 0 := (lt_trans terms.bond_pos terms.bond_lt).ne'
  obtain ⟨token₁, -, rfl⟩ := collectExact_ok hadvance hcollect
  obtain ⟨token₂, -, rfl⟩ := transferExact_ok hpay
  have hminted := mintAll_docket hmint
  refine ⟨?_, hminted.originators,
    .activate hstate havailable hasset hissued hready hminted.world hminted.cva⟩
  rw [show ({ c₂ with token := token₂ } : Chain W).vault.docket = c₂.vault.docket from rfl,
    hminted.docket]
  exact .activate hstate haccepted hcovers hfresh

theorem authorizeOriginatorWallet_docket {signer : Address}
    (h : authorizeOriginatorWallet env terms c msg signer = .ok c') :
    Filed crypto env terms c (.call msg (.authorizeOriginatorWallet signer)) c' := by
  simp only [authorizeOriginatorWallet, bind_ok_iff, revertIf_ok_iff, not_or, not_not,
    pure_ok_iff] at h
  obtain ⟨-, -, -, -, -, -, -, -, -, ⟨-, hbalance⟩, -, -, rfl⟩ := h
  exact ⟨.authorize hbalance, .of_eq rfl, .same id rfl rfl⟩

theorem commitConflict_docket {commitment : Bytes32}
    (h : commitConflict env terms c msg commitment = .ok c') :
    Filed crypto env terms c (.call msg (.commitConflict commitment)) c' := by
  simp only [commitConflict, bind_ok_iff, revertIf_ok_iff, not_or, not_not, not_lt,
    checkedAdd_ok_iff, pure_ok_iff, Bool.not_eq_true, Bool.not_eq_false] at h
  obtain ⟨-, -, -, hstate, -, hcommitment, -, hwindow, -,
    ⟨hother, hbuyer, htreasury, horiginator, hregistered⟩, -, -, -, ⟨hsupply, -⟩, exposed, hexposed,
    -, -, _, ⟨hdeadline, rfl⟩, rfl⟩ := h
  exact ⟨.commit hstate hcommitment hwindow hother hbuyer htreasury horiginator hregistered hsupply
    hexposed hdeadline, .of_eq rfl, .same id rfl rfl⟩

theorem revealConflict_docket {pledge : Pledge} {salt : Bytes32}
    (h : revealConflict crypto env terms c msg pledge signature salt = .ok c') :
    Filed crypto env terms c (.call msg (.revealConflict pledge signature salt)) c' := by
  simp only [revealConflict, bind_ok_iff, revertIf_ok_iff, not_or, not_not, not_lt, not_le,
    checkedAdd_ok_iff, pure_ok_iff] at h
  obtain ⟨-, -, -, hstate, -, hsender, -, hwindow, digest, hvalid, -, hopens, -, hother, -,
    hoverlap, -, hfresh, _, ⟨hdeadline, rfl⟩, rfl⟩ := h
  obtain ⟨rfl, haccepted⟩ := validatePledge_ok hvalid
  exact ⟨.reveal hstate hsender hwindow haccepted hopens hother hoverlap hfresh hdeadline,
    .of_eq rfl, .same id rfl rfl⟩

/-- Dropping a conflict clears the pending record and trims only money. -/
theorem reopen_docket (h : reopen terms s = .ok s') :
    s'.docket = { s.docket with protectionState := .active, pendingConflict := {} } ∧
      s'.balanceOf = s.balanceOf ∧ s'.cva = s.cva := by
  obtain ⟨target, -, rfl⟩ := releaseExcessBond_ok terms rfl h
  exact ⟨rfl, rfl, rfl⟩

theorem expireCommitBody_docket (h : expireCommitBody terms c msg = .ok c') :
    Filed crypto env terms c (.call msg .expireCommit) c' := by
  simp only [expireCommitBody, bind_ok_iff, revertIf_ok_iff, not_not, not_le, pure_ok_iff] at h
  obtain ⟨-, hstate, -, hwindow, s, hreopen, rfl⟩ := h
  obtain ⟨hdocket, hbalances, hcva⟩ := reopen_docket hreopen
  refine ⟨?_, .of_eq hbalances, .same id rfl hcva⟩
  rw [hdocket]
  exact .expire hstate hwindow

theorem cureConflictBody_docket {cancellation : Cancellation}
    (h : cureConflictBody crypto env terms c msg cancellation signature = .ok c') :
    Filed crypto env terms c (.call msg (.cureConflict cancellation signature)) c' := by
  simp only [cureConflictBody, bind_ok_iff, revertIf_ok_iff, not_or, not_not, not_lt,
    pure_ok_iff] at h
  obtain ⟨-, hstate, -, -, -, -, -, ⟨hwindow, -⟩, -, -, -, -, signer, -, -, -, s, hreopen, rfl⟩ := h
  obtain ⟨hdocket, hbalances, hcva⟩ := reopen_docket hreopen
  refine ⟨?_, .of_eq hbalances, .same id rfl hcva⟩
  rw [hdocket]
  exact .cure hstate hwindow

theorem finalizeConflictBody_docket (h : finalizeConflictBody c msg = .ok c') :
    Filed crypto env terms c (.call msg .finalizeConflict) c' := by
  simp only [finalizeConflictBody, bind_ok_iff, revertIf_ok_iff, not_not, not_le,
    checkedSub_ok_iff, pure_ok_iff] at h
  obtain ⟨-, hstate, -, hwindow, -, -, _, ⟨-, rfl⟩, rfl⟩ := h
  exact ⟨.finalize hstate hwindow, .of_eq rfl, .same id rfl rfl⟩

theorem claimBondBody_docket (h : claimBondBody env terms c msg = .ok (amount, c')) :
    Filed crypto env terms c (.call msg .claimBond) c' := by
  have hpaid := h
  simp only [claimBondBody, requireHolderRole, bind_ok_iff, revertIf_ok_iff, not_not, not_or,
    not_lt, checkedAdd_ok_iff, pure_ok_iff, Bool.not_eq_true] at h
  obtain ⟨-, ⟨hstate, hunclaimed⟩, units, hunits, -, hpos, -, ⟨-, -, hrole⟩, _, ⟨-, rfl⟩, -, hheld,
    _, hamount, _, ⟨-, rfl⟩, c₁, hpay, ⟨⟩⟩ := h
  obtain ⟨-, -, -, -, -, -, -, -, -, horiginator, -⟩ := hrole
  obtain ⟨token, -, rfl⟩ := transferExact_ok hpay
  exact ⟨.claim hstate hunclaimed hunits hpos horiginator hheld hamount ⟨_, hpaid⟩, .of_eq rfl,
    .same id rfl rfl⟩

/-! ## The calls that leave the docket alone -/

theorem followSupply_docket (h : followSupply terms s = .ok s') :
    (s'.balanceOf = s.balanceOf ∧ s'.cva = s.cva) ∧
      (s'.docket = s.docket ∨ s.protectionState = .active ∧
        s'.docket = { s.docket with protectionState := .released }) := by
  unfold followSupply at h
  by_cases hactive : s.protectionState = .active
  · rw [if_pos hactive, bind_ok_iff] at h
    obtain ⟨s₁, hrelease, hs'⟩ := h
    obtain ⟨target, -, rfl⟩ := releaseExcessBond_ok terms hactive hrelease
    rw [pure_ok_iff] at hs'
    split at hs'
    · subst hs'
      exact ⟨⟨rfl, rfl⟩, .inr ⟨hactive, rfl⟩⟩
    · subst hs'
      exact ⟨⟨rfl, rfl⟩, .inl rfl⟩
  · rw [if_neg hactive, pure_ok_iff] at h
    subst h
    exact ⟨⟨rfl, rfl⟩, .inl rfl⟩

theorem retireReceivable_docket (s : VaultState) :
    (retireReceivable s).docket = s.docket ∧ (retireReceivable s).balanceOf = s.balanceOf ∧
      (retireReceivable s).cva = s.cva := by
  unfold retireReceivable
  split <;> exact ⟨rfl, rfl, rfl⟩

theorem refund_docket (h : refundExcessRedemptionEscrow terms s = .ok s') :
    s'.docket = s.docket ∧ s'.balanceOf = s.balanceOf ∧ s'.cva = s.cva := by
  obtain ⟨remaining, -, rfl⟩ := refundExcessRedemptionEscrow_ok terms h
  exact ⟨rfl, rfl, rfl⟩

theorem burn_docket {account : Address} (h : burn env terms c account value = .ok c') :
    Kept c c' := by
  rw [burn, revertIf_bind_ok_iff] at h
  exact (update_ok env terms h.2).kept

theorem transferUnits_docket
    (h : transferUnits env terms c source target value = .ok c') : Kept c c' := by
  simp only [transferUnits, revertIf_bind_ok_iff] at h
  exact (update_ok env terms h.2.2).kept

/-- The custody call of an exit moved the outside world as it said. -/
theorem custodyExit_world {units : ℕ} {call : Option W}
    (h : custodyExit env terms c units call = .ok c') : call = some c'.world := by
  simp only [custodyExit, bind_ok_iff, require_ok_iff, pure_ok_iff] at h
  obtain ⟨_, -, world, hcall, _, -, -, -, rfl⟩ := h
  exact hcall

theorem redeemBody_docket {units : BitVec 256}
    (h : redeemBody env terms c msg units.toNat = .ok (amount, c')) :
    Filed crypto env terms c (.call msg (.redeem units)) c' := by
  simp only [redeemBody, redeemPaid, bind_ok_iff, revertIf_ok_iff, not_or, not_lt,
    checkedSub_ok_iff, checkedAdd_ok_iff, pure_ok_iff] at h
  obtain ⟨⟨_, c₁⟩, ⟨-, hstate, -, -, -, -, _, -, -, ⟨-, hcovered⟩, c₂, hexit, _, ⟨-, rfl⟩, _,
    ⟨-, rfl⟩, _, -, _, -, c₃, hburn, c₄, hpay, ⟨⟩⟩, s₁, hrefund, s₂, hfollow, ⟨⟩⟩ := h
  have hworld := custodyExit_world hexit
  obtain ⟨world, rfl⟩ := custodyExit_ok hexit
  obtain ⟨token, -, rfl⟩ := transferExact_ok hpay
  have hburned := burn_docket hburn
  obtain ⟨hdocket₁, hbalances₁, hcva₁⟩ := refund_docket hrefund
  obtain ⟨⟨hbalances₂, hcva₂⟩, hdocket₂⟩ := followSupply_docket hfollow
  obtain ⟨hdocket₃, hbalances₃, hcva₃⟩ := retireReceivable_docket s₂
  have hsame : s₁.docket = c.vault.docket := hdocket₁.trans hburned.docket
  have hbalances : (retireReceivable s₂).balanceOf = c₃.vault.balanceOf :=
    hbalances₃.trans (hbalances₂.trans hbalances₁)
  refine ⟨?_, fun account horiginator => ?_, .redeem (by tauto) hcovered ?_ ?_⟩
  · simp only [hdocket₃]
    rcases hdocket₂ with hkept | ⟨hactive, hreleased⟩
    · rw [hkept, hsame]
      exact .quiet id
    · rw [hreleased, hsame]
      refine .release ?_ (.inr ⟨units, rfl⟩)
      rw [← hactive]
      exact (congrArg Docket.protectionState hsame).symm
  · exact (congrFun hbalances account).le.trans (hburned.originators account horiginator)
  · rw [hworld]
    exact congrArg some hburned.world.symm
  · exact hcva₃.trans (hcva₂.trans (hcva₁.trans hburned.cva))

theorem closeProtectionBody_docket (h : closeProtectionBody env terms c msg = .ok c') :
    Filed crypto env terms c (.call msg .closeProtection) c' := by
  simp only [closeProtectionBody, bind_ok_iff, revertIf_ok_iff, not_not, pure_ok_iff] at h
  obtain ⟨-, -, -, hstate, -, -, s, hreturn, rfl⟩ := h
  rw [returnAllLockedBond_ok terms hreturn]
  exact ⟨.release hstate (.inl rfl), .of_eq rfl, .same id rfl rfl⟩

theorem releaseDefaultCvaBody_docket {units : BitVec 256}
    (h : releaseDefaultCvaBody env terms c msg units.toNat = .ok c') :
    Filed crypto env terms c (.call msg (.releaseDefaultCva units)) c' := by
  simp only [releaseDefaultCvaBody, defaultCvaReleased, bind_ok_iff, revertIf_ok_iff, not_or,
    not_lt, not_not, checkedSub_ok_iff, checkedAdd_ok_iff, pure_ok_iff] at h
  obtain ⟨c₁, ⟨-, hstate, -, ⟨-, -, hcovered⟩, -, -, _, -, -, -, _, -, c₂, hexit, _, ⟨-, rfl⟩, _,
    -, hburn⟩, s₁, hrefund, rfl⟩ := h
  have hworld := custodyExit_world hexit
  obtain ⟨world, rfl⟩ := custodyExit_ok hexit
  have hburned := burn_docket hburn
  obtain ⟨hdocket₁, hbalances₁, hcva₁⟩ := refund_docket hrefund
  obtain ⟨hdocket₂, hbalances₂, hcva₂⟩ := retireReceivable_docket s₁
  refine ⟨?_, fun account horiginator => ?_, .release hstate hcovered ?_ ?_⟩
  · rw [show (retireReceivable s₁).docket = c.vault.docket from
      hdocket₂.trans (hdocket₁.trans hburned.docket)]
    exact .quiet id
  · exact (congrFun (hbalances₂.trans hbalances₁) account).le.trans
      (hburned.originators account horiginator)
  · rw [hworld]
    exact congrArg some hburned.world.symm
  · exact hcva₂.trans (hcva₁.trans hburned.cva)

theorem fundRedemptionBody_docket
    (h : fundRedemptionBody env terms c msg amount = .ok c') : Kept c c' := by
  simp only [fundRedemptionBody, bind_ok_iff, revertIf_ok_iff, pure_ok_iff] at h
  obtain ⟨-, -, -, -, -, -, -, hpos, _, -, _, -, -, -, -, -, -, -, -, -, c₁, hcollect, _, -,
    rfl⟩ := h
  obtain ⟨token, -, rfl⟩ := collectExact_ok hpos hcollect
  exact ⟨rfl, .of_eq rfl, rfl, rfl⟩

theorem claimSettlementCreditBody_docket
    (h : claimSettlementCreditBody env terms c msg = .ok (amount, c')) : Kept c c' := by
  simp only [claimSettlementCreditBody, bind_ok_iff, pure_ok_iff] at h
  obtain ⟨-, -, _, -, c₁, hpay, ⟨⟩⟩ := h
  obtain ⟨token, -, rfl⟩ := transferExact_ok hpay
  exact ⟨rfl, .of_eq rfl, rfl, rfl⟩

theorem markDefaultBody_docket (h : markDefaultBody env terms c msg = .ok c') : Kept c c' := by
  simp only [markDefaultBody, bind_ok_iff, pure_ok_iff] at h
  obtain ⟨-, -, -, -, -, -, -, -, rfl⟩ := h
  exact ⟨rfl, .of_eq rfl, rfl, rfl⟩

theorem transferFrom_docket
    (h : transferFrom env terms c msg source target value = .ok c') : Kept c c' := by
  obtain ⟨s, hspend, htransfer⟩ := bind_ok_iff.mp h
  obtain ⟨allowance, rfl⟩ := spendAllowance_ok hspend
  have hmoved := transferUnits_docket htransfer
  exact ⟨hmoved.docket, hmoved.originators, hmoved.world, hmoved.cva⟩

theorem approve_docket {spender : Address} (h : approve c msg spender value = .ok c') :
    Kept c c' := by
  simp only [approve, bind_ok_iff, pure_ok_iff] at h
  obtain ⟨s, happrove, rfl⟩ := h
  obtain ⟨allowance, rfl⟩ := approveUnits_ok happrove
  exact ⟨rfl, .of_eq rfl, rfl, rfl⟩

/-- An event that is none of the filing calls and kept the docket. -/
theorem Kept.filed {event : Event W} (h : Kept c c') (hquiet : ¬ event.Files)
    (hcustody : ¬ event.MovesCustody) : Filed crypto env terms c event c' where
  step := by
    rw [h.docket]
    exact .quiet hquiet
  originators := h.originators
  custody := .same hcustody h.world h.cva

/-! ## Every call and every event -/

theorem Call.body_docket {entry : Call} (h : entry.body crypto env terms c msg = .ok c') :
    Filed crypto env terms c (.call msg entry) c' := by
  cases entry with
  | activate => exact activateBody_docket h
  | authorizeOriginatorWallet => exact authorizeOriginatorWallet_docket h
  | commitConflict => exact commitConflict_docket h
  | revealConflict => exact revealConflict_docket h
  | expireCommit => exact expireCommitBody_docket h
  | cureConflict => exact cureConflictBody_docket h
  | finalizeConflict => exact finalizeConflictBody_docket h
  | claimBond =>
      obtain ⟨⟨amount, _⟩, hbody, rfl⟩ := map_ok_iff.mp h
      exact claimBondBody_docket hbody
  | fundRedemption => exact (fundRedemptionBody_docket h).filed id id
  | claimSettlementCredit =>
      obtain ⟨⟨amount, _⟩, hbody, rfl⟩ := map_ok_iff.mp h
      exact (claimSettlementCreditBody_docket hbody).filed id id
  | redeem =>
      obtain ⟨⟨amount, _⟩, hbody, rfl⟩ := map_ok_iff.mp h
      exact redeemBody_docket hbody
  | closeProtection => exact closeProtectionBody_docket h
  | markDefault => exact (markDefaultBody_docket h).filed id id
  | releaseDefaultCva => exact releaseDefaultCvaBody_docket h
  | transfer => exact (transferUnits_docket h).filed id id
  | transferFrom => exact (transferFrom_docket h).filed id id
  | approve => exact (approve_docket h).filed id id

/-- **The docket of an event.** -/
theorem exec_docket {event : Event W} (h : exec crypto env terms c event = .ok c') :
    Filed crypto env terms c event c' := by
  cases event with
  | call msg entry => exact Call.body_docket (Call.perform_ok h)
  | donate source amount =>
      have hvault := (exec_donate h).1
      have hworld : c'.world = c.world := by
        simp only [exec, bind_ok_iff] at h
        obtain ⟨-, -, hsettle⟩ := h
        obtain ⟨token, -, rfl⟩ := settle_ok hsettle
        rfl
      exact Kept.filed ⟨congrArg VaultState.docket hvault, .of_eq (by rw [hvault]), hworld,
        congrArg VaultState.cva hvault⟩ id id
  | outside token world =>
      simp only [exec, bind_ok_iff, pure_ok_iff] at h
      obtain ⟨-, -, rfl⟩ := h
      exact ⟨.quiet id, .of_eq rfl, .outside rfl rfl⟩

/-! ## Histories -/

/-- `start` is a chain right after a construction with these terms, over the
ledger `token`. -/
def Deployed (env : Externals W) (terms : Terms) (token : Settlement) (start : Chain W) : Prop :=
  ∃ world chainId now init s,
    construct env world terms.vault chainId now init = .ok (terms, s) ∧
      start = deployed s token world

theorem Deployed.reaches {events : List (Event W)} {start : Chain W}
    (hstart : Deployed env terms token start)
    (hrun : run (exec crypto env terms) start events = .ok c) :
    Reaches crypto env terms token events c := by
  obtain ⟨world, chainId, now, init, s, hconstruct, rfl⟩ := hstart
  exact ⟨world, chainId, now, init, s, hconstruct, hrun⟩

theorem Deployed.initial {start : Chain W} (hstart : Deployed env terms token start) :
    ∃ signer world, start = deployed (VaultState.initial signer) token world := by
  obtain ⟨world, chainId, now, init, s, hconstruct, rfl⟩ := hstart
  exact ⟨init.initialOriginatorSigner, world, by rw [construct_initial hconstruct]⟩

/-- **History rule of the vault.** What holds of a fresh vault and of the empty
history, and is kept by one more event, holds of every reachable chain and the
events that led to it. -/
theorem Reaches.history {P : List (Event W) → Chain W → Prop} {events : List (Event W)}
    (hreach : Reaches crypto env terms token events c)
    (hfresh : ∀ signer world, P [] (deployed (VaultState.initial signer) token world))
    (hstep : ∀ before event c₁ c₂, Reaches crypto env terms token before c₁ → P before c₁ →
      exec crypto env terms c₁ event = .ok c₂ → P (before ++ [event]) c₂) : P events c := by
  obtain ⟨world, chainId, now, init, s, hconstruct, hrun⟩ := hreach
  refine run_history ?_ ?_ hrun
  · rw [construct_initial hconstruct]
    exact hfresh _ _
  · intro before event c₁ c₂ hbefore hP hexec
    exact hstep before event c₁ c₂ ⟨world, chainId, now, init, s, hconstruct, hbefore⟩ hP hexec

end

/-! ## A sample dispute

The sample deployment, with a second pledge of the same invoice to the facility
`0x21`: activation, a commitment, its opening after one transfer, finalization
after the cure window, and the claims of both holders. -/

namespace Sample

/-- A digest that tells the sample's byte strings apart; every signature is the
originator's. -/
def hashing : Crypto where
  keccak256 bytes :=
    BitVec.ofNat 256 (bytes.foldl (fun acc b => (acc * 65599 + b.toNat + 1) % 2 ^ 256) 1)
  ecrecover _ _ _ _ := 0x17

def rival : Pledge := { pledge with facility := 0x21, nonce := 2 }

def signature : Bytes := List.replicate 65 0

/-- The commitment of the facility `0x21` to `pledge`, with salt 7. -/
def commitmentTo (pledge : Pledge) : Bytes32 :=
  conflictCommitment hashing terms (hashPledge hashing terms pledge) (hashing.keccak256 signature)
    0x21 7

def dispute : List (Event Custody) :=
  [.call ⟨0x20, 5, 1⟩ (.activate pledge signature 0x30 [0x30, 0x31] [4, 6]),
    .call ⟨0x21, 9, 2⟩ (.commitConflict (commitmentTo rival)),
    .call ⟨0x30, 10, 3⟩ (.transfer 0x31 1),
    .call ⟨0x21, 10, 4⟩ (.revealConflict rival signature 7),
    .call ⟨0x31, 16, 5⟩ .finalizeConflict,
    .call ⟨0x30, 17, 6⟩ .claimBond,
    .call ⟨0x31, 18, 7⟩ .claimBond]

/-- A run of a deployment that commits to a chain with some property reaches such
a chain. -/
theorem reaches_from {init : Init} {terms : Terms}
    (hconstruct : construct env (10, 10) terms.vault 1 3 init =
      .ok (terms, VaultState.initial 0x17)) (events : List (Event Custody))
    (holds : Chain Custody → Bool)
    (hcommits : (run (exec hashing env terms)
      (deployed (VaultState.initial 0x17) token (10, 10)) events).toOption.any holds = true) :
    ∃ c, Reaches hashing env terms token events c ∧ holds c = true := by
  obtain ⟨c, hrun, hholds⟩ := any_ok_iff.mp hcommits
  exact ⟨c, ⟨(10, 10), 1, 3, init, _, hconstruct, hrun⟩, hholds⟩

theorem reaches_such (events : List (Event Custody)) (holds : Chain Custody → Bool)
    (hcommits : (run (exec hashing env terms)
      (deployed (VaultState.initial 0x17) token (10, 10)) events).toOption.any holds = true) :
    ∃ c, Reaches hashing env terms token events c ∧ holds c = true :=
  reaches_from (show construct env (10, 10) terms.vault 1 3 init = _ from rfl) events holds hcommits

/-- The dispute ends in an entitlement, fully claimed. -/
theorem dispute_reaches :
    ∃ c, Reaches hashing env terms token dispute c ∧
      decide (c.vault.protectionState = .entitled ∧ c.vault.entitlementClaimed = 10) = true :=
  reaches_such _ _ (by decide +kernel)

end Sample

end Mordant.Vault
