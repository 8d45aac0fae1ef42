/-
# The books of the vault

The vault's four liabilities, its two lifecycles and the supply, with
everything else forgotten: who signed what, which window is open, what the
outside contracts answered.  `Books.Step` lists every way a call can move these
figures, one constructor for each kind of call and with the guards the
accounting arguments need.

`Call.body_refines` is the connection to the model of the code: every committed
call body is one step of the books.  It is proved before the closing assertion
is taken into account, so an invariant of the books holds of what that
assertion is about to check.
-/

import Mordant.Vault.Run

namespace Mordant.Vault

open Evm Foundation

/-- The figures the accounting is about. -/
structure Books where
  protection : ProtectionState
  receivable : ReceivableState
  supply : ℕ
  /-- Custody units the vault accounts for. -/
  custody : ℕ
  pendingSupply : ℕ
  pendingBond : ℕ
  bondLocked : ℕ
  bondReturned : ℕ
  allocated : ℕ
  claimed : ℕ
  claimedUnits : ℕ
  claimSupply : ℕ
  escrow : ℕ
  redeemedFace : ℕ
  releasedFace : ℕ
  credit : Address → ℕ
  creditTotal : ℕ
  /-- The vault's settlement-token balance. -/
  balance : ℕ

namespace Books

variable (terms : Terms) (b : Books)

/-- Owe `amount` more to `account`. -/
def owe (account : Address) (amount : ℕ) : Books :=
  { b with
    credit := Function.update b.credit account (b.credit account + amount)
    creditTotal := b.creditTotal + amount }

/-- Lower the locked bond to `target`, owing the excess to the originator. -/
def trimBond (target : ℕ) : Books :=
  { b.owe terms.originatorTreasury (b.bondLocked - target) with
    bondLocked := min b.bondLocked target
    bondReturned := b.bondReturned + (b.bondLocked - target) }

/-- Lower the escrow to `remaining`, owing the excess to the buyer. -/
def trimEscrow (remaining : ℕ) : Books :=
  { b.owe terms.buyer (b.escrow - remaining) with escrow := min b.escrow remaining }

/-- A receivable without units left is redeemed. -/
def retire : Books :=
  { b with receivable := if b.supply = 0 then .redeemed else b.receivable }

/-- The bond goes down to `target`, and an active reserve is released with the
last unit. -/
def follow (target : ℕ) : Books :=
  { b.trimBond terms target with
    protection := if b.protection = .active ∧ b.supply = 0 then .released else b.protection }

/-- The pending conflict is dropped and the reserve is active again. -/
def reopened : Books := { b with protection := .active, pendingSupply := 0, pendingBond := 0 }

/-- Units are issued and the bond is withheld from the advance. -/
def activated : Books :=
  { b with
    protection := .active
    receivable := .outstanding
    supply := b.supply + terms.initialUnits
    custody := terms.initialUnits
    bondLocked := terms.initialBond
    balance := b.balance + terms.initialBond }

/-- Units leave against cash. -/
def pay (units amount : ℕ) : Books :=
  { b with
    supply := b.supply - units
    custody := b.custody - units
    escrow := b.escrow - amount
    redeemedFace := b.redeemedFace + amount
    balance := b.balance - amount }

/-- Units leave against the custody asset. -/
def handOver (units amount : ℕ) : Books :=
  { b with
    supply := b.supply - units
    custody := b.custody - units
    releasedFace := b.releasedFace + amount }

/-- How a redemption moves the protection lifecycle. -/
theorem redeem_protection (units amount remaining target : ℕ) :
    ((((b.pay units amount).trimEscrow terms remaining).follow terms target).retire).protection =
      if b.protection = .active ∧ b.supply - units = 0 then .released else b.protection := rfl

/-- The face value of `units` leaving now: the pro-rata share rounded down, or
the remainder when they are the last. -/
structure FaceShare (units amount : ℕ) : Prop where
  last : units = b.supply → b.redeemedFace + b.releasedFace + amount = terms.faceValue
  part : units ≠ b.supply → amount = floorShare terms.faceValue units terms.initialUnits

/-- The units and amounts of an exit fit the books. -/
structure Exit (units amount : ℕ) : Prop where
  pos : 0 < units
  held : units ≤ b.supply
  custody : units ≤ b.custody
  share : b.FaceShare terms units amount

/-- What one call can do to the books. -/
inductive Step : Books → Books → Prop
  | idle (b : Books) : Step b b
  | activate (b : Books) (hstate : b.protection = .unfunded)
      (hunissued : b.receivable = .unissued) : Step b (b.activated terms)
  | commit (b : Books) (exposed : ℕ) (hstate : b.protection = .active) (hpos : 0 < b.supply)
      (hexposed : requiredBond terms b.supply = .ok exposed) (hcovered : exposed ≤ b.bondLocked) :
      Step b { b with
        protection := .commitPending
        pendingSupply := b.supply
        pendingBond := exposed }
  | reveal (b : Books) (hstate : b.protection = .commitPending) :
      Step b { b with protection := .conflictConfirmed }
  | reopen (b : Books) (target : ℕ)
      (hstate : b.protection = .commitPending ∨ b.protection = .conflictConfirmed)
      (htarget : requiredBond terms b.supply = .ok target) :
      Step b (b.reopened.trimBond terms target)
  | finalize (b : Books) (hstate : b.protection = .conflictConfirmed)
      (hcovered : b.pendingBond ≤ b.bondLocked) (hfirst : b.allocated = 0) :
      Step b { b with
        protection := .entitled
        claimSupply := b.pendingSupply
        allocated := b.pendingBond
        bondLocked := b.bondLocked - b.pendingBond
        pendingSupply := 0
        pendingBond := 0 }
  | claimBond (b : Books) (units amount : ℕ) (hstate : b.protection = .entitled) (hpos : 0 < units)
      (hheld : b.claimedUnits + units ≤ b.claimSupply)
      (hlast : b.claimedUnits + units = b.claimSupply → b.claimed + amount = b.allocated)
      (hpart : b.claimedUnits + units ≠ b.claimSupply →
        amount = floorShare b.allocated units b.claimSupply)
      (hfunds : amount ≤ b.balance) :
      Step b { b with
        claimed := b.claimed + amount
        claimedUnits := b.claimedUnits + units
        balance := b.balance - amount }
  | fund (b : Books) (amount : ℕ)
      (hstate : b.receivable = .outstanding ∨ b.receivable = .defaultOutstanding)
      (hroom : b.redeemedFace + b.releasedFace + b.escrow + amount ≤ terms.faceValue) :
      Step b { b with escrow := b.escrow + amount, balance := b.balance + amount }
  | claimCredit (b : Books) (account : Address) (htotal : b.credit account ≤ b.creditTotal)
      (hfunds : b.credit account ≤ b.balance) :
      Step b { b with
        credit := Function.update b.credit account 0
        creditTotal := b.creditTotal - b.credit account
        balance := b.balance - b.credit account }
  | redeem (b : Books) (units amount remaining target : ℕ)
      (hstate : b.receivable = .outstanding ∨ b.receivable = .defaultOutstanding)
      (hexit : b.Exit terms units amount) (hescrow : amount ≤ b.escrow)
      (hfunds : amount ≤ b.balance)
      (hremaining : b.redeemedFace + b.releasedFace + amount + remaining = terms.faceValue)
      (htarget : b.protection = .active → requiredBond terms (b.supply - units) = .ok target)
      (hkept : b.protection ≠ .active → target = b.bondLocked) :
      Step b ((((b.pay units amount).trimEscrow terms remaining).follow terms target).retire)
  | close (b : Books) (hstate : b.protection = .active) :
      Step b { trimBond terms b 0 with
        protection := .released
        receivable := if b.supply ≠ 0 then .defaultOutstanding else .redeemed }
  | markDefault (b : Books) (hstate : b.protection = .entitled)
      (hreceivable : b.receivable = .outstanding) :
      Step b { b with receivable := .defaultOutstanding }
  | handOver (b : Books) (units amount remaining : ℕ)
      (hstate : b.receivable = .defaultOutstanding) (hexit : b.Exit terms units amount)
      (hremaining : b.redeemedFace + b.releasedFace + amount + remaining = terms.faceValue) :
      Step b (((b.handOver units amount).trimEscrow terms remaining).retire)

end Books

/-- The books of a storage and a settlement-token balance. -/
def booksOf (s : VaultState) (balance : ℕ) : Books where
  protection := s.protectionState
  receivable := s.receivableState
  supply := s.totalSupply
  custody := s.cvaAccounted
  pendingSupply := s.pendingConflict.snapshotSupply
  pendingBond := s.pendingConflict.snapshotBond
  bondLocked := s.bondLocked
  bondReturned := s.bondReturned
  allocated := s.entitlementAllocated
  claimed := s.entitlementClaimed
  claimedUnits := s.entitlementClaimedUnits
  claimSupply := s.entitlementSnapshotSupply
  escrow := s.redemptionEscrow
  redeemedFace := s.redeemedFace
  releasedFace := s.cvaReleasedFace
  credit := s.settlementCredit
  creditTotal := s.settlementCreditTotal
  balance := balance

/-- The books of a chain. -/
def books {W : Type} (terms : Terms) (c : Chain W) : Books :=
  booksOf c.vault (c.token.balanceOf terms.vault)

/-- A movement of units shows in the books only through the supply. -/
theorem booksOf_updated (s : VaultState) (source target : Address) (value balance : ℕ) :
    booksOf (updated s source target value) balance =
      { booksOf s balance with supply := (updated s source target value).totalSupply } := rfl

end Mordant.Vault
