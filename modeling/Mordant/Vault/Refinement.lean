/-
# Every committed call is one step of the books

One lemma for each entry point, in the order of the source.  Each inverts the
body once and names the step it took; no later argument opens a body again.
The units table rides along, because a burn lowers the supply by exactly its
value only while balances add up to the supply.
-/

import Mordant.Vault.Books

namespace Mordant.Vault

open Evm Foundation

section

variable {W : Type} {crypto : Crypto} {env : Externals W} {terms : Terms}
variable {c c' : Chain W} {msg : Msg} {signature : Bytes} {s : VaultState} {units amount value : ℕ}
  {spender source : Address}

/-- A committed call keeps the units table consistent, reaches its storage by
movements of units, and takes one step of the books. -/
structure Refines (terms : Terms) (c c' : Chain W) : Prop where
  units : UnitsConsistent c'.vault
  moves : UnitMoves c.vault c'.vault
  step : Books.Step terms (books terms c) (books terms c')

/-! ## Issuance -/

theorem checkAllocations_ok {shares : List (Address × ℕ)} {seen : List Address}
    {allocated total : ℕ} (h : checkAllocations env terms c seen allocated shares = .ok total) :
    total = allocated + (shares.map Prod.snd).sum := by
  induction shares generalizing seen allocated with
  | nil =>
      rw [checkAllocations, pure_ok_iff] at h
      simp [h]
  | cons share rest ih =>
      obtain ⟨holder, allocation⟩ := share
      simp only [checkAllocations, bind_ok_iff, checkedAdd_ok_iff] at h
      obtain ⟨-, -, -, -, -, -, -, -, _, ⟨-, rfl⟩, hrest⟩ := h
      rw [ih hrest, List.map_cons, List.sum_cons, Nat.add_assoc]

theorem bondAmount_ok {nextClaimedUnits : ℕ}
    (h : bondAmount s units nextClaimedUnits = .ok amount) :
    (nextClaimedUnits = s.entitlementSnapshotSupply →
        s.entitlementClaimed + amount = s.entitlementAllocated) ∧
      (nextClaimedUnits ≠ s.entitlementSnapshotSupply →
        amount = floorShare s.entitlementAllocated units s.entitlementSnapshotSupply) := by
  unfold bondAmount at h
  constructor
  · intro hall
    rw [if_pos hall, checkedSub_ok_iff] at h
    omega
  · intro hsome
    rw [if_neg hsome, mulDiv_ok_iff] at h
    exact h.2.symm

section

variable (hunits : UnitsConsistent c.vault)
include hunits

theorem authorizeOriginatorWallet_refines {signer : Address}
    (h : authorizeOriginatorWallet env terms c msg signer = .ok c') : Refines terms c c' := by
  simp only [authorizeOriginatorWallet, bind_ok_iff, pure_ok_iff] at h
  obtain ⟨-, -, -, -, -, -, -, -, -, -, -, -, rfl⟩ := h
  exact ⟨⟨hunits.total, hunits.fits⟩, .other rfl, .idle _⟩

/-- The minting loop adds up to its allocations and touches nothing else in the
books. -/
theorem mintAll_ok {shares : List (Address × ℕ)} (h : mintAll env terms c shares = .ok c') :
    UnitsConsistent c'.vault ∧ UnitMoves c.vault c'.vault ∧
      books terms c' =
        { books terms c with supply := c.vault.totalSupply + (shares.map Prod.snd).sum } := by
  induction shares generalizing c with
  | nil =>
      rw [mintAll, pure_ok_iff] at h
      subst h
      exact ⟨hunits, .other rfl, rfl⟩
  | cons share rest ih =>
      obtain ⟨holder, allocation⟩ := share
      obtain ⟨c₁, hmint, hrest⟩ := bind_ok_iff.mp h
      obtain ⟨hsupply, hunits₁, rfl⟩ := mint_ok hmint hunits
      obtain ⟨hunits', hmoves, hbooks⟩ := ih hunits₁ hrest
      refine ⟨hunits', .trans (.move _ _ _ _ hunits₁) hmoves, ?_⟩
      rw [hbooks, hsupply, List.map_cons, List.sum_cons, Nat.add_assoc]
      rfl

theorem activateBody_ok {pledge : Pledge} {funder : Address}
    {holders : List Address} {allocations : List (BitVec 256)}
    (h : activateBody crypto env terms c msg pledge signature funder holders allocations =
      .ok c') :
    c.vault.protectionState = .unfunded ∧ c.vault.receivableState = .unissued ∧
      UnitsConsistent c'.vault ∧ UnitMoves c.vault c'.vault ∧
      books terms c' = (books terms c).activated terms := by
  simp only [activateBody, bind_ok_iff, revertIf_ok_iff, not_or, not_not] at h
  obtain ⟨-, ⟨hstate, hreceivable⟩, -, -, digest, -, -, -, -, -, _, -, -, -, -, -, _, -, -, -, -,
    -, -, -, -, -, total, hcheck, -, htotal, c₁, hcollect, c₂, hmint, hpay⟩ := h
  have hadvance : terms.advanceAmount ≠ 0 := (lt_trans terms.bond_pos terms.bond_lt).ne'
  have hbond := terms.bond_lt
  have hnet := terms.net_eq
  obtain ⟨token₁, hin, rfl⟩ := collectExact_ok hadvance hcollect
  have hunits₁ : UnitsConsistent (c.vault.activated terms pledge digest msg.sender) :=
    ⟨hunits.total, hunits.fits⟩
  obtain ⟨hunits₂, hmoves₂, hbooks₂⟩ := mintAll_ok hunits₁ hmint
  obtain ⟨token₂, hout, rfl⟩ := transferExact_ok hpay
  have hsum := checkAllocations_ok hcheck
  refine ⟨hstate, hreceivable, hunits₂, hmoves₂.after rfl, ?_⟩
  -- the advance came in and the net proceeds went out: the bond stayed
  have hbalance : token₂.balanceOf terms.vault =
      c.token.balanceOf terms.vault + terms.initialBond := by
    have hmid : c₂.token.balanceOf terms.vault = token₁.balanceOf terms.vault :=
      congrArg Books.balance hbooks₂
    omega
  have hbooks : books terms { c₂ with token := token₂ } =
      { books terms c₂ with balance := c.token.balanceOf terms.vault + terms.initialBond } := by
    rw [← hbalance]
    rfl
  rw [hbooks, hbooks₂]
  rw [Nat.zero_add, htotal] at hsum
  rw [← hsum]
  rfl

theorem activateBody_refines {pledge : Pledge} {funder : Address}
    {holders : List Address} {allocations : List (BitVec 256)}
    (h : activateBody crypto env terms c msg pledge signature funder holders allocations =
      .ok c') : Refines terms c c' := by
  obtain ⟨hstate, hreceivable, hunits', hmoves, hbooks⟩ := activateBody_ok hunits h
  refine ⟨hunits', hmoves, ?_⟩
  rw [hbooks]
  exact .activate (books terms c) hstate hreceivable

/-! ## Conflicts -/

theorem commitConflict_refines {commitment : Bytes32}
    (h : commitConflict env terms c msg commitment = .ok c') : Refines terms c c' := by
  simp only [commitConflict, bind_ok_iff, revertIf_ok_iff, not_not, not_lt, pure_ok_iff] at h
  obtain ⟨-, -, -, hstate, -, -, -, -, -, -, -, -, -, hsupply, exposed, hexposed, -, hcovered, _,
    -, rfl⟩ := h
  have hpos : 0 < c.vault.totalSupply := Nat.pos_of_ne_zero fun hzero => hsupply (.inl hzero)
  exact ⟨⟨hunits.total, hunits.fits⟩, .other rfl,
    .commit (books terms c) exposed hstate hpos hexposed hcovered⟩

theorem revealConflict_refines {pledge : Pledge} {salt : Bytes32}
    (h : revealConflict crypto env terms c msg pledge signature salt = .ok c') :
    Refines terms c c' := by
  simp only [revealConflict, bind_ok_iff, revertIf_ok_iff, not_not, pure_ok_iff] at h
  obtain ⟨-, -, -, hstate, -, -, -, -, digest, -, -, -, -, -, -, -, -, -, _, -, rfl⟩ := h
  exact ⟨⟨hunits.total, hunits.fits⟩, .other rfl, .reveal (books terms c) hstate⟩

theorem reopen_refines (hstate : c.vault.protectionState = .commitPending ∨
      c.vault.protectionState = .conflictConfirmed)
    (h : reopen terms c.vault = .ok s) : Refines terms c { c with vault := s } := by
  obtain ⟨target, htarget, rfl⟩ := releaseExcessBond_ok terms rfl h
  exact ⟨⟨hunits.total, hunits.fits⟩, .other rfl, .reopen (books terms c) target hstate htarget⟩

theorem expireCommitBody_refines
    (h : expireCommitBody terms c msg = .ok c') : Refines terms c c' := by
  simp only [expireCommitBody, bind_ok_iff, revertIf_ok_iff, not_not, pure_ok_iff] at h
  obtain ⟨-, hstate, -, -, s, hreopen, rfl⟩ := h
  exact reopen_refines hunits (.inl hstate) hreopen

theorem cureConflictBody_refines {cancellation : Cancellation}
    (h : cureConflictBody crypto env terms c msg cancellation signature =
      .ok c') : Refines terms c c' := by
  simp only [cureConflictBody, bind_ok_iff, revertIf_ok_iff, not_not, pure_ok_iff] at h
  obtain ⟨-, hstate, -, -, -, -, -, -, -, -, -, -, signer, -, -, -, s, hreopen, rfl⟩ := h
  -- the spent cancellation nonce is not in the books
  obtain ⟨target, htarget, rfl⟩ := releaseExcessBond_ok terms rfl hreopen
  exact ⟨⟨hunits.total, hunits.fits⟩, .other rfl,
    .reopen (books terms c) target (.inr hstate) htarget⟩

theorem finalizeConflictBody_refines
    (h : finalizeConflictBody c msg = .ok c') : Refines terms c c' := by
  simp only [finalizeConflictBody, bind_ok_iff, revertIf_ok_iff, not_not, not_or, not_lt,
    checkedSub_ok_iff, pure_ok_iff] at h
  obtain ⟨-, hstate, -, -, -, ⟨hcovered, hfirst⟩, _, ⟨-, rfl⟩, rfl⟩ := h
  exact ⟨⟨hunits.total, hunits.fits⟩, .other rfl, .finalize (books terms c) hstate hcovered hfirst⟩

/-! ## Money out and in -/

theorem claimBondBody_refines
    (h : claimBondBody env terms c msg = .ok (amount, c')) : Refines terms c c' := by
  simp only [claimBondBody, bind_ok_iff, revertIf_ok_iff, not_not, not_or, not_lt,
    checkedAdd_ok_iff, pure_ok_iff] at h
  obtain ⟨-, ⟨hstate, -⟩, units, -, -, hpos, -, -, _, ⟨-, rfl⟩, -, hheld, _, hamount, _, ⟨-, rfl⟩,
    c₁, hpay, ⟨⟩⟩ := h
  obtain ⟨hlast, hpart⟩ := bondAmount_ok hamount
  obtain ⟨token, hbalance, rfl⟩ := transferExact_ok hpay
  change token.balanceOf terms.vault + amount = c.token.balanceOf terms.vault at hbalance
  refine ⟨⟨hunits.total, hunits.fits⟩, .other rfl, ?_⟩
  have hstep : Books.Step terms (books terms c) _ := .claimBond (books terms c) units amount hstate
    (Nat.pos_of_ne_zero hpos) hheld hlast hpart (Nat.le.intro ((Nat.add_comm _ _).trans hbalance))
  simp only [books, Nat.eq_sub_of_add_eq hbalance]
  exact hstep

theorem fundRedemptionBody_refines
    (h : fundRedemptionBody env terms c msg amount = .ok c') : Refines terms c c' := by
  simp only [fundRedemptionBody, bind_ok_iff, revertIf_ok_iff, not_lt, remainingLiability_ok_iff,
    checkedAdd_ok_iff, checkedSub_ok_iff, pure_ok_iff] at h
  obtain ⟨-, -, -, -, -, hstate, -, hpos, remaining, hremaining, _, ⟨hescrow, rfl⟩, -, -, -, hroom,
    -, -, -, -, c₁, hcollect, _, ⟨-, rfl⟩, rfl⟩ := h
  obtain ⟨token, hbalance, rfl⟩ := collectExact_ok hpos hcollect
  refine ⟨⟨hunits.total, hunits.fits⟩, .other rfl, ?_⟩
  have hopen : c.vault.receivableState = .outstanding ∨
      c.vault.receivableState = .defaultOutstanding := by
    tauto
  have hstep : Books.Step terms (books terms c) _ := .fund (books terms c) amount hopen
    (by simp only [books, booksOf]; omega)
  simp only [books, hbalance]
  exact hstep

theorem claimSettlementCreditBody_refines
    (h : claimSettlementCreditBody env terms c msg = .ok (amount, c')) : Refines terms c c' := by
  simp only [claimSettlementCreditBody, bind_ok_iff, revertIf_ok_iff, checkedSub_ok_iff,
    pure_ok_iff] at h
  obtain ⟨-, -, _, ⟨htotal, rfl⟩, c₁, hpay, ⟨⟩⟩ := h
  obtain ⟨token, hbalance, rfl⟩ := transferExact_ok hpay
  change token.balanceOf terms.vault + _ = c.token.balanceOf terms.vault at hbalance
  refine ⟨⟨hunits.total, hunits.fits⟩, .other rfl, ?_⟩
  have hstep : Books.Step terms (books terms c) _ := .claimCredit (books terms c) msg.sender htotal
    (Nat.le.intro ((Nat.add_comm _ _).trans hbalance))
  simp only [books, Nat.eq_sub_of_add_eq hbalance]
  exact hstep

end

/-! ## Exits -/

/-- The face amount of an exit the code computed is the books' share. -/
theorem faceAmount_share (h : faceAmount terms c.vault units c.vault.totalSupply = .ok amount) :
    (books terms c).FaceShare terms units amount := by
  unfold faceAmount at h
  constructor
  · intro hall
    change units = c.vault.totalSupply at hall
    rwa [if_pos hall, remainingLiability_ok_iff] at h
  · intro hsome
    change units ≠ c.vault.totalSupply at hsome
    rw [if_neg hsome, mulDiv_ok_iff] at h
    exact h.2.symm

theorem custodyExit_ok {call : Option W} (h : custodyExit env terms c units call = .ok c') :
    ∃ world, c' = { c with world := world } := by
  simp only [custodyExit, bind_ok_iff, pure_ok_iff] at h
  obtain ⟨_, -, world, -, _, -, -, -, rfl⟩ := h
  exact ⟨world, rfl⟩

/-- The first half of `redeem`: units burned, custody consumed, cash paid. -/
structure PaidEffect (terms : Terms) (c : Chain W) (units amount : ℕ) (c' : Chain W) : Prop where
  state : c.vault.receivableState = .outstanding ∨ c.vault.receivableState = .defaultOutstanding
  exit : (books terms c).Exit terms units amount
  escrow : amount ≤ c.vault.redemptionEscrow
  funds : amount ≤ c.token.balanceOf terms.vault
  consistent : UnitsConsistent c'.vault
  moves : UnitMoves c.vault c'.vault
  figures : books terms c' = (books terms c).pay units amount

theorem redeemPaid_ok (hunits : UnitsConsistent c.vault)
    (h : redeemPaid env terms c msg units = .ok (amount, c')) :
    PaidEffect terms c units amount c' := by
  simp only [redeemPaid, bind_ok_iff, revertIf_ok_iff, not_or, not_lt, checkedSub_ok_iff,
    checkedAdd_ok_iff, pure_ok_iff] at h
  obtain ⟨-, hstate, -, ⟨hpos, hheld⟩, -, -, _, hamount, -, ⟨hescrow, hcustody⟩, c₁, hexit, _,
    ⟨-, rfl⟩, _, ⟨-, rfl⟩, _, ⟨-, rfl⟩, _, ⟨-, rfl⟩, c₂, hburn, c₃, hpay, ⟨⟩⟩ := h
  obtain ⟨world, rfl⟩ := custodyExit_ok hexit
  obtain ⟨-, hsupply, hunits₂, rfl⟩ := burn_ok hburn ⟨hunits.total, hunits.fits⟩
  obtain ⟨token, hbalance, rfl⟩ := transferExact_ok hpay
  change token.balanceOf terms.vault + amount = c.token.balanceOf terms.vault at hbalance
  have htotal := le_sum c.vault.balanceOf msg.sender
  rw [hunits.total] at htotal
  exact
    { state := by tauto
      exit := ⟨Nat.pos_of_ne_zero hpos, hheld.trans htotal, hcustody, faceAmount_share hamount⟩
      escrow := hescrow
      funds := Nat.le.intro ((Nat.add_comm _ _).trans hbalance)
      consistent := hunits₂
      moves := (UnitMoves.move _ _ _ _ hunits₂).after rfl
      figures := by
        rw [books, Nat.eq_sub_of_add_eq hbalance, booksOf_updated, Nat.eq_sub_of_add_eq hsupply]
        rfl }

/-- The escrow refund after an exit, in the books. -/
theorem refund_books (h : refundExcessRedemptionEscrow terms c.vault = .ok s) :
    ∃ remaining,
      c.vault.redeemedFace + c.vault.cvaReleasedFace + remaining = terms.faceValue ∧
      s.unitView = c.vault.unitView ∧
      ∀ balance, booksOf s balance = (booksOf c.vault balance).trimEscrow terms remaining := by
  obtain ⟨remaining, hremaining, rfl⟩ := refundExcessRedemptionEscrow_ok terms h
  exact ⟨remaining, hremaining, rfl, fun _ => rfl⟩

theorem owe_zero (b : Books) (account : Address) : b.owe account 0 = b := by
  simp only [Books.owe, Nat.add_zero, Function.update_eq_self]

theorem trimBond_self (terms : Terms) (b : Books) : b.trimBond terms b.bondLocked = b := by
  rw [Books.trimBond, Nat.sub_self, owe_zero, min_self, Nat.add_zero]

/-- The bond following the supply down, in the books. -/
theorem followSupply_books {s' : VaultState} (h : followSupply terms s = .ok s') :
    ∃ target,
      (s.protectionState = .active → requiredBond terms s.totalSupply = .ok target) ∧
      (s.protectionState ≠ .active → target = s.bondLocked) ∧
      s'.unitView = s.unitView ∧
      ∀ balance, booksOf s' balance = (booksOf s balance).follow terms target := by
  unfold followSupply at h
  by_cases hactive : s.protectionState = .active
  · rw [if_pos hactive, bind_ok_iff] at h
    obtain ⟨s₁, hrelease, hs'⟩ := h
    obtain ⟨target, htarget, rfl⟩ := releaseExcessBond_ok terms hactive hrelease
    rw [pure_ok_iff] at hs'
    refine ⟨target, fun _ => htarget, absurd hactive, ?_⟩
    by_cases hempty : s.totalSupply = 0
    · rw [if_pos (show (bondTrimmed terms s target).totalSupply = 0 from hempty)] at hs'
      subst hs'
      refine ⟨rfl, fun balance => ?_⟩
      rw [Books.follow, if_pos (show (booksOf s balance).protection = .active ∧
        (booksOf s balance).supply = 0 from ⟨hactive, hempty⟩)]
      rfl
    · rw [if_neg (show ¬ (bondTrimmed terms s target).totalSupply = 0 from hempty)] at hs'
      subst hs'
      refine ⟨rfl, fun balance => ?_⟩
      rw [Books.follow, if_neg (show ¬ ((booksOf s balance).protection = .active ∧
        (booksOf s balance).supply = 0) from fun h => hempty h.2)]
      rfl
  · rw [if_neg hactive, pure_ok_iff] at h
    subst h
    refine ⟨s.bondLocked, fun h => absurd h hactive, fun _ => rfl, rfl, fun balance => ?_⟩
    rw [Books.follow, if_neg (show ¬ ((booksOf s balance).protection = .active ∧
      (booksOf s balance).supply = 0) from fun h => hactive h.1)]
    exact congrArg (fun b : Books => { b with protection := s.protectionState })
      (trimBond_self terms (booksOf s balance)).symm

theorem retireReceivable_books (s : VaultState) :
    (retireReceivable s).unitView = s.unitView ∧
      ∀ balance, booksOf (retireReceivable s) balance = (booksOf s balance).retire := by
  unfold retireReceivable
  by_cases hempty : s.totalSupply = 0
  · rw [if_pos hempty]
    refine ⟨rfl, fun balance => ?_⟩
    rw [Books.retire, if_pos (show (booksOf s balance).supply = 0 from hempty)]
    rfl
  · rw [if_neg hempty]
    refine ⟨rfl, fun balance => ?_⟩
    rw [Books.retire, if_neg (show ¬ (booksOf s balance).supply = 0 from hempty)]

/-- The first half of `releaseDefaultCva`: units burned, custody handed over. -/
structure ReleasedEffect (terms : Terms) (c : Chain W) (units amount : ℕ) (c' : Chain W) :
    Prop where
  state : c.vault.receivableState = .defaultOutstanding
  exit : (books terms c).Exit terms units amount
  consistent : UnitsConsistent c'.vault
  moves : UnitMoves c.vault c'.vault
  figures : books terms c' = (books terms c).handOver units amount

theorem approveUnits_ok {s' : VaultState} {owner : Address}
    (h : approveUnits s owner spender value = .ok s') :
    ∃ allowance, s' = { s with allowance := allowance } := by
  simp only [approveUnits, bind_ok_iff, pure_ok_iff] at h
  obtain ⟨-, -, -, -, rfl⟩ := h
  exact ⟨_, rfl⟩

theorem spendAllowance_ok {s' : VaultState} {owner : Address}
    (h : spendAllowance s owner spender value = .ok s') :
    ∃ allowance, s' = { s with allowance := allowance } := by
  unfold spendAllowance at h
  by_cases hfinite : s.allowance owner spender < 2 ^ 256 - 1
  · rw [if_pos hfinite, bind_ok_iff] at h
    obtain ⟨-, -, happrove⟩ := h
    exact approveUnits_ok happrove
  · rw [if_neg hfinite, pure_ok_iff] at h
    exact ⟨s.allowance, h.symm⟩

theorem transferUnits_refines {target : Address}
    (h : transferUnits env terms c source target value = .ok c')
    (hunits : UnitsConsistent c.vault) : Refines terms c c' := by
  obtain ⟨-, hsupply, hunits', rfl⟩ := transferUnits_ok h hunits
  refine ⟨hunits', .move _ _ _ _ hunits', ?_⟩
  rw [books, books, booksOf_updated, hsupply]
  exact .idle _

/-- A donation shows in the books as a larger balance. -/
theorem exec_donate (h : exec crypto env terms c (.donate source amount) = .ok c') :
    c'.vault = c.vault ∧
      books terms c' = { books terms c with balance := (books terms c).balance + amount } := by
  simp only [exec, bind_ok_iff, revertIf_ok_iff] at h
  obtain ⟨-, hsource, hsettle⟩ := h
  obtain ⟨token, hmove, rfl⟩ := settle_ok hsettle
  refine ⟨rfl, ?_⟩
  simp only [books, Ledger.move_in hsource hmove]
  rfl

section

variable (hunits : UnitsConsistent c.vault)
include hunits

theorem redeemBody_refines
    (h : redeemBody env terms c msg units = .ok (amount, c')) : Refines terms c c' := by
  simp only [redeemBody, bind_ok_iff, pure_ok_iff] at h
  obtain ⟨⟨amount, c₁⟩, hpaid, s₁, hrefund, s₂, hfollow, ⟨⟩⟩ := h
  have hpaid := redeemPaid_ok hunits hpaid
  simp only at hrefund
  obtain ⟨remaining, hremaining, hview₁, hbooks₁⟩ := refund_books hrefund
  obtain ⟨target, htarget, hkept, hview₂, hbooks₂⟩ := followSupply_books hfollow
  obtain ⟨hview₃, hbooks₃⟩ := retireReceivable_books s₂
  have hview := hview₃.trans (hview₂.trans hview₁)
  refine ⟨hpaid.consistent.congr hview, hpaid.moves.trans (.other hview), ?_⟩
  have hfigures : booksOf c₁.vault (c₁.token.balanceOf terms.vault) =
      (books terms c).pay units amount := hpaid.figures
  have hface : c₁.vault.redeemedFace + c₁.vault.cvaReleasedFace =
      c.vault.redeemedFace + amount + c.vault.cvaReleasedFace :=
    congrArg₂ (· + ·) (congrArg Books.redeemedFace hfigures) (congrArg Books.releasedFace hfigures)
  have hsupply : s₁.totalSupply = c.vault.totalSupply - units :=
    (congrArg UnitView.totalSupply hview₁).trans (congrArg Books.supply hfigures)
  have hprotection : s₁.protectionState = c.vault.protectionState :=
    (congrArg Books.protection (hbooks₁ 0)).trans (congrArg Books.protection hfigures)
  rw [books, books, hbooks₃, hbooks₂, hbooks₁, hfigures]
  refine .redeem (books terms c) units amount remaining target hpaid.state hpaid.exit hpaid.escrow
    hpaid.funds ?_ ?_ ?_
  · change c.vault.redeemedFace + c.vault.cvaReleasedFace + amount + remaining = terms.faceValue
    omega
  · intro hactive
    change requiredBond terms (c.vault.totalSupply - units) = .ok target
    rw [← hsupply]
    exact htarget (hprotection.trans hactive)
  · intro hactive
    have hlocked : s₁.bondLocked = c.vault.bondLocked :=
      (congrArg Books.bondLocked (hbooks₁ 0)).trans (congrArg Books.bondLocked hfigures)
    exact (hkept fun h => hactive (hprotection.symm.trans h)).trans hlocked

/-! ## Closing and default -/

theorem closeProtectionBody_refines
    (h : closeProtectionBody env terms c msg = .ok c') : Refines terms c c' := by
  simp only [closeProtectionBody, bind_ok_iff, revertIf_ok_iff, not_not, pure_ok_iff] at h
  obtain ⟨-, -, -, hstate, -, -, s, hreturn, rfl⟩ := h
  rw [returnAllLockedBond_ok terms hreturn]
  exact ⟨⟨hunits.total, hunits.fits⟩, .other rfl, .close (books terms c) hstate⟩

theorem markDefaultBody_refines
    (h : markDefaultBody env terms c msg = .ok c') : Refines terms c c' := by
  simp only [markDefaultBody, bind_ok_iff, revertIf_ok_iff, not_not, pure_ok_iff] at h
  obtain ⟨-, -, -, hstate, -, hreceivable, -, -, rfl⟩ := h
  exact ⟨⟨hunits.total, hunits.fits⟩, .other rfl, .markDefault (books terms c) hstate hreceivable⟩

theorem defaultCvaReleased_ok (h : defaultCvaReleased env terms c msg units = .ok c') :
    ∃ amount, ReleasedEffect terms c units amount c' := by
  simp only [defaultCvaReleased, bind_ok_iff, revertIf_ok_iff, not_or, not_lt, not_not,
    checkedSub_ok_iff, checkedAdd_ok_iff] at h
  obtain ⟨-, hstate, -, ⟨hpos, hheld, hcustody⟩, -, -, _, -, -, -, amount, hamount, c₁, hexit, _,
    ⟨-, rfl⟩, _, ⟨-, rfl⟩, hburn⟩ := h
  obtain ⟨world, rfl⟩ := custodyExit_ok hexit
  obtain ⟨-, hsupply, hunits₂, rfl⟩ := burn_ok hburn ⟨hunits.total, hunits.fits⟩
  have htotal := le_sum c.vault.balanceOf msg.sender
  rw [hunits.total] at htotal
  exact ⟨amount,
    { state := hstate
      exit := ⟨Nat.pos_of_ne_zero hpos, hheld.trans htotal, hcustody, faceAmount_share hamount⟩
      consistent := hunits₂
      moves := (UnitMoves.move _ _ _ _ hunits₂).after rfl
      figures := by
        rw [books, booksOf_updated, Nat.eq_sub_of_add_eq hsupply]
        rfl }⟩

theorem releaseDefaultCvaBody_refines
    (h : releaseDefaultCvaBody env terms c msg units = .ok c') : Refines terms c c' := by
  simp only [releaseDefaultCvaBody, bind_ok_iff, pure_ok_iff] at h
  obtain ⟨c₁, hreleased, s₁, hrefund, rfl⟩ := h
  obtain ⟨amount, hreleased⟩ := defaultCvaReleased_ok hunits hreleased
  obtain ⟨remaining, hremaining, hview₁, hbooks₁⟩ := refund_books hrefund
  obtain ⟨hview₂, hbooks₂⟩ := retireReceivable_books s₁
  have hview := hview₂.trans hview₁
  refine ⟨hreleased.consistent.congr hview, hreleased.moves.trans (.other hview), ?_⟩
  have hfigures : booksOf c₁.vault (c₁.token.balanceOf terms.vault) =
      (books terms c).handOver units amount := hreleased.figures
  have hface : c₁.vault.redeemedFace + c₁.vault.cvaReleasedFace =
      c.vault.redeemedFace + (c.vault.cvaReleasedFace + amount) :=
    congrArg₂ (· + ·) (congrArg Books.redeemedFace hfigures) (congrArg Books.releasedFace hfigures)
  rw [books, books, hbooks₂, hbooks₁, hfigures]
  refine .handOver (books terms c) units amount remaining hreleased.state hreleased.exit ?_
  change c.vault.redeemedFace + c.vault.cvaReleasedFace + amount + remaining = terms.faceValue
  omega

/-! ## The ERC-20 surface -/

theorem transferFrom_refines {target : Address}
    (h : transferFrom env terms c msg source target value = .ok c') : Refines terms c c' := by
  obtain ⟨s, hspend, htransfer⟩ := bind_ok_iff.mp h
  obtain ⟨allowance, rfl⟩ := spendAllowance_ok hspend
  have hrefines := transferUnits_refines htransfer ⟨hunits.total, hunits.fits⟩
  exact ⟨hrefines.units, hrefines.moves.after rfl, hrefines.step⟩

theorem approve_refines (h : approve c msg spender value = .ok c') : Refines terms c c' := by
  simp only [approve, bind_ok_iff, pure_ok_iff] at h
  obtain ⟨s, happrove, rfl⟩ := h
  obtain ⟨allowance, rfl⟩ := approveUnits_ok happrove
  exact ⟨⟨hunits.total, hunits.fits⟩, .other rfl, .idle _⟩

/-! ## Every call and every event -/

/-- **Refinement.** A committed call body is one step of the books. -/
theorem Call.body_refines {call : Call}
    (h : call.body crypto env terms c msg = .ok c') : Refines terms c c' := by
  cases call with
  | activate => exact activateBody_refines hunits h
  | authorizeOriginatorWallet => exact authorizeOriginatorWallet_refines hunits h
  | commitConflict => exact commitConflict_refines hunits h
  | revealConflict => exact revealConflict_refines hunits h
  | expireCommit => exact expireCommitBody_refines hunits h
  | cureConflict => exact cureConflictBody_refines hunits h
  | finalizeConflict => exact finalizeConflictBody_refines hunits h
  | claimBond =>
      obtain ⟨⟨amount, _⟩, hbody, rfl⟩ := map_ok_iff.mp h
      exact claimBondBody_refines hunits hbody
  | fundRedemption => exact fundRedemptionBody_refines hunits h
  | claimSettlementCredit =>
      obtain ⟨⟨amount, _⟩, hbody, rfl⟩ := map_ok_iff.mp h
      exact claimSettlementCreditBody_refines hunits hbody
  | redeem =>
      obtain ⟨⟨amount, _⟩, hbody, rfl⟩ := map_ok_iff.mp h
      exact redeemBody_refines hunits hbody
  | closeProtection => exact closeProtectionBody_refines hunits h
  | markDefault => exact markDefaultBody_refines hunits h
  | releaseDefaultCva => exact releaseDefaultCvaBody_refines hunits h
  | transfer => exact transferUnits_refines h hunits
  | transferFrom => exact transferFrom_refines hunits h
  | approve => exact approve_refines hunits h

/-- Every event but a donation is one step of the books. -/
theorem exec_refines {event : Event W}
    (hkind : ¬ event.IsDonation) (h : exec crypto env terms c event = .ok c') :
    Refines terms c c' := by
  cases event with
  | call msg call => exact Call.body_refines hunits (Call.perform_ok h)
  | donate source amount => exact absurd trivial hkind
  | outside token world =>
      simp only [exec, bind_ok_iff, revertIf_ok_iff, not_not, pure_ok_iff] at h
      obtain ⟨-, hbalance, rfl⟩ := h
      refine ⟨hunits, .other rfl, ?_⟩
      rw [books, books, hbalance]
      exact .idle _

/-- An event is a step of the books or leaves the vault alone. -/
theorem exec_cases {event : Event W}
    (h : exec crypto env terms c event = .ok c') : Refines terms c c' ∨ c'.vault = c.vault := by
  by_cases hkind : event.IsDonation
  · cases event with
    | donate source amount => exact .inr (exec_donate h).1
    | call => exact hkind.elim
    | outside => exact hkind.elim
  · exact .inl (exec_refines hunits hkind h)

theorem exec_consistent {event : Event W}
    (h : exec crypto env terms c event = .ok c') : UnitsConsistent c'.vault := by
  rcases exec_cases hunits h with hrefines | hvault
  · exact hrefines.units
  · rwa [hvault]

end

/-! ## Whole runs -/

/-- `events` lead from a construction with these terms, over the ledger
`token`, to the chain `c`. -/
def Reaches (crypto : Crypto) (env : Externals W) (terms : Terms) (token : Settlement)
    (events : List (Event W)) (c : Chain W) : Prop :=
  ∃ world chainId now init s,
    construct env world terms.vault chainId now init = .ok (terms, s) ∧
      run (exec crypto env terms) (deployed s token world) events = .ok c

/-- The books of a fresh vault. -/
def Books.opening (balance : ℕ) : Books := booksOf (VaultState.initial 0) balance

theorem construct_initial {world : W} {self : Address} {chainId now : ℕ} {init : Init}
    (h : construct env world self chainId now init = .ok (terms, s)) :
    s = VaultState.initial init.initialOriginatorSigner :=
  (construct_ok h).1

theorem Reaches.timed {token : Settlement} {events : List (Event W)}
    (hreach : Reaches crypto env terms token events c) : terms.Timed := by
  obtain ⟨world, chainId, now, init, s, hconstruct, -⟩ := hreach
  exact (construct_ok hconstruct).2

theorem unitsConsistent_initial (signer : Address) : UnitsConsistent (VaultState.initial signer) :=
  ⟨Finset.sum_const_zero, Nat.two_pow_pos 256⟩

/-- **Invariant rule of the books.** What holds of the opening books and is kept
by every step holds in every reachable chain. A donation has to be considered
only when the run has one. -/
theorem Reaches.books_invariant {P : Books → Prop} {token : Settlement} {events : List (Event W)}
    (hreach : Reaches crypto env terms token events c)
    (hopen : P (Books.opening (token.balanceOf terms.vault)))
    (hstep : ∀ b b', P b → Books.Step terms b b' → P b')
    (hdonate : ∀ event ∈ events, event.IsDonation →
      ∀ b amount, P b → P { b with balance := b.balance + amount }) :
    UnitsConsistent c.vault ∧ P (books terms c) := by
  obtain ⟨world, chainId, now, init, s, hconstruct, hrun⟩ := hreach
  refine run_invariant (P := fun c : Chain W => UnitsConsistent c.vault ∧ P (books terms c))
    ?_ hrun hdonate ?_
  · rintro c₁ event c₂ hadmitted ⟨hunits, hP⟩ hexec
    by_cases hkind : event.IsDonation
    · cases event with
      | donate source amount =>
          obtain ⟨hvault, hbooks⟩ := exec_donate hexec
          rw [hvault, hbooks]
          exact ⟨hunits, hadmitted trivial _ _ hP⟩
      | call => exact hkind.elim
      | outside => exact hkind.elim
    · have hrefines := exec_refines hunits hkind hexec
      exact ⟨hrefines.units, hstep _ _ hP hrefines.step⟩
  · rw [construct_initial hconstruct]
    exact ⟨unitsConsistent_initial _, hopen⟩

end

/-! ## A sample deployment

Ten units of an invoice with face value 121, advanced at 100 against a bond of
10: activation, a partial funding, a transfer, a partial redemption, a committed
conflict and a claimed credit. -/

namespace Sample

/-- Custody as two counters: units available to the vault, units issued. -/
abbrev Custody := ℕ × ℕ

def env : Externals Custody where
  isFacility _ account := account == 0x20 || account == 0x21
  hasValidIdentity _ _ := true
  isEligible _ _ _ := true
  isEligibleForAsset _ _ _ _ _ _ := true
  isAssetTransferAllowed _ _ _ _ _ := true
  asset _ := 0x14
  issuedSupply custody := some custody.2
  availableBalance custody _ := some custody.1
  isActivationReady _ _ := true
  isCashRedemptionReady _ _ := true
  isRedemptionReady _ _ _ := true
  consumeOnRedemption custody _ units := some (custody.1 - units, custody.2 - units)
  releaseOnDefault custody _ _ units := some (custody.1 - units, custody.2)
  settlementAccepts _ _ _ _ := true

/-- Any digest does, and every signature is the originator's. -/
def crypto : Crypto where
  keccak256 bytes := BitVec.ofNat 256 (bytes.length + 1)
  ecrecover _ _ _ _ := 0x17

def init : Init where
  factory := 0x11
  cviVerifier := 0x12
  cvaAdapter := 0x13
  settlementToken := 0x18
  invoiceRoot := 1
  currency := 2
  buyer := 0x15
  originatorTreasury := 0x16
  initialOriginatorSigner := 0x17
  initialUnits := 10
  advanceAmount := 100
  faceValue := 121
  bondBps := 1000
  protectionEnd := 50
  revealPeriod := 5
  curePeriod := 5

def terms : Terms where
  vault := 0x10
  chainId := 1
  factory := 0x11
  cviVerifier := 0x12
  cvaAdapter := 0x13
  settlementToken := 0x18
  cvaToken := 0x14
  invoiceRoot := 1
  currency := 2
  buyer := 0x15
  originatorTreasury := 0x16
  initialUnits := 10
  advanceAmount := 100
  faceValue := 121
  initialBond := 10
  netProceeds := 90
  bondBps := 1000
  protectionEnd := 50
  revealPeriod := 5
  curePeriod := 5
  units_pos := by decide
  units_lt := by decide
  units_le_face := by decide
  face_lt := by decide
  advance_lt := by decide
  bond_pos := by decide
  bond_lt := by decide
  net_eq := rfl

theorem balance_lt (account : Address) : (if account = 0x10 then 0 else 1000) < 2 ^ 256 := by
  split <;> decide

/-- Everybody but the vault starts with a thousand. -/
def token : Settlement where
  balanceOf account := if account = 0x10 then 0 else 1000
  fits := balance_lt

def pledge : Pledge where
  invoiceRoot := 1
  originatorSigner := 0x17
  facility := 0x20
  obligationId := 9
  amount := 121
  currency := 2
  activeFrom := 0
  activeUntil := 60
  nonce := 1
  deadline := 60
  exclusive := true

def events : List (Event Custody) :=
  [.call ⟨0x20, 5, 1⟩ (.activate pledge (List.replicate 65 0) 0x30 [0x30, 0x31] [4, 6]),
    .call ⟨0x15, 6, 2⟩ (.fundRedemption 50),
    .call ⟨0x30, 7, 3⟩ (.transfer 0x31 1),
    .call ⟨0x31, 8, 4⟩ (.redeem 3),
    .call ⟨0x21, 9, 5⟩ (.commitConflict 77),
    .call ⟨0x16, 10, 6⟩ .claimSettlementCredit]

theorem reaches : ∃ c, Reaches crypto env terms token events c := by
  have hconstruct : construct env (10, 10) terms.vault 1 3 init =
      .ok (terms, VaultState.initial 0x17) := rfl
  have hcommits : (run (exec crypto env terms)
      (deployed (VaultState.initial 0x17) token (10, 10)) events).toBool = true := by
    decide +kernel
  obtain ⟨c, hrun⟩ := toBool_eq_true_iff.mp hcommits
  exact ⟨c, (10, 10), 1, 3, init, _, hconstruct, hrun⟩

theorem activates : ∃ event ∈ events, event.IsActivation :=
  ⟨_, List.mem_cons_self, trivial⟩

end Sample

end Mordant.Vault
