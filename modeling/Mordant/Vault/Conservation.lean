/-
# Settlement conservation

The vault's settlement-token balance is the locked bond, the unclaimed
entitlement, the redemption escrow and the settlement credits, to the unit.  The
books argument has two independent halves.  `Balanced` is the equation itself:
every posting moves value between its terms or across the vault's boundary.
With donations the balance runs ahead by what was given, and `Backed` is the
equation with that excess named.
`ClaimsOrdered` keeps bond claims below the allocation: each claim but the last
is rounded down, so claims never run ahead of the units they were made for.
-/

import Mordant.Vault.Refinement

namespace Mordant.Vault

open Evm Foundation

namespace Books

variable {terms : Terms} {b b' : Books} {extra : ℕ}

/-- Assets equal liabilities, and the credit total is the sum of the credits.
Claimed entitlement stands on the asset side, so that no term is subtracted. -/
structure Balanced (b : Books) : Prop where
  equation : b.balance + b.claimed = b.bondLocked + b.allocated + b.escrow + b.creditTotal
  credits : b.creditTotal = ∑ account, b.credit account

/-- The vault holds `extra` beyond its liabilities: what it was deployed with and
what was donated since. -/
structure Backed (extra : ℕ) (b : Books) : Prop where
  equation : b.balance + b.claimed =
    extra + (b.bondLocked + b.allocated + b.escrow + b.creditTotal)
  credits : b.creditTotal = ∑ account, b.credit account

theorem balanced_iff_backed : b.Balanced ↔ b.Backed 0 := by
  constructor
  · intro h
    exact ⟨by rw [h.equation, Nat.zero_add], h.credits⟩
  · intro h
    exact ⟨by rw [h.equation, Nat.zero_add], h.credits⟩

/-- Bond claims stay behind the units they were made for. Outside `Entitled`
nothing has been allocated, and before activation nothing is locked. -/
structure ClaimsOrdered (b : Books) : Prop where
  behind : b.claimed * b.claimSupply ≤ b.allocated * b.claimedUnits
  units : b.claimedUnits ≤ b.claimSupply
  amount : b.claimed ≤ b.allocated
  fresh : b.protection ≠ .entitled → b.claimed = 0 ∧ b.claimedUnits = 0
  unfunded : b.protection = .unfunded → b.bondLocked = 0

theorem sum_owe (b : Books) (account : Address) (amount : ℕ) :
    ∑ a, (b.owe account amount).credit a = (∑ a, b.credit a) + amount := by
  have hsum := sum_update_add b.credit account (b.credit account + amount)
  simp only [owe]
  omega

theorem Backed.trimBond (terms : Terms) (h : b.Backed extra) (target : ℕ) :
    (b.trimBond terms target).Backed extra := by
  have hequation := h.equation
  constructor
  · simp only [Books.trimBond, owe]
    omega
  · change b.creditTotal + _ = ∑ a, (b.owe _ _).credit a
    rw [sum_owe, h.credits]

theorem Backed.trimEscrow (terms : Terms) (h : b.Backed extra) (remaining : ℕ) :
    (b.trimEscrow terms remaining).Backed extra := by
  have hequation := h.equation
  constructor
  · simp only [Books.trimEscrow, owe]
    omega
  · change b.creditTotal + _ = ∑ a, (b.owe _ _).credit a
    rw [sum_owe, h.credits]

theorem Backed.follow (terms : Terms) (h : b.Backed extra) (target : ℕ) :
    (b.follow terms target).Backed extra :=
  ⟨(h.trimBond terms target).equation, (h.trimBond terms target).credits⟩

/-- Cash leaves the escrow and the vault together. -/
theorem Backed.pay (h : b.Backed extra) (units : ℕ) {amount : ℕ} (hescrow : amount ≤ b.escrow)
    (hfunds : amount ≤ b.balance) : (b.pay units amount).Backed extra := by
  have hequation := h.equation
  constructor
  · simp only [Books.pay]
    omega
  · exact h.credits

/-- Every step of the books keeps the vault backed to the same extent. -/
theorem Backed.step (h : b.Backed extra) (hclaims : b.ClaimsOrdered) (hstep : Step terms b b') :
    b'.Backed extra := by
  have hequation := h.equation
  cases hstep with
  | idle => exact h
  | activate hstate _ =>
      have hlocked := hclaims.unfunded hstate
      exact ⟨by simp only [activated]; omega, h.credits⟩
  | commit => exact ⟨hequation, h.credits⟩
  | reveal => exact ⟨hequation, h.credits⟩
  | reopen target =>
      have hreopened : b.reopened.Backed extra := ⟨hequation, h.credits⟩
      exact hreopened.trimBond terms target
  | finalize hstate hcovered hfirst => exact ⟨by simp only; omega, h.credits⟩
  | claimBond units amount _ _ _ _ _ hfunds => exact ⟨by simp only; omega, h.credits⟩
  | fund amount => exact ⟨by simp only; omega, h.credits⟩
  | claimCredit account htotal hfunds =>
      have hsum := sum_update_add b.credit account 0
      have hcredits := h.credits
      exact ⟨by simp only; omega, by simp only; omega⟩
  | redeem units amount remaining target _ _ hescrow hfunds =>
      have hfollow := ((h.pay units hescrow hfunds).trimEscrow terms remaining).follow terms target
      exact ⟨hfollow.equation, hfollow.credits⟩
  | close =>
      have htrim := h.trimBond terms 0
      exact ⟨htrim.equation, htrim.credits⟩
  | markDefault => exact ⟨hequation, h.credits⟩
  | handOver units amount remaining =>
      have hgone : (b.handOver units amount).Backed extra := ⟨hequation, h.credits⟩
      have htrim := hgone.trimEscrow terms remaining
      exact ⟨htrim.equation, htrim.credits⟩

/-- Every step of the books keeps assets equal to liabilities. -/
theorem Balanced.step (h : b.Balanced) (hclaims : b.ClaimsOrdered) (hstep : Step terms b b') :
    b'.Balanced :=
  balanced_iff_backed.mpr ((balanced_iff_backed.mp h).step hclaims hstep)

/-- One more claim keeps claims behind their units: the part claimed is rounded
down, and only the last claim takes the remainder. -/
theorem claim_behind {claimed allocated units claimedUnits supply amount : ℕ}
    (hbehind : claimed * supply ≤ allocated * claimedUnits)
    (hlast : claimedUnits + units = supply → claimed + amount = allocated)
    (hpart : claimedUnits + units ≠ supply → amount = floorShare allocated units supply) :
    (claimed + amount) * supply ≤ allocated * (claimedUnits + units) := by
  by_cases hall : claimedUnits + units = supply
  · rw [hlast hall, hall]
  · rw [hpart hall, Nat.add_mul, Nat.mul_add]
    exact Nat.add_le_add hbehind (Nat.div_mul_le_self _ _)

/-- Claims behind their units never exceed the allocation. -/
theorem claim_le {claimed allocated claimedUnits supply : ℕ} (hpos : 0 < supply)
    (hbehind : claimed * supply ≤ allocated * claimedUnits) (hunits : claimedUnits ≤ supply) :
    claimed ≤ allocated :=
  Nat.le_of_mul_le_mul_right (hbehind.trans (Nat.mul_le_mul_left _ hunits)) hpos

/-- Steps that leave the claim figures alone. -/
theorem ClaimsOrdered.frame (h : b.ClaimsOrdered) (hclaimed : b'.claimed = b.claimed)
    (hunits : b'.claimedUnits = b.claimedUnits) (hallocated : b'.allocated = b.allocated)
    (hsupply : b'.claimSupply = b.claimSupply)
    (hfresh : b'.protection ≠ .entitled → b.protection ≠ .entitled)
    (hunfunded : b'.protection = .unfunded → b'.bondLocked = 0) : b'.ClaimsOrdered where
  behind := by rw [hclaimed, hsupply, hallocated, hunits]; exact h.behind
  units := by rw [hunits, hsupply]; exact h.units
  amount := by rw [hclaimed, hallocated]; exact h.amount
  fresh hne := by rw [hclaimed, hunits]; exact h.fresh (hfresh hne)
  unfunded := hunfunded

/-- Every step of the books keeps bond claims in order. -/
theorem ClaimsOrdered.step (h : b.ClaimsOrdered) (hstep : Step terms b b') : b'.ClaimsOrdered := by
  cases hstep with
  | idle => exact h
  | activate hstate _ =>
      exact h.frame rfl rfl rfl rfl (fun _ => by rw [hstate]; decide) (fun hne => nomatch hne)
  | commit exposed hstate =>
      exact h.frame rfl rfl rfl rfl (fun _ => by rw [hstate]; decide) (fun hne => nomatch hne)
  | reveal hstate =>
      exact h.frame rfl rfl rfl rfl (fun _ => by rw [hstate]; decide) (fun hne => nomatch hne)
  | reopen target hstate =>
      refine h.frame rfl rfl rfl rfl (fun _ => ?_) (fun hne => nomatch hne)
      rcases hstate with hstate | hstate <;> rw [hstate] <;> decide
  | finalize hstate hcovered hfirst =>
      obtain ⟨hclaimed, hunits⟩ := h.fresh (by rw [hstate]; decide)
      exact
        { behind := by simp only [hclaimed, hunits]; omega
          units := by simp only [hunits]; omega
          amount := by simp only [hclaimed]; omega
          fresh := fun hne => absurd rfl hne
          unfunded := fun hne => nomatch hne }
  | claimBond units amount hstate hpos hheld hlast hpart =>
      have hbehind := claim_behind h.behind hlast hpart
      exact
        { behind := hbehind
          units := hheld
          amount := claim_le (by omega) hbehind hheld
          fresh := fun hne => absurd hstate hne
          unfunded := h.unfunded }
  | fund => exact h.frame rfl rfl rfl rfl id h.unfunded
  | claimCredit => exact h.frame rfl rfl rfl rfl id h.unfunded
  | redeem units amount remaining target _ _ _ _ _ _ hkept =>
      refine h.frame rfl rfl rfl rfl (fun hne hentitled => hne ?_) (fun hunfunded => ?_)
      · rw [redeem_protection, if_neg (by simp [hentitled]), hentitled]
      · rw [redeem_protection] at hunfunded
        have hlocked : b.bondLocked = 0 := by
          split at hunfunded
          · exact nomatch hunfunded
          · exact h.unfunded hunfunded
        change min b.bondLocked target = 0
        omega
  | close hstate =>
      exact h.frame rfl rfl rfl rfl (fun _ => by rw [hstate]; decide) (fun hne => nomatch hne)
  | markDefault => exact h.frame rfl rfl rfl rfl id h.unfunded
  | handOver => exact h.frame rfl rfl rfl rfl id h.unfunded

end Books

section

variable {W : Type} {crypto : Crypto} {env : Externals W} {terms : Terms} {token : Settlement}
variable {events : List (Event W)} {c : Chain W}

/-- The vault holds exactly what it accounts for. -/
structure SettlementConserved (terms : Terms) (c : Chain W) : Prop where
  claims : c.vault.entitlementClaimed ≤ c.vault.entitlementAllocated
  balance : c.token.balanceOf terms.vault =
    c.vault.bondLocked + (c.vault.entitlementAllocated - c.vault.entitlementClaimed) +
      c.vault.redemptionEscrow + c.vault.settlementCreditTotal
  credits : c.vault.settlementCreditTotal = ∑ account, c.vault.settlementCredit account

theorem settlementConserved_of_books (hbalanced : (books terms c).Balanced)
    (hclaims : (books terms c).ClaimsOrdered) : SettlementConserved terms c where
  claims := hclaims.amount
  balance := by
    have hequation := hbalanced.equation
    have hamount := hclaims.amount
    simp only [books, booksOf] at hequation hamount
    omega
  credits := hbalanced.credits

/-- A conserved balance is what `accountedSettlementBalance` computes: nothing
underflows, and since the sum is a token balance nothing overflows. -/
theorem SettlementConserved.accounted (h : SettlementConserved terms c) :
    accountedSettlementBalance c.vault = .ok (c.token.balanceOf terms.vault) := by
  have hclaims := h.claims
  have hbalance := h.balance
  have hfits := c.token.fits terms.vault
  simp only [accountedSettlementBalance, bind_ok_iff, checkedSub_ok_iff, checkedAdd_ok_iff]
  exact ⟨_, ⟨hclaims, rfl⟩, _, ⟨by omega, rfl⟩, _, ⟨by omega, rfl⟩, by omega, hbalance.symm⟩

theorem SettlementConserved.funded (h : SettlementConserved terms c) :
    assertSettlementFunded terms c = .ok () := by
  simp only [assertSettlementFunded, bind_ok_iff, revertIf_ok_iff]
  exact ⟨_, h.accounted, lt_irrefl _⟩

theorem Books.ClaimsOrdered.opening (balance : ℕ) : (Books.opening balance).ClaimsOrdered :=
  ⟨Nat.le_refl 0, Nat.le_refl 0, Nat.le_refl 0, fun _ => ⟨rfl, rfl⟩, fun _ => rfl⟩

/-- Bond claims are in order in every reachable chain, donations or not. -/
theorem Reaches.claimsOrdered (hreach : Reaches crypto env terms token events c) :
    (books terms c).ClaimsOrdered :=
  (hreach.books_invariant (P := Books.ClaimsOrdered) (Books.ClaimsOrdered.opening _)
    (fun _ _ hclaims hstep => hclaims.step hstep)
    (fun _ _ _ _ _ hclaims => ⟨hclaims.behind, hclaims.units, hclaims.amount, hclaims.fresh,
      hclaims.unfunded⟩)).2

/-- Every reachable chain is backed, by whatever was given to it on top. -/
theorem Reaches.backed (hreach : Reaches crypto env terms token events c) :
    ∃ extra, (books terms c).Backed extra := by
  have hboth := hreach.books_invariant
    (P := fun b => (∃ extra, b.Backed extra) ∧ b.ClaimsOrdered) ⟨⟨token.balanceOf terms.vault,
      rfl, Finset.sum_const_zero.symm⟩, Books.ClaimsOrdered.opening _⟩ ?_ ?_
  · exact hboth.2.1
  · rintro b b' ⟨⟨extra, hbacked⟩, hclaims⟩ hstep
    exact ⟨⟨extra, hbacked.step hclaims hstep⟩, hclaims.step hstep⟩
  · rintro event - - b amount ⟨⟨extra, hbacked⟩, hclaims⟩
    have hequation := hbacked.equation
    exact ⟨⟨extra + amount, by simp only; omega, hbacked.credits⟩, hclaims.behind, hclaims.units,
      hclaims.amount, hclaims.fresh, hclaims.unfunded⟩

/-- A backed vault passes the settlement clause of the accounting assertion. -/
theorem assertSettlementFunded_of_backed {extra : ℕ} (hbacked : (books terms c).Backed extra)
    (hclaims : (books terms c).ClaimsOrdered) : assertSettlementFunded terms c = .ok () := by
  have hequation := hbacked.equation
  have hamount := hclaims.amount
  have hfits := c.token.fits terms.vault
  simp only [books, booksOf] at hequation hamount
  simp only [assertSettlementFunded, accountedSettlementBalance, bind_ok_iff, checkedSub_ok_iff,
    checkedAdd_ok_iff, revertIf_ok_iff]
  exact ⟨_, ⟨_, ⟨hamount, rfl⟩, _, ⟨by omega, rfl⟩, _, ⟨by omega, rfl⟩, by omega, rfl⟩, by omega⟩

/-- The two halves of the argument hold of every run without donations. -/
theorem Reaches.balanced (hreach : Reaches crypto env terms token events c)
    (hempty : token.balanceOf terms.vault = 0)
    (hdonations : ∀ event ∈ events, ¬ event.IsDonation) :
    UnitsConsistent c.vault ∧ (books terms c).Balanced ∧ (books terms c).ClaimsOrdered := by
  refine hreach.books_invariant (P := fun b => b.Balanced ∧ b.ClaimsOrdered) ⟨?_, ?_⟩ ?_ ?_
  · refine ⟨?_, Finset.sum_const_zero.symm⟩
    rw [hempty]
    rfl
  · exact Books.ClaimsOrdered.opening _
  · rintro b b' ⟨hbalanced, hclaims⟩ hstep
    exact ⟨hbalanced.step hclaims hstep, hclaims.step hstep⟩
  · intro event hevent hdonation
    exact absurd hdonation (hdonations event hevent)

/-- **Settlement conservation.** After every run without donations the vault's
balance is exactly its four liabilities, `accountedSettlementBalance` returns
it, and the settlement clause of the accounting assertion passes: in the state
reached, and in the state any further call is about to assert. -/
theorem settlement_conserved (hreach : Reaches crypto env terms token events c)
    (hempty : token.balanceOf terms.vault = 0)
    (hdonations : ∀ event ∈ events, ¬ event.IsDonation) :
    SettlementConserved terms c ∧
      accountedSettlementBalance c.vault = .ok (c.token.balanceOf terms.vault) ∧
      assertSettlementFunded terms c = .ok () ∧
      ∀ msg (call : Call) c', call.body crypto env terms c msg = .ok c' →
        assertSettlementFunded terms c' = .ok () := by
  obtain ⟨hunits, hbalanced, hclaims⟩ := hreach.balanced hempty hdonations
  have hconserved := settlementConserved_of_books hbalanced hclaims
  refine ⟨hconserved, hconserved.accounted, hconserved.funded, ?_⟩
  intro msg call c' hbody
  have hstep := (Call.body_refines hunits hbody).step
  exact (settlementConserved_of_books (hbalanced.step hclaims hstep) (hclaims.step hstep)).funded

/-- The sample run. -/
theorem settlement_conserved_sample :
    ∃ c, Reaches Sample.crypto Sample.env Sample.terms Sample.token Sample.events c ∧
      SettlementConserved Sample.terms c ∧ assertSettlementFunded Sample.terms c = .ok () := by
  obtain ⟨c, hreach⟩ := Sample.reaches
  have hconserved := settlement_conserved hreach (by decide) (by decide)
  exact ⟨c, hreach, hconserved.1, hconserved.2.2.1⟩

end

end Mordant.Vault
