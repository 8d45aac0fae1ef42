/-
# The bond over the protection lifecycle

While the reserve is active the locked bond is exactly what the present supply
requires.  A pending conflict freezes it at what the supply required when the
conflict was committed, and redemptions keep shrinking the supply underneath;
dropping the conflict trims the bond back, confirming it turns the whole of it
into entitlement.  `BondOrdered` says this state by state.
-/

import Mordant.Vault.Refinement

namespace Mordant.Vault

open Evm Foundation

namespace Books

variable {terms : Terms} {b b' : Books}

/-- The bond a supply requires. -/
def bondFor (terms : Terms) (supply : ℕ) : ℕ :=
  ceilShare terms.initialBond supply terms.initialUnits

/-- What the books say about the bond in each protection state. A receivable in
default excludes a live reserve, because a default exit does not trim the
bond. -/
def BondAt (terms : Terms) (b : Books) : ProtectionState → Prop
  | .unfunded =>
      b.supply = 0 ∧ b.bondReturned = 0 ∧ b.allocated = 0 ∧ b.receivable = .unissued
  | .active =>
      b.bondLocked = bondFor terms b.supply ∧
        b.bondLocked + b.bondReturned = terms.initialBond ∧ b.allocated = 0 ∧
        b.receivable ≠ .defaultOutstanding
  | .commitPending | .conflictConfirmed =>
      (b.bondLocked = b.pendingBond ∧ b.pendingBond = bondFor terms b.pendingSupply ∧
        b.supply ≤ b.pendingSupply ∧ b.pendingSupply ≤ terms.initialUnits) ∧
        b.bondLocked + b.bondReturned = terms.initialBond ∧ b.allocated = 0 ∧
        b.receivable ≠ .defaultOutstanding
  | .entitled => b.bondLocked = 0 ∧ b.bondReturned + b.allocated = terms.initialBond
  | .released => b.bondLocked = 0 ∧ b.bondReturned = terms.initialBond ∧ b.allocated = 0

/-- The supply is in range and the bond is what its protection state says. -/
structure BondOrdered (terms : Terms) (b : Books) : Prop where
  supply : b.supply ≤ terms.initialUnits
  bond : BondAt terms b b.protection

theorem bondFor_mono (terms : Terms) {j k : ℕ} (h : j ≤ k) : bondFor terms j ≤ bondFor terms k :=
  ceilShare_mono terms.units_pos h

/-- The bond a supply in range requires is what the code computes. -/
theorem eq_bondFor {supply target : ℕ} (hsupply : supply ≤ terms.initialUnits)
    (htarget : requiredBond terms supply = .ok target) : target = bondFor terms supply := by
  rw [requiredBond_eq terms hsupply] at htarget
  exact (Except.ok.inj htarget).symm

theorem BondOrdered.opening (terms : Terms) (balance : ℕ) :
    (Books.opening balance).BondOrdered terms :=
  ⟨Nat.zero_le _, rfl, rfl, rfl, rfl⟩

theorem BondOrdered.inState (h : b.BondOrdered terms) {state : ProtectionState}
    (hstate : b.protection = state) : BondAt terms b state :=
  hstate ▸ h.bond

/-- Activation: the whole supply is out and the whole bond is locked. -/
theorem BondOrdered.activate (h : b.BondOrdered terms) (hstate : b.protection = .unfunded) :
    (b.activated terms).BondOrdered terms := by
  obtain ⟨hsupply, hreturned, hallocated, -⟩ := h.inState hstate
  have hissued : b.supply + terms.initialUnits = terms.initialUnits := by omega
  have hall : bondFor terms terms.initialUnits = terms.initialBond :=
    ceilShare_all terms.units_pos
  refine ⟨hissued.le, ?_, ?_, hallocated, fun hdefault => nomatch hdefault⟩
  · simp only [activated, hissued, hall]
  · simp only [activated, hreturned, Nat.add_zero]

/-- A dropped conflict trims the frozen bond to what the present supply
requires, which is no more. -/
theorem BondOrdered.reopen (h : b.BondOrdered terms) {target : ℕ}
    (hstate : b.protection = .commitPending ∨ b.protection = .conflictConfirmed)
    (htarget : requiredBond terms b.supply = .ok target) :
    (b.reopened.trimBond terms target).BondOrdered terms := by
  have hpending : BondAt terms b .commitPending := by
    rcases hstate with hstate | hstate
    · exact h.inState hstate
    · have hconfirmed := h.inState hstate
      exact hconfirmed
  obtain ⟨⟨hlocked, hfrozen, hshrunk, -⟩, htotal, hallocated, hreceivable⟩ := hpending
  have heq := eq_bondFor h.supply htarget
  have hmono := bondFor_mono terms hshrunk
  refine ⟨h.supply, ?_, ?_, hallocated, hreceivable⟩
  · simp only [trimBond, reopened, owe]
    omega
  · simp only [trimBond, reopened, owe]
    omega

/-- An active bond follows a redemption down, to its release with the last
unit. -/
theorem BondOrdered.redeem_active (h : b.BondOrdered terms) {units amount remaining target : ℕ}
    (hactive : b.protection = .active)
    (htarget : requiredBond terms (b.supply - units) = .ok target) :
    ((((b.pay units amount).trimEscrow terms remaining).follow terms target).retire).BondOrdered
      terms := by
  obtain ⟨hlocked, htotal, hallocated, hreceivable⟩ := h.inState hactive
  have hsupply : b.supply - units ≤ terms.initialUnits := (Nat.sub_le _ _).trans h.supply
  have heq := eq_bondFor hsupply htarget
  have hmono := bondFor_mono terms (Nat.sub_le b.supply units)
  refine ⟨hsupply, ?_⟩
  rw [redeem_protection]
  by_cases hempty : b.supply - units = 0
  · rw [if_pos ⟨hactive, hempty⟩]
    have hnothing : target = 0 := by rw [heq, hempty]; exact ceilShare_zero
    refine ⟨?_, ?_, hallocated⟩
    · simp only [retire, follow, trimBond, owe, trimEscrow, pay]
      omega
    · simp only [retire, follow, trimBond, owe, trimEscrow, pay]
      omega
  · rw [if_neg fun hlast => hempty hlast.2, hactive]
    refine ⟨?_, ?_, hallocated, ?_⟩
    · simp only [retire, follow, trimBond, owe, trimEscrow, pay]
      omega
    · simp only [retire, follow, trimBond, owe, trimEscrow, pay]
      omega
    · exact fun hdefault => hreceivable ((if_neg hempty).symm.trans hdefault)

/-- Units leaving without touching the bond keep every state but `Active`. -/
theorem BondOrdered.shrink (h : b.BondOrdered terms) (hactive : b.protection ≠ .active)
    (hissued : b.receivable ≠ .unissued) (hsupply : b'.supply ≤ b.supply)
    (hprotection : b'.protection = b.protection) (hlocked : b'.bondLocked = b.bondLocked)
    (hreturned : b'.bondReturned = b.bondReturned) (hallocated : b'.allocated = b.allocated)
    (hpendingSupply : b'.pendingSupply = b.pendingSupply)
    (hpendingBond : b'.pendingBond = b.pendingBond)
    (hreceivable : b'.receivable = b.receivable ∨ b'.receivable = .redeemed) :
    b'.BondOrdered terms := by
  refine ⟨hsupply.trans h.supply, ?_⟩
  have hnodefault : b.receivable ≠ .defaultOutstanding → b'.receivable ≠ .defaultOutstanding := by
    intro hne
    rcases hreceivable with hsame | hredeemed
    · rwa [hsame]
    · rw [hredeemed]
      decide
  rw [hprotection]
  cases hstate : b.protection with
  | unfunded => exact absurd (h.inState hstate).2.2.2 hissued
  | active => exact absurd hstate hactive
  | commitPending | conflictConfirmed =>
      obtain ⟨⟨hfrozen, hbond, hshrunk, hrange⟩, htotal, hnone, hlive⟩ := h.inState hstate
      refine ⟨⟨?_, ?_, ?_, ?_⟩, ?_, ?_, hnodefault hlive⟩ <;>
        simp only [hlocked, hpendingBond, hpendingSupply, hreturned, hallocated] <;> omega
  | entitled =>
      obtain ⟨hnone, htotal⟩ := h.inState hstate
      exact ⟨by omega, by omega⟩
  | released =>
      obtain ⟨hnone, htotal, hunallocated⟩ := h.inState hstate
      exact ⟨by omega, by omega, by omega⟩

theorem BondOrdered.unallocated (h : b.BondOrdered terms) (hstate : b.protection ≠ .entitled) :
    b.allocated = 0 := by
  cases hat : b.protection with
  | unfunded => exact (h.inState hat).2.2.1
  | active => exact (h.inState hat).2.2.1
  | commitPending | conflictConfirmed => exact (h.inState hat).2.2.1
  | entitled => exact absurd hat hstate
  | released => exact (h.inState hat).2.2

/-- Every step of the books keeps the bond what its state says. -/
theorem BondOrdered.step (h : b.BondOrdered terms) (hstep : Step terms b b') :
    b'.BondOrdered terms := by
  cases hstep with
  | idle => exact h
  | activate hstate _ => exact h.activate hstate
  | commit exposed hstate hpos hexposed _ =>
      obtain ⟨hlocked, htotal, hallocated, hreceivable⟩ := h.inState hstate
      have heq := eq_bondFor h.supply hexposed
      exact ⟨h.supply, ⟨hlocked.trans heq.symm, heq, Nat.le_refl _, h.supply⟩, htotal, hallocated,
        hreceivable⟩
  | reveal hstate =>
      have hpending := h.inState hstate
      exact ⟨h.supply, hpending⟩
  | reopen target hstate htarget => exact h.reopen hstate htarget
  | finalize hstate hcovered _ =>
      obtain ⟨⟨hlocked, -⟩, htotal, hallocated, -⟩ := h.inState hstate
      exact ⟨h.supply, by simp only; omega, by simp only; omega⟩
  | claimBond units amount hstate =>
      have hentitled := h.inState hstate
      exact ⟨h.supply, by simp only [hstate]; exact hentitled⟩
  | fund => exact ⟨h.supply, h.bond⟩
  | claimCredit => exact ⟨h.supply, h.bond⟩
  | redeem units amount remaining target hstate _ _ _ _ htarget hkept =>
      by_cases hactive : b.protection = .active
      · exact h.redeem_active hactive (htarget hactive)
      · have hissued : b.receivable ≠ .unissued := by
          rcases hstate with hstate | hstate <;> rw [hstate] <;> decide
        refine h.shrink hactive hissued (Nat.sub_le _ _) (if_neg fun hlast => hactive hlast.1)
          ?_ ?_ rfl rfl rfl ?_
        · simp only [retire, follow, trimBond, owe, trimEscrow, pay, hkept hactive, min_self]
        · simp only [retire, follow, trimBond, owe, trimEscrow, pay, hkept hactive, Nat.sub_self,
            Nat.add_zero]
        · exact (ite_eq_or_eq _ _ _).symm
  | close hstate =>
      obtain ⟨hlocked, htotal, hallocated, -⟩ := h.inState hstate
      refine ⟨h.supply, ?_, ?_, hallocated⟩
      · exact Nat.min_zero _
      · simp only [trimBond]
        omega
  | markDefault hstate =>
      have hentitled := h.inState hstate
      exact ⟨h.supply, by simp only [hstate]; exact hentitled⟩
  | handOver units amount remaining hstate =>
      have hactive : b.protection ≠ .active := by
        intro hactive
        exact (h.inState hactive).2.2.2 hstate
      refine h.shrink hactive (by rw [hstate]; decide) (Nat.sub_le _ _) rfl rfl rfl rfl rfl rfl ?_
      exact (ite_eq_or_eq _ _ _).symm

/-- The entitlement, once made, is final. -/
theorem Step.entitled (hstep : Step terms b b') (hstate : b.protection = .entitled) :
    b'.protection = .entitled ∧ b'.allocated = b.allocated := by
  cases hstep with
  | idle => exact ⟨hstate, rfl⟩
  | activate hother | commit _ hother | reveal hother | finalize hother | close hother =>
      rw [hstate] at hother
      exact nomatch hother
  | reopen target hother =>
      rcases hother with hother | hother <;> rw [hstate] at hother <;> exact nomatch hother
  | redeem units amount remaining target =>
      refine ⟨?_, rfl⟩
      rw [redeem_protection, if_neg (by rw [hstate]; exact fun hlast => nomatch hlast.1), hstate]
  | claimBond | fund | claimCredit | markDefault | handOver => exact ⟨hstate, rfl⟩

/-- A funded reserve is never unfunded again. -/
theorem Step.funded (hstep : Step terms b b') (hstate : b.protection ≠ .unfunded) :
    b'.protection ≠ .unfunded := by
  cases hstep with
  | activate | commit | reveal | finalize | close | reopen => exact fun hne => nomatch hne
  | redeem units amount remaining target =>
      rw [redeem_protection]
      split
      · decide
      · exact hstate
  | idle | claimBond | fund | claimCredit | markDefault | handOver => exact hstate

end Books

section

variable {W : Type} {crypto : Crypto} {env : Externals W} {terms : Terms} {token : Settlement}
variable {events : List (Event W)} {c c' : Chain W} {msg : Msg}

/-- The bond in each protection state, in the vault's own terms. -/
structure BondLifecycle (terms : Terms) (s : VaultState) : Prop where
  total : s.bondLocked + s.bondReturned + s.entitlementAllocated = terms.initialBond
  active : s.protectionState = .active → requiredBond terms s.totalSupply = .ok s.bondLocked
  pending : s.protectionState = .commitPending ∨ s.protectionState = .conflictConfirmed →
    s.bondLocked = s.pendingConflict.snapshotBond ∧
      requiredBond terms s.pendingConflict.snapshotSupply = .ok s.pendingConflict.snapshotBond ∧
      ∃ required, requiredBond terms s.totalSupply = .ok required ∧
        required ≤ s.pendingConflict.snapshotBond
  spent : s.protectionState = .entitled ∨ s.protectionState = .released → s.bondLocked = 0

theorem bondLifecycle_of_books (hbond : (books terms c).BondOrdered terms)
    (hfunded : c.vault.protectionState ≠ .unfunded) : BondLifecycle terms c.vault where
  total := by
    cases hstate : c.vault.protectionState with
    | unfunded => exact absurd hstate hfunded
    | active =>
        obtain ⟨-, htotal, hallocated, -⟩ := hbond.inState hstate
        simp only [books, booksOf] at htotal hallocated
        omega
    | commitPending | conflictConfirmed =>
        obtain ⟨-, htotal, hallocated, -⟩ := hbond.inState hstate
        simp only [books, booksOf] at htotal hallocated
        omega
    | entitled =>
        obtain ⟨hlocked, htotal⟩ := hbond.inState hstate
        simp only [books, booksOf] at hlocked htotal
        omega
    | released =>
        obtain ⟨hlocked, htotal, hallocated⟩ := hbond.inState hstate
        simp only [books, booksOf] at hlocked htotal hallocated
        omega
  active hstate := by
    obtain ⟨hlocked, -⟩ := hbond.inState hstate
    exact (requiredBond_eq terms hbond.supply).trans (congrArg Except.ok hlocked.symm)
  pending hstate := by
    have hpending : Books.BondAt terms (books terms c) .commitPending := by
      rcases hstate with hstate | hstate
      · exact hbond.inState hstate
      · have hconfirmed := hbond.inState hstate
        exact hconfirmed
    obtain ⟨⟨hlocked, hfrozen, hshrunk, hrange⟩, -⟩ := hpending
    refine ⟨hlocked, ?_, _, requiredBond_eq terms hbond.supply, ?_⟩
    · exact (requiredBond_eq terms hrange).trans (congrArg Except.ok hfrozen.symm)
    · exact (Books.bondFor_mono terms hshrunk).trans hfrozen.symm.le
  spent hstate := by
    rcases hstate with hstate | hstate
    · exact (hbond.inState hstate).1
    · exact (hbond.inState hstate).1

/-- Every reachable chain has its bond in order. -/
theorem Reaches.bondOrdered (hreach : Reaches crypto env terms token events c) :
    UnitsConsistent c.vault ∧ (books terms c).BondOrdered terms :=
  hreach.books_invariant (P := fun b => b.BondOrdered terms) (Books.BondOrdered.opening terms _)
    (fun _ _ hbond hstep => hbond.step hstep) (fun _ _ _ _ _ hbond => ⟨hbond.supply, hbond.bond⟩)

/-- `commitConflict` can raise `AccountingMismatch` only through the custody
check it starts with. -/
theorem commitConflict_mismatch (hbond : (books terms c).BondOrdered terms)
    {commitment : Bytes32}
    (h : commitConflict env terms c msg commitment = .error .accountingMismatch) :
    assertCvaIntegrity env terms c = .error .accountingMismatch := by
  simp only [commitConflict, requireEligible, bind_error_iff, revertIf_error_iff, revertIf_ok_iff,
    checkedAdd_error_iff, ArithmeticFault.panic, pure_ne_error, reduceCtorEq, and_false, false_or,
    exists_false, or_false, and_true, not_not] at h
  rcases h with hintegrity | ⟨-, -, -, hstate, -, -, -, -, -, -, -, -, -, -, hbranch⟩
  · exact hintegrity
  · have hrequired : requiredBond terms c.vault.totalSupply = .ok c.vault.bondLocked :=
      (bondLifecycle_of_books hbond (by rw [hstate]; decide)).active hstate
    rw [hrequired] at hbranch
    rcases hbranch with herror | ⟨exposed, hexposed, hguard⟩
    · cases herror
    · cases hexposed
      exact absurd hguard (lt_irrefl _)

/-- `finalizeConflict` fails only outside its state or before its window: its
accounting guard passes and its subtraction is covered. -/
theorem finalizeConflictBody_error (hbond : (books terms c).BondOrdered terms)
    {error : VaultError} (h : finalizeConflictBody c msg = .error error) :
    error = .invalidState ∨ error = .windowOpen := by
  simp only [finalizeConflictBody, bind_error_iff, revertIf_error_iff, revertIf_ok_iff,
    checkedSub_error_iff, pure_ne_error, and_false, exists_false, or_false, not_not] at h
  rcases h with ⟨-, herror⟩ | ⟨-, hstate, ⟨-, herror⟩ | ⟨-, -, hguard | ⟨-, hpassed, hunder, -⟩⟩⟩
  · exact .inl herror.symm
  · exact .inr herror.symm
  · obtain ⟨⟨hlocked, -⟩, -, hallocated, -⟩ := hbond.inState hstate
    simp only [books, booksOf] at hlocked hallocated
    rcases hguard with ⟨hshort | hsecond, -⟩
    · exact absurd hshort (hlocked.symm.le.not_gt)
    · exact absurd hallocated hsecond
  · exact absurd (not_lt.mp fun hshort => hpassed (.inl hshort)) hunder

/-- What one event does to a funded vault and to an entitlement. -/
theorem exec_progress (hunits : UnitsConsistent c.vault) {event : Event W}
    (h : exec crypto env terms c event = .ok c') :
    (c.vault.protectionState ≠ .unfunded → c'.vault.protectionState ≠ .unfunded) ∧
      (c.vault.protectionState = .entitled → c'.vault.protectionState = .entitled ∧
        c'.vault.entitlementAllocated = c.vault.entitlementAllocated) := by
  rcases exec_cases hunits h with hrefines | hvault
  · exact ⟨hrefines.step.funded, hrefines.step.entitled⟩
  · rw [hvault]
    exact ⟨id, fun hstate => ⟨hstate, rfl⟩⟩

/-- An entitlement survives every continuation of a run unchanged. -/
theorem run_entitled (hunits : UnitsConsistent c.vault) {more : List (Event W)}
    (hrun : run (exec crypto env terms) c more = .ok c') :
    c.vault.protectionState = .entitled → c'.vault.protectionState = .entitled ∧
      c'.vault.entitlementAllocated = c.vault.entitlementAllocated := by
  refine run_relates (P := fun c : Chain W => UnitsConsistent c.vault)
    (R := fun c c' : Chain W => c.vault.protectionState = .entitled →
      c'.vault.protectionState = .entitled ∧
        c'.vault.entitlementAllocated = c.vault.entitlementAllocated) ?_ ?_ ?_ ?_ hrun hunits
  · exact fun _ hstate => ⟨hstate, rfl⟩
  · intro c₁ c₂ c₃ hfirst hsecond hstate
    obtain ⟨hstate₂, hsame₂⟩ := hfirst hstate
    obtain ⟨hstate₃, hsame₃⟩ := hsecond hstate₂
    exact ⟨hstate₃, hsame₃.trans hsame₂⟩
  · exact fun _ _ _ hunits hexec => exec_consistent hunits hexec
  · exact fun _ _ _ hunits hexec => (exec_progress hunits hexec).2

theorem exec_activated (hunits : UnitsConsistent c.vault) {event : Event W}
    (h : exec crypto env terms c event = .ok c') (hactivation : event.IsActivation) :
    c'.vault.protectionState ≠ .unfunded := by
  cases event with
  | call msg call =>
      cases call with
      | activate pledge signature funder holders allocations =>
          have hbody : activateBody crypto env terms c msg pledge signature funder holders
            allocations = .ok c' := closing_bind_ok h
          obtain ⟨-, -, -, -, hbooks⟩ := activateBody_ok hunits hbody
          have hprotection : c'.vault.protectionState = .active :=
            congrArg Books.protection hbooks
          rw [hprotection]
          decide
      | _ => exact hactivation.elim
  | _ => exact hactivation.elim

/-- A run that activated the vault leaves it funded. -/
theorem run_activated {more : List (Event W)} (hunits : UnitsConsistent c.vault)
    (hrun : run (exec crypto env terms) c more = .ok c')
    (hactivated : ∃ event ∈ more, event.IsActivation) : c'.vault.protectionState ≠ .unfunded := by
  induction more generalizing c with
  | nil => simp at hactivated
  | cons event more ih =>
      obtain ⟨c₁, hexec, hrest⟩ := run_cons_ok_iff.mp hrun
      have hunits₁ := exec_consistent hunits hexec
      by_cases hlater : ∃ event ∈ more, event.IsActivation
      · exact ih hunits₁ hrest hlater
      · -- the activation is the head; from there the reserve stays funded
        have hfunded : c₁.vault.protectionState ≠ .unfunded := by
          obtain ⟨event', hmem, hactivation⟩ := hactivated
          rcases List.mem_cons.mp hmem with rfl | hmem
          · exact exec_activated hunits hexec hactivation
          · exact absurd ⟨event', hmem, hactivation⟩ hlater
        refine (run_always (P := fun c : Chain W => UnitsConsistent c.vault ∧
          c.vault.protectionState ≠ .unfunded) ?_ hrest ⟨hunits₁, hfunded⟩).2
        rintro c₂ event₂ c₃ ⟨hunits₂, hfunded₂⟩ hexec₂
        exact ⟨exec_consistent hunits₂ hexec₂, (exec_progress hunits₂ hexec₂).1 hfunded₂⟩

theorem Reaches.activated (hreach : Reaches crypto env terms token events c)
    (hactivated : ∃ event ∈ events, event.IsActivation) : c.vault.protectionState ≠ .unfunded := by
  obtain ⟨world, chainId, now, init, s, hconstruct, hrun⟩ := hreach
  refine run_activated ?_ hrun hactivated
  rw [construct_initial hconstruct]
  exact unitsConsistent_initial _

/-- **Bond lifecycle.** In every state reached after activation the bond is what
its protection state says; the accounting guards of `commitConflict` and
`finalizeConflict` and the subtraction in the latter never fail; and the
entitlement is nothing until it is made and never changes after. -/
theorem bond_lifecycle (hreach : Reaches crypto env terms token events c)
    (hactivated : ∃ event ∈ events, event.IsActivation) :
    BondLifecycle terms c.vault ∧
      (∀ msg commitment, commitConflict env terms c msg commitment = .error .accountingMismatch →
        assertCvaIntegrity env terms c = .error .accountingMismatch) ∧
      (∀ msg error, finalizeConflictBody c msg = .error error →
        error = .invalidState ∨ error = .windowOpen) ∧
      (c.vault.protectionState ≠ .entitled → c.vault.entitlementAllocated = 0) ∧
      ∀ more c', c.vault.protectionState = .entitled →
        run (exec crypto env terms) c more = .ok c' →
        c'.vault.protectionState = .entitled ∧
          c'.vault.entitlementAllocated = c.vault.entitlementAllocated := by
  obtain ⟨hunits, hbond⟩ := hreach.bondOrdered
  have hfunded := hreach.activated hactivated
  refine ⟨bondLifecycle_of_books hbond hfunded, ?_, ?_, hbond.unallocated, ?_⟩
  · exact fun msg commitment hmismatch => commitConflict_mismatch hbond hmismatch
  · exact fun msg error herror => finalizeConflictBody_error hbond herror
  · exact fun more c' hstate hrun => run_entitled hunits hrun hstate

/-- The sample run ends with a committed conflict. -/
theorem bond_lifecycle_sample :
    ∃ c, Reaches Sample.crypto Sample.env Sample.terms Sample.token Sample.events c ∧
      BondLifecycle Sample.terms c.vault := by
  obtain ⟨c, hreach⟩ := Sample.reaches
  exact ⟨c, hreach, (bond_lifecycle hreach Sample.activates).1⟩

end

end Mordant.Vault
