/-
# Ledgers of bounded balances

A ledger assigns every account a balance that fits a machine word; the bound is
part of the ledger, so no later proof has to recover it.  `move` transfers an
exact amount or refuses.  A transfer from an account to itself is a transfer
like any other and changes nothing, which is the case callers that compare a
balance before and after must get right.

The second half is the one fact about totals that every accounting argument
rests on: overwriting a single entry of a finite table changes its sum by
exactly the difference of the two values.  A ledger that also records its supply
carries that total as a field.
-/

import Mathlib.Algebra.BigOperators.Group.Finset.Piecewise
import Mathlib.Algebra.Order.BigOperators.Group.Finset

namespace Mordant.Foundation

open Function (update update_self)

universe u v

/-- Balances of a token whose amounts fit `width` bits. -/
structure Ledger (α : Type u) (width : ℕ) where
  balanceOf : α → ℕ
  fits : ∀ account, balanceOf account < 2 ^ width

namespace Ledger

variable {α : Type u} [DecidableEq α] {width : ℕ} {amount : ℕ} {source target account : α}
  {ledger after : Ledger α width}

/-- The balances after debiting the source and then crediting the target. -/
def moved (balances : α → ℕ) (source target : α) (amount : ℕ) : α → ℕ :=
  let debited := update balances source (balances source - amount)
  update debited target (debited target + amount)

theorem moved_self (balances : α → ℕ) (account : α) (hcovered : amount ≤ balances account) :
    moved balances account account amount = balances := by
  funext other
  by_cases h : other = account
  · subst h
    simp [moved, Nat.sub_add_cancel hcovered]
  · simp [moved, h]

theorem moved_source (balances : α → ℕ) (hne : source ≠ target)
    (amount : ℕ) : moved balances source target amount source = balances source - amount := by
  simp [moved, hne]

theorem moved_target (balances : α → ℕ) (hne : source ≠ target)
    (amount : ℕ) : moved balances source target amount target = balances target + amount := by
  simp [moved, hne.symm]

theorem moved_other (balances : α → ℕ) {other : α} (hsource : other ≠ source)
    (htarget : other ≠ target) (amount : ℕ) :
    moved balances source target amount other = balances other := by
  simp [moved, hsource, htarget]

theorem moved_fits (ledger : Ledger α width)
    (htarget : moved ledger.balanceOf source target amount target < 2 ^ width) (account : α) :
    moved ledger.balanceOf source target amount account < 2 ^ width := by
  by_cases hat : account = target
  · rw [hat]
    exact htarget
  · by_cases has : account = source
    · subst has
      rw [moved_source _ hat]
      exact lt_of_le_of_lt (Nat.sub_le _ _) (ledger.fits account)
    · rw [moved_other _ has hat]
      exact ledger.fits account

/-- Transfer exactly `amount`, or refuse: an uncovered debit and a credit that
would not fit both fail. -/
def move (ledger : Ledger α width) (source target : α) (amount : ℕ) :
    Option (Ledger α width) :=
  if amount ≤ ledger.balanceOf source then
    if h : moved ledger.balanceOf source target amount target < 2 ^ width then
      some ⟨moved ledger.balanceOf source target amount, ledger.moved_fits h⟩
    else none
  else none

/-- The one inversion of a transfer: it was covered, and it moved exactly the
stated amount. -/
theorem move_eq_some (h : ledger.move source target amount = some after) :
    amount ≤ ledger.balanceOf source ∧
      after.balanceOf = moved ledger.balanceOf source target amount := by
  unfold move at h
  split at h
  · next hcovered =>
      split at h
      · cases h
        exact ⟨hcovered, rfl⟩
      · cases h
  · cases h

/-- An incoming transfer raises the receiver by exactly the amount. -/
theorem move_in (hne : source ≠ account) (h : ledger.move source account amount = some after) :
    after.balanceOf account = ledger.balanceOf account + amount := by
  rw [(move_eq_some h).2, moved_target _ hne]

/-- An outgoing transfer is covered and lowers the sender by exactly the amount. -/
theorem move_out (hne : account ≠ target) (h : ledger.move account target amount = some after) :
    after.balanceOf account + amount = ledger.balanceOf account := by
  obtain ⟨hcovered, hafter⟩ := move_eq_some h
  rw [hafter, moved_source _ hne, Nat.sub_add_cancel hcovered]

/-- A transfer between two other accounts is invisible. -/
theorem move_frame (hsource : account ≠ source) (htarget : account ≠ target)
    (h : ledger.move source target amount = some after) :
    after.balanceOf account = ledger.balanceOf account := by
  rw [(move_eq_some h).2, moved_other _ hsource htarget]

/-- Whoever receives, a transfer never lowers an account other than the sender. -/
theorem le_move_of_ne (hne : account ≠ source) (h : ledger.move source target amount = some after) :
    ledger.balanceOf account ≤ after.balanceOf account := by
  by_cases htarget : account = target
  · subst htarget
    rw [move_in hne.symm h]
    exact Nat.le_add_right _ _
  · exact (move_frame hne htarget h).ge

/-- Whoever pays whom, a transfer takes at most its amount from any account. -/
theorem le_move_add (h : ledger.move source target amount = some after) (account : α) :
    ledger.balanceOf account ≤ after.balanceOf account + amount := by
  by_cases hsource : account = source
  · subst hsource
    by_cases htarget : account = target
    · subst htarget
      obtain ⟨hcovered, hafter⟩ := move_eq_some h
      rw [hafter, moved_self _ _ hcovered]
      exact Nat.le_add_right _ _
    · exact (move_out htarget h).ge
  · exact (le_move_of_ne hsource h).trans (Nat.le_add_right _ _)

/-- Comparing the receiver's balance before and after detects a self-transfer:
the difference is the amount only if sender and receiver differ. -/
theorem ne_of_move_received (hpos : amount ≠ 0) (h : ledger.move account target amount = some after)
    (hreceived : after.balanceOf target - ledger.balanceOf target = amount) :
    account ≠ target := by
  rintro rfl
  obtain ⟨hcovered, hafter⟩ := move_eq_some h
  rw [hafter, moved_self _ _ hcovered, Nat.sub_self] at hreceived
  exact hpos hreceived.symm

end Ledger

section

variable {α : Type u} [Fintype α] [DecidableEq α] {β : Type v}

/-- Overwriting one entry changes the total by the difference of the values. -/
theorem sum_update_add (table : α → ℕ) (key : α) (value : ℕ) :
    (∑ i, update table key value i) + table key = (∑ i, table i) + value := by
  rw [Finset.sum_update_of_mem (Finset.mem_univ key), ← Finset.add_sum_erase _ table
    (Finset.mem_univ key), Finset.sdiff_singleton_eq_erase]
  omega

/-- A table with one entry adds up to it. -/
theorem sum_update_zero (key : α) (value : ℕ) :
    ∑ i, update (fun _ => 0) key value i = value := by
  have hsum := sum_update_add (fun _ : α => 0) key value
  rwa [Finset.sum_const_zero, Nat.add_zero, Nat.zero_add] at hsum

/-- The same law for a table whose entries are measured by `weight`. -/
theorem sum_weight_update_add (weight : β → ℕ) (table : α → β) (key : α) (value : β) :
    (∑ i, weight (update table key value i)) + weight (table key) =
      (∑ i, weight (table i)) + weight value := by
  have hcomp : (fun i => weight (update table key value i)) =
      update (fun i => weight (table i)) key (weight value) := by
    funext i
    by_cases h : i = key
    · subst h
      simp
    · simp [h]
  rw [hcomp]
  exact sum_update_add (fun i => weight (table i)) key (weight value)

omit [DecidableEq α] in
theorem le_sum (table : α → ℕ) (key : α) : table key ≤ ∑ i, table i :=
  Finset.single_le_sum (fun i _ => Nat.zero_le (table i)) (Finset.mem_univ key)

/-- A covered debit followed by a credit leaves the total where it was, also
when both fall on one account. -/
theorem sum_moved (balances : α → ℕ) {source : α} (target : α) {amount : ℕ}
    (hcovered : amount ≤ balances source) :
    ∑ i, Ledger.moved balances source target amount i = ∑ i, balances i := by
  have hdebit := sum_update_add balances source (balances source - amount)
  have hcredit := sum_update_add
    (update balances source (balances source - amount)) target
    (update balances source (balances source - amount) target + amount)
  simp only [Ledger.moved]
  omega

end

/-! ## Ledgers with a supply -/

/-- A ledger whose balances add up to a recorded supply. -/
structure SuppliedLedger (α : Type u) [Fintype α] (width : ℕ) extends Ledger α width where
  supply : ℕ
  total : ∑ account, balanceOf account = supply

namespace SuppliedLedger

variable {α : Type u} [Fintype α] [DecidableEq α] {width : ℕ}

omit [DecidableEq α] in
theorem le_supply (ledger : SuppliedLedger α width) (account : α) :
    ledger.balanceOf account ≤ ledger.supply :=
  (le_sum ledger.balanceOf account).trans_eq ledger.total

/-- Transfer exactly `amount` under an unchanged supply, or refuse. -/
def transfer (ledger : SuppliedLedger α width) (source target : α) (amount : ℕ) :
    Option (SuppliedLedger α width) :=
  match hmove : ledger.toLedger.move source target amount with
  | none => none
  | some after => some
    { toLedger := after
      supply := ledger.supply
      total := by
        obtain ⟨hcovered, hafter⟩ := Ledger.move_eq_some hmove
        rw [hafter, sum_moved _ _ hcovered, ledger.total] }

/-- Take exactly `amount` from one account and from the supply, or refuse. -/
def burn (ledger : SuppliedLedger α width) (account : α) (amount : ℕ) :
    Option (SuppliedLedger α width) :=
  if hcovered : amount ≤ ledger.balanceOf account then some
    { balanceOf :=
        update ledger.balanceOf account (ledger.balanceOf account - amount)
      fits := by
        intro other
        by_cases hother : other = account
        · rw [hother, update_self]
          exact (Nat.sub_le _ _).trans_lt (ledger.fits account)
        · rw [Function.update_of_ne hother]
          exact ledger.fits other
      supply := ledger.supply - amount
      total := by
        have hsum := sum_update_add ledger.balanceOf account (ledger.balanceOf account - amount)
        have htotal := ledger.total
        omega }
  else none

theorem transfer_eq_some {ledger after : SuppliedLedger α width} {source target : α} {amount : ℕ}
    (h : ledger.transfer source target amount = some after) :
    ledger.toLedger.move source target amount = some after.toLedger ∧
      after.supply = ledger.supply := by
  unfold transfer at h
  split at h
  · exact nomatch h
  · next hmove =>
      cases h
      exact ⟨hmove, rfl⟩

theorem burn_eq_some {ledger after : SuppliedLedger α width} {account : α} {amount : ℕ}
    (h : ledger.burn account amount = some after) :
    after.balanceOf account + amount = ledger.balanceOf account ∧
      after.supply + amount = ledger.supply := by
  unfold burn at h
  split at h
  · next hcovered =>
      cases h
      have hbound := ledger.le_supply account
      simp only [update_self]
      omega
  · exact nomatch h

end SuppliedLedger

end Mordant.Foundation
