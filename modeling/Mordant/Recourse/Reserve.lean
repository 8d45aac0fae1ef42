/-
# The reserve as three buckets

What an adapter owes, apart from how releases are authenticated.  A reserve is
three buckets, a table of cases, three running totals and a balance; it moves in
one of seven ways.  The accounting is proved of these moves only.
-/

import Mordant.Recourse.Release

namespace Mordant.Recourse

open Evm Foundation
open Function (update)

/-- What is held for a case while it can be cured. -/
def Case.openAmount (entry : Case) : ℕ :=
  if entry.state = .cureOpen then entry.payoutA + entry.payoutB else 0

/-- What an entitled case is still owed. -/
def Case.unpaidAmount (entry : Case) : ℕ :=
  if entry.state = .entitled then
    (if entry.paidA then 0 else entry.payoutA) + (if entry.paidB then 0 else entry.payoutB)
  else 0

/-- The case in another state. -/
def Case.enter (entry : Case) (state : CaseState) : Case := { entry with state := state }

/-- Totals read off the emitted events. -/
def Log.funded : Log → ℕ
  | .reserveFunded _ amount _ => amount
  | _ => 0

def Log.withdrawn : Log → ℕ
  | .reserveWithdrawn _ amount _ => amount
  | _ => 0

def Log.paid : Log → ℕ
  | .claimed _ _ amount => amount
  | _ => 0

def AdapterState.totalFunded (s : AdapterState) : ℕ := (s.logs.map Log.funded).sum
def AdapterState.totalWithdrawn (s : AdapterState) : ℕ := (s.logs.map Log.withdrawn).sum
def AdapterState.totalClaimed (s : AdapterState) : ℕ := (s.logs.map Log.paid).sum

/-- The reserve of an adapter. -/
structure Reserve where
  available : ℕ
  reserved : ℕ
  unpaid : ℕ
  cases : Bytes32 → Case
  funded : ℕ
  withdrawn : ℕ
  claimed : ℕ
  balance : ℕ

/-- The reserve an observer reads off the chain. -/
def reserveOf {W : Type} (terms : AdapterTerms) (c : Chain W) : Reserve where
  available := c.adapter.availableReserve
  reserved := c.adapter.openReserved
  unpaid := c.adapter.entitledUnpaid
  cases := c.adapter.caseByRun
  funded := c.adapter.totalFunded
  withdrawn := c.adapter.totalWithdrawn
  claimed := c.adapter.totalClaimed
  balance := c.token.balanceOf terms.adapter

namespace Reserve

/-- How a reserve can move. A payment to the adapter itself does not lower its
balance, so an outgoing payment only bounds the new balance from below. -/
inductive Step : Reserve → Reserve → Prop
  | receive (b : Reserve) (balance : ℕ) (hbalance : b.balance ≤ balance) :
      Step b { b with balance := balance }
  | fund (b : Reserve) (amount : ℕ) :
      Step b { b with
        available := b.available + amount
        funded := b.funded + amount
        balance := b.balance + amount }
  | withdraw (b : Reserve) (amount balance : ℕ) (hcovered : amount ≤ b.available)
      (hbalance : b.balance ≤ balance + amount) :
      Step b { b with
        available := b.available - amount
        withdrawn := b.withdrawn + amount
        balance := balance }
  | refuse (b : Reserve) (runId : Bytes32) (entry : Case)
      (hnew : (b.cases runId).state = .none) (hstate : entry.state = .refused) :
      Step b { b with cases := update b.cases runId entry }
  | openCase (b : Reserve) (runId : Bytes32) (entry : Case)
      (hnew : (b.cases runId).state = .none) (hstate : entry.state = .cureOpen)
      (hA : entry.paidA = (b.cases runId).paidA) (hB : entry.paidB = (b.cases runId).paidB)
      (hcovered : entry.payoutA + entry.payoutB ≤ b.available) :
      Step b { b with
        available := b.available - (entry.payoutA + entry.payoutB)
        reserved := b.reserved + (entry.payoutA + entry.payoutB)
        cases := update b.cases runId entry }
  | cure (b : Reserve) (runId : Bytes32) (hopen : (b.cases runId).state = .cureOpen)
      (hcovered : (b.cases runId).payoutA + (b.cases runId).payoutB ≤ b.reserved) :
      Step b { b with
        reserved := b.reserved - ((b.cases runId).payoutA + (b.cases runId).payoutB)
        available := b.available + ((b.cases runId).payoutA + (b.cases runId).payoutB)
        cases := update b.cases runId ((b.cases runId).enter .cured) }
  | finalize (b : Reserve) (runId : Bytes32) (hopen : (b.cases runId).state = .cureOpen)
      (hcovered : (b.cases runId).payoutA + (b.cases runId).payoutB ≤ b.reserved) :
      Step b { b with
        reserved := b.reserved - ((b.cases runId).payoutA + (b.cases runId).payoutB)
        unpaid := b.unpaid + ((b.cases runId).payoutA + (b.cases runId).payoutB)
        cases := update b.cases runId ((b.cases runId).enter .entitled) }
  | claim (b : Reserve) (runId : Bytes32) (holderIsA : Bool) (balance : ℕ)
      (hentitled : (b.cases runId).state = .entitled)
      (hunpaid : (b.cases runId).paid holderIsA = false)
      (hcovered : (b.cases runId).payout holderIsA ≤ b.unpaid)
      (hbalance : b.balance ≤ balance + (b.cases runId).payout holderIsA) :
      Step b { b with
        unpaid := b.unpaid - (b.cases runId).payout holderIsA
        cases := update b.cases runId ((b.cases runId).markPaid holderIsA).close
        claimed := b.claimed + (b.cases runId).payout holderIsA
        balance := balance }

/-- The accounting of a reserve. A case that was never opened, or is still open,
has paid nobody. -/
structure Accounted (b : Reserve) : Prop where
  unstarted : ∀ runId, (b.cases runId).state = .none ∨ (b.cases runId).state = .cureOpen →
    (b.cases runId).paidA = false ∧ (b.cases runId).paidB = false
  reserved_eq : b.reserved = ∑ runId, (b.cases runId).openAmount
  unpaid_eq : b.unpaid = ∑ runId, (b.cases runId).unpaidAmount
  totals : b.available + b.reserved + b.unpaid + b.claimed + b.withdrawn = b.funded
  backed : b.available + b.reserved + b.unpaid ≤ b.balance

section

variable {entry : Case}

theorem openAmount_of_ne (h : entry.state ≠ .cureOpen) : entry.openAmount = 0 := if_neg h

theorem openAmount_of_eq (h : entry.state = .cureOpen) :
    entry.openAmount = entry.payoutA + entry.payoutB := if_pos h

theorem unpaidAmount_of_ne (h : entry.state ≠ .entitled) : entry.unpaidAmount = 0 := if_neg h

theorem unpaidAmount_of_eq (h : entry.state = .entitled) :
    entry.unpaidAmount = (if entry.paidA then 0 else entry.payoutA) +
      (if entry.paidB then 0 else entry.payoutB) := if_pos h

/-- An entitled case owes at least its unpaid side. -/
theorem payout_le_unpaidAmount {holderIsA : Bool} (hstate : entry.state = .entitled)
    (hunpaid : entry.paid holderIsA = false) : entry.payout holderIsA ≤ entry.unpaidAmount := by
  rw [unpaidAmount_of_eq hstate]
  cases holderIsA with
  | true =>
      have hside : entry.paidA = false := hunpaid
      rw [hside]
      exact Nat.le_add_right _ _
  | false =>
      have hside : entry.paidB = false := hunpaid
      rw [hside]
      exact Nat.le_add_left _ _

/-- Paying one side lowers what is owed by exactly that side, whether or not it
closes the case. -/
theorem unpaidAmount_markPaid {holderIsA : Bool} (hstate : entry.state = .entitled)
    (hunpaid : entry.paid holderIsA = false) :
    (entry.markPaid holderIsA).close.unpaidAmount + entry.payout holderIsA =
      entry.unpaidAmount := by
  rw [unpaidAmount_of_eq hstate]
  cases holderIsA with
  | true =>
      have hside : entry.paidA = false := hunpaid
      cases hother : entry.paidB <;>
        simp [Case.markPaid, Case.close, Case.unpaidAmount, Case.payout, hside, hother, hstate]
      omega
  | false =>
      have hside : entry.paidB = false := hunpaid
      cases hother : entry.paidA <;>
        simp [Case.markPaid, Case.close, Case.unpaidAmount, Case.payout, hside, hother, hstate]

/-- Paying never reopens a case. -/
theorem markPaid_state (holderIsA : Bool) (hstate : entry.state = .entitled) :
    (entry.markPaid holderIsA).close.state = .entitled ∨
      (entry.markPaid holderIsA).close.state = .claimed := by
  have hmarked : (entry.markPaid holderIsA).state = .entitled := by
    cases holderIsA <;> exact hstate
  unfold Case.close
  split
  · exact .inr rfl
  · exact .inl hmarked

end

section

variable {b b' : Reserve}

/-- Rewriting one case keeps the others unstarted; the new one must be too. -/
theorem unstarted_update (h : b.Accounted) {runId : Bytes32} {entry : Case}
    (hentry : entry.state = .none ∨ entry.state = .cureOpen →
      entry.paidA = false ∧ entry.paidB = false) (other : Bytes32)
    (hother : (update b.cases runId entry other).state = .none ∨
      (update b.cases runId entry other).state = .cureOpen) :
    (update b.cases runId entry other).paidA = false ∧
      (update b.cases runId entry other).paidB = false := by
  by_cases hsame : other = runId
  · subst hsame
    rw [Function.update_self] at hother ⊢
    exact hentry hother
  · rw [Function.update_of_ne hsame] at hother ⊢
    exact h.unstarted other hother

/-- **Rewriting one case.** The accounting survives when the two running sums
follow the weights of the old and the new case and the totals still agree. -/
theorem Accounted.rewrite (h : b.Accounted) {runId : Bytes32} {entry : Case}
    (hcases : b'.cases = update b.cases runId entry)
    (hentry : entry.state = .none ∨ entry.state = .cureOpen →
      entry.paidA = false ∧ entry.paidB = false)
    (hreserved : b'.reserved + (b.cases runId).openAmount = b.reserved + entry.openAmount)
    (hunpaid : b'.unpaid + (b.cases runId).unpaidAmount = b.unpaid + entry.unpaidAmount)
    (htotals : b'.available + b'.reserved + b'.unpaid + b'.claimed + b'.withdrawn = b'.funded)
    (hbacked : b'.available + b'.reserved + b'.unpaid ≤ b'.balance) : b'.Accounted where
  unstarted := by
    rw [hcases]
    exact unstarted_update h hentry
  reserved_eq := by
    have hsum := sum_weight_update_add Case.openAmount b.cases runId entry
    have hbefore := h.reserved_eq
    rw [hcases]
    omega
  unpaid_eq := by
    have hsum := sum_weight_update_add Case.unpaidAmount b.cases runId entry
    have hbefore := h.unpaid_eq
    rw [hcases]
    omega
  totals := htotals
  backed := hbacked

/-- **Every move keeps the accounting.** -/
theorem Step.keeps (hstep : Step b b') (h : b.Accounted) : b'.Accounted := by
  have htotals := h.totals
  have hbacked := h.backed
  cases hstep with
  | receive balance hbalance =>
      exact ⟨h.unstarted, h.reserved_eq, h.unpaid_eq, h.totals, h.backed.trans hbalance⟩
  | fund amount =>
      exact ⟨h.unstarted, h.reserved_eq, h.unpaid_eq, by simp only; omega, by simp only; omega⟩
  | withdraw amount balance hcovered hbalance =>
      exact ⟨h.unstarted, h.reserved_eq, h.unpaid_eq, by simp only; omega, by simp only; omega⟩
  | refuse runId entry hnew hstate =>
      apply h.rewrite rfl
      · simp [hstate]
      · rw [openAmount_of_ne (by simp [hnew]), openAmount_of_ne (by simp [hstate])]
      · rw [unpaidAmount_of_ne (by simp [hnew]), unpaidAmount_of_ne (by simp [hstate])]
      · exact htotals
      · exact hbacked
  | openCase runId entry hnew hstate hA hB hcovered =>
      obtain ⟨hnoA, hnoB⟩ := h.unstarted runId (.inl hnew)
      apply h.rewrite rfl
      · exact fun _ => ⟨hA.trans hnoA, hB.trans hnoB⟩
      · rw [openAmount_of_ne (by simp [hnew]), openAmount_of_eq hstate, Nat.add_zero]
      · rw [unpaidAmount_of_ne (by simp [hnew]), unpaidAmount_of_ne (by simp [hstate])]
      · simp only
        omega
      · simp only
        omega
  | cure runId hopen hcovered =>
      apply h.rewrite rfl
      · simp [Case.enter]
      · rw [openAmount_of_eq hopen, openAmount_of_ne (by simp [Case.enter])]
        exact Nat.sub_add_cancel hcovered
      · rw [unpaidAmount_of_ne (by simp [hopen]), unpaidAmount_of_ne (by simp [Case.enter])]
      · simp only
        omega
      · simp only
        omega
  | finalize runId hopen hcovered =>
      obtain ⟨hnoA, hnoB⟩ := h.unstarted runId (.inr hopen)
      -- nobody was paid while the case was open, so both payouts become due
      have hdue : ((b.cases runId).enter .entitled).unpaidAmount =
          (b.cases runId).payoutA + (b.cases runId).payoutB := by
        rw [unpaidAmount_of_eq rfl]
        simp [Case.enter, hnoA, hnoB]
      apply h.rewrite rfl
      · simp [Case.enter]
      · rw [openAmount_of_eq hopen, openAmount_of_ne (by simp [Case.enter])]
        exact Nat.sub_add_cancel hcovered
      · rw [unpaidAmount_of_ne (by simp [hopen]), hdue, Nat.add_zero]
      · simp only
        omega
      · simp only
        omega
  | claim runId holderIsA balance hentitled hunpaidSide hcovered hbalance =>
      have hpaid := unpaidAmount_markPaid hentitled hunpaidSide
      have hclosed : ((b.cases runId).markPaid holderIsA).close.state ≠ .none ∧
          ((b.cases runId).markPaid holderIsA).close.state ≠ .cureOpen := by
        rcases markPaid_state holderIsA hentitled with hafter | hafter <;> simp [hafter]
      apply h.rewrite rfl
      · exact fun hunstarted => (hunstarted.elim hclosed.1 hclosed.2).elim
      · rw [openAmount_of_ne (by simp [hentitled]), openAmount_of_ne hclosed.2]
      · simp only
        omega
      · simp only
        omega
      · simp only
        omega

/-- A case that is open is held in full. -/
theorem Accounted.open_le (h : b.Accounted) {runId : Bytes32}
    (hstate : (b.cases runId).state = .cureOpen) :
    (b.cases runId).payoutA + (b.cases runId).payoutB ≤ b.reserved := by
  rw [h.reserved_eq, ← openAmount_of_eq hstate]
  exact le_sum (fun i => (b.cases i).openAmount) runId

/-- A case that is entitled is owed in full. -/
theorem Accounted.unpaid_le (h : b.Accounted) (runId : Bytes32) :
    (b.cases runId).unpaidAmount ≤ b.unpaid := by
  rw [h.unpaid_eq]
  exact le_sum (fun i => (b.cases i).unpaidAmount) runId

end

end Reserve

end Mordant.Recourse
