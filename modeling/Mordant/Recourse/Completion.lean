/-
# Completion of a case

An entitled case is meant to end in `Claimed`.  It does when both payouts are
positive: whatever has been paid, claims alone finish it.  A zero payout is
admitted when the release is consumed and refused when it is claimed, while the
end of the case waits for both paid marks; such a case stays entitled for ever.
-/

import Mordant.Recourse.Payout

namespace Mordant.Recourse

open Evm Foundation
open Function (update_self update_of_ne)

/-- Every positive payout of the case has been paid. -/
def Case.AllPaid (entry : Case) : Prop :=
  ∀ holderIsA, entry.payout holderIsA ≠ 0 → entry.paid holderIsA = true

/-- Both payouts are positive. -/
def Case.BothPositive (entry : Case) : Prop := ∀ holderIsA, entry.payout holderIsA ≠ 0

/-- A claim of this case; each side is claimed by the account `caller` names. -/
def Event.Claims {W R : Type} (caller : Bool → Address) (runId : Bytes32) : Event W R → Prop
  | .call msg (.claim id holderIsA) => id = runId ∧ msg.sender = caller holderIsA
  | _ => False

/-- The contracts a claim asks all consent, and the token's balances fit a word
together, as those of an ERC-20 do. -/
structure Willing {W : Type} (env : Externals W) (terms : AdapterTerms) (c : Chain W)
    (runId : Bytes32) : Prop where
  eligible : ∀ holderIsA,
    env.isEligible c.world ((c.adapter.caseByRun runId).holder holderIsA) roleHolder = true
  allowed : ∀ holderIsA,
    env.isAssetTransferAllowed c.world terms.settlementToken terms.adapter
      ((c.adapter.caseByRun runId).holder holderIsA)
      ((c.adapter.caseByRun runId).payout holderIsA) = true
  accepted : ∀ holderIsA,
    env.settlementAccepts c.world terms.adapter ((c.adapter.caseByRun runId).holder holderIsA)
      ((c.adapter.caseByRun runId).payout holderIsA) = true
  supply : ∑ account, c.token.balanceOf account < 2 ^ 256

section

variable {entry : Case} {holderIsA : Bool}

/-- Paying a side changes neither holders nor payouts. -/
theorem markPaid_close_terms (side : Bool) :
    (entry.markPaid holderIsA).close.holder side = entry.holder side ∧
      (entry.markPaid holderIsA).close.payout side = entry.payout side := by
  have hmarked : (entry.markPaid holderIsA).holder side = entry.holder side ∧
      (entry.markPaid holderIsA).payout side = entry.payout side := by
    cases holderIsA <;> exact ⟨rfl, rfl⟩
  unfold Case.close
  split
  · exact hmarked
  · exact hmarked

/-- Paying one side leaves the other's mark alone. -/
theorem markPaid_close_other (entry : Case) (holderIsA : Bool) :
    (entry.markPaid holderIsA).close.paid (!holderIsA) = entry.paid (!holderIsA) := by
  unfold Case.close
  split <;> cases holderIsA <;> rfl

theorem markPaid_close_self : (entry.markPaid holderIsA).close.paid holderIsA = true := by
  unfold Case.close
  split <;> cases holderIsA <;> rfl

/-- The case is over when the second side is paid, and not before. -/
theorem markPaid_close_state (hentitled : entry.state = .entitled) :
    (entry.markPaid holderIsA).close.state =
      if entry.paid (!holderIsA) then .claimed else .entitled := by
  unfold Case.close
  cases holderIsA with
  | true =>
      cases hother : entry.paidB <;> simp [Case.markPaid, Case.paid, hother, hentitled]
  | false =>
      cases hother : entry.paidA <;> simp [Case.markPaid, Case.paid, hother, hentitled]

end

section

variable {W R : Type} {crypto : Crypto} {env : Externals W} {terms : AdapterTerms}
variable {flavour : Flavour W R} {accepted : W → R → AcceptedRelease}
variable {token : Ledger Address 256} {events more : List (Event W R)} {c c' : Chain W}
variable {event : Event W R} {g : Register} {runId : Bytes32} {caller : Bool → Address}
  {holderIsA : Bool}

/-- The states an entitlement is in. -/
def Case.Late (entry : Case) : Prop := entry.state = .entitled ∨ entry.state = .claimed

/-- What an event can do to an entitlement: nothing, or pay one side. -/
theorem CaseStep.of_late (hstep : CaseStep crypto terms accepted c event g)
    (hlate : (c.adapter.caseByRun runId).Late) :
    g.caseByRun runId = c.adapter.caseByRun runId ∨
      ∃ holderIsA, (c.adapter.caseByRun runId).state = .entitled ∧
        (c.adapter.caseByRun runId).payout holderIsA ≠ 0 ∧
        g.caseByRun runId = ((c.adapter.caseByRun runId).markPaid holderIsA).close := by
  have hother : ∀ (g : Register) (id : Bytes32) (entry : Case),
      g.caseByRun = c.adapter.caseByRun → ¬ (c.adapter.caseByRun id).Late →
      (g.write id entry).caseByRun runId = c.adapter.caseByRun runId := by
    intro g id entry hcases hearly
    have hdiffer : runId ≠ id := by
      rintro rfl
      exact hearly hlate
    simp only [Register.write, hcases, update_of_ne hdiffer]
  cases hstep with
  | refuse _ hnew => exact .inl (hother _ _ _ rfl (by simp [Case.Late, hnew]))
  | openCase _ hnew => exact .inl (hother _ _ _ rfl (by simp [Case.Late, hnew]))
  | cure hopen => exact .inl (hother _ _ _ rfl (by simp [Case.Late, hopen]))
  | finalize hopen => exact .inl (hother _ _ _ rfl (by simp [Case.Late, hopen]))
  | @claim _ id holderIsA hentitled _ hpos =>
      by_cases hsame : runId = id
      · subst hsame
        exact .inr ⟨holderIsA, hentitled, hpos, update_self _ _ _⟩
      · exact .inl (update_of_ne hsame _ _)
  | quiet => exact .inl rfl

/-- An entitlement keeps its payouts along every run. -/
theorem run_payouts (hflavour : flavour.Files crypto env terms accepted)
    (hrun : run (exec env terms flavour) c more = .ok c')
    (hlate : (c.adapter.caseByRun runId).Late) :
    (c'.adapter.caseByRun runId).Late ∧ ∀ holderIsA,
      (c'.adapter.caseByRun runId).payout holderIsA =
        (c.adapter.caseByRun runId).payout holderIsA := by
  refine run_always (P := fun c₁ : Chain W => (c₁.adapter.caseByRun runId).Late ∧ ∀ holderIsA,
    (c₁.adapter.caseByRun runId).payout holderIsA =
      (c.adapter.caseByRun runId).payout holderIsA) ?_ hrun ⟨hlate, fun _ => rfl⟩
  rintro c₁ event c₂ ⟨hlate₁, hpayouts⟩ hexec
  rcases (exec_filed hflavour hexec).1.of_late hlate₁ with hkept | ⟨side, hentitled, -, hpaid⟩
  · change c₂.adapter.caseByRun runId = _ at hkept
    rw [hkept]
    exact ⟨hlate₁, hpayouts⟩
  · change c₂.adapter.caseByRun runId = _ at hpaid
    rw [hpaid]
    refine ⟨Reserve.markPaid_state side hentitled, fun holderIsA => ?_⟩
    exact (markPaid_close_terms holderIsA).2.trans (hpayouts holderIsA)

/-- An entitled case with a side that is worth nothing and not marked paid. -/
structure Case.Stuck (entry : Case) (holderIsA : Bool) : Prop where
  entitled : entry.state = .entitled
  worthless : entry.payout holderIsA = 0
  unpaid : entry.paid holderIsA = false

/-- A stuck case stays stuck, whatever happens. -/
theorem run_stuck (hflavour : flavour.Files crypto env terms accepted)
    (hrun : run (exec env terms flavour) c more = .ok c')
    (hstuck : (c.adapter.caseByRun runId).Stuck holderIsA) :
    (c'.adapter.caseByRun runId).Stuck holderIsA := by
  refine run_always (P := fun c : Chain W => (c.adapter.caseByRun runId).Stuck holderIsA) ?_ hrun
    hstuck
  intro c₁ event c₂ hstuck₁ hexec
  rcases (exec_filed hflavour hexec).1.of_late (.inl hstuck₁.entitled) with
    hkept | ⟨side, -, hpos, hpaid⟩
  · change c₂.adapter.caseByRun runId = _ at hkept
    rw [hkept]
    exact hstuck₁
  · change c₂.adapter.caseByRun runId = _ at hpaid
    -- only the other side can have been paid
    have hside : side = !holderIsA := by
      cases side <;> cases holderIsA <;> first | rfl | exact absurd hstuck₁.worthless hpos
    subst hside
    rw [hpaid]
    refine ⟨?_, (markPaid_close_terms holderIsA).2.trans hstuck₁.worthless, ?_⟩
    · rw [markPaid_close_state hstuck₁.entitled, Bool.not_not, hstuck₁.unpaid]
      rfl
    · have hother := markPaid_close_other (c₁.adapter.caseByRun runId) (!holderIsA)
      rw [Bool.not_not] at hother
      exact hother.trans hstuck₁.unpaid

/-- In the file of an entitled case, a paid side was worth something, and the
other side is not paid. -/
theorem CaseFile.paid_pos {entries : List Entry} {entry : Case}
    (h : CaseFile crypto terms runId entries entry) (hentitled : entry.state = .entitled)
    (hpaid : entry.paid holderIsA = true) :
    entry.payout holderIsA ≠ 0 ∧ entry.paid (!holderIsA) = false := by
  obtain ⟨k, time, -, -, -, ⟨-, rfl⟩ | ⟨first, side, hpos, -, rfl⟩⟩ := h.of_entitled hentitled
  · cases holderIsA <;> exact nomatch hpaid
  · cases side <;> cases holderIsA <;> first | exact ⟨hpos, rfl⟩ | exact nomatch hpaid

/-! ## Claims that succeed -/

theorem claimThrough_ok (haccounted : (reserveOf terms c).Accounted)
    (hentitled : (c.adapter.caseByRun runId).state = .entitled)
    (hunpaid : (c.adapter.caseByRun runId).paid holderIsA = false)
    (hpos : (c.adapter.caseByRun runId).payout holderIsA ≠ 0) (hwilling : Willing env terms c runId)
    {gate : Address → ℕ → Except AdapterError Unit}
    (hgate : gate ((c.adapter.caseByRun runId).holder holderIsA)
      ((c.adapter.caseByRun runId).payout holderIsA) = .ok ()) :
    ∃ c', claimThrough env terms c gate runId holderIsA = .ok c' := by
  have hcovered : (c.adapter.caseByRun runId).payout holderIsA ≤ c.adapter.entitledUnpaid :=
    (Reserve.payout_le_unpaidAmount hentitled hunpaid).trans (haccounted.unpaid_le runId)
  have hheld : (c.adapter.caseByRun runId).payout holderIsA ≤
      c.token.balanceOf terms.adapter := by
    have hbacked : c.adapter.availableReserve + c.adapter.openReserved +
      c.adapter.entitledUnpaid ≤ c.token.balanceOf terms.adapter := haccounted.backed
    omega
  have hfits := (le_sum (Ledger.moved c.token.balanceOf terms.adapter
    ((c.adapter.caseByRun runId).holder holderIsA)
    ((c.adapter.caseByRun runId).payout holderIsA))
    ((c.adapter.caseByRun runId).holder holderIsA)).trans_lt
      ((sum_moved _ _ hheld).trans_lt hwilling.supply)
  have hmove : c.token.move terms.adapter ((c.adapter.caseByRun runId).holder holderIsA)
      ((c.adapter.caseByRun runId).payout holderIsA) = some ⟨_, c.token.moved_fits hfits⟩ := by
    rw [Ledger.move, if_pos hheld, dif_pos hfits]
  have heligible : ¬ env.isEligible c.world ((c.adapter.caseByRun runId).holder holderIsA)
      roleHolder = false := by
    rw [hwilling.eligible holderIsA]
    decide
  have haccepted : ¬ env.settlementAccepts c.world terms.adapter
      ((c.adapter.caseByRun runId).holder holderIsA)
      ((c.adapter.caseByRun runId).payout holderIsA) = false := by
    rw [hwilling.accepted holderIsA]
    decide
  have hmarked : ¬ (c.adapter.caseByRun runId).paid holderIsA = true := by
    rw [hunpaid]
    decide
  apply Exists.intro
  simp only [claimThrough, requireEligible, settle, bind_ok_iff, revertIf_ok_iff, require_ok_iff,
    checkedSub_ok_iff, pure_ok_iff]
  exact ⟨(), not_not.mpr hentitled, (), hmarked, (), hpos, (), heligible, (), hgate, _,
    ⟨hcovered, rfl⟩, _, ⟨(), haccepted, _, hmove, rfl⟩, rfl⟩

/-- A claim needs no more than an entitled case, an unpaid side worth something,
and the consent of the contracts it asks. -/
def Flavour.Pays (flavour : Flavour W R) (env : Externals W) (terms : AdapterTerms) : Prop :=
  ∀ {c : Chain W} {runId holderIsA}, (reserveOf terms c).Accounted →
    (c.adapter.caseByRun runId).state = .entitled →
    (c.adapter.caseByRun runId).paid holderIsA = false →
    (c.adapter.caseByRun runId).payout holderIsA ≠ 0 → Willing env terms c runId →
    ∃ c', flavour.claim c runId holderIsA = .ok c'

/-- A claim moves the tokens and leaves the rest of the world alone. -/
theorem Willing.claimed (hwilling : Willing env terms c runId)
    {gate : Address → ℕ → Except AdapterError Unit}
    (h : claimThrough env terms c gate runId holderIsA = .ok c') :
    Willing env terms c' runId := by
  obtain ⟨hmove, -, -, -, hregister⟩ := claimThrough_register h
  have hworld : c'.world = c.world := by
    simp only [claimThrough, bind_ok_iff, pure_ok_iff] at h
    obtain ⟨-, -, -, -, -, -, -, -, -, -, unpaid, -, c₁, hsettle, rfl⟩ := h
    obtain ⟨token, -, rfl⟩ := settle_ok hsettle
    rfl
  have hcase : c'.adapter.caseByRun runId =
      ((c.adapter.caseByRun runId).markPaid holderIsA).close :=
    (congrFun (congrArg Register.caseByRun hregister) runId).trans (update_self _ _ _)
  obtain ⟨hcovered, hafter⟩ := Ledger.move_eq_some hmove
  refine ⟨fun side => ?_, fun side => ?_, fun side => ?_, ?_⟩
  · rw [hworld, hcase, (markPaid_close_terms side).1]
    exact hwilling.eligible side
  · rw [hworld, hcase, (markPaid_close_terms side).1, (markPaid_close_terms side).2]
    exact hwilling.allowed side
  · rw [hworld, hcase, (markPaid_close_terms side).1, (markPaid_close_terms side).2]
    exact hwilling.accepted side
  · rw [hafter, sum_moved _ _ hcovered]
    exact hwilling.supply

end

/-! ## Completion -/

section

variable {W R : Type} {crypto : Crypto} {env : Externals W} {terms : AdapterTerms}
variable {flavour : Flavour W R} {accepted : W → R → AcceptedRelease}
variable {token : Ledger Address 256} {world : W} {events more : List (Event W R)}
variable {c c' : Chain W} {runId : Bytes32} {caller : Bool → Address}

/-- A case with a payout of zero is stuck from the moment it is entitled. -/
theorem CaseFile.stuck {history : List Entry} {entry : Case}
    (hfile : CaseFile crypto terms runId history entry) (hentitled : entry.state = .entitled)
    (hzero : ¬ entry.BothPositive) : ∃ holderIsA, entry.Stuck holderIsA := by
  obtain ⟨side, hworthless⟩ := not_forall.mp hzero
  refine ⟨side, hentitled, not_not.mp hworthless, ?_⟩
  cases hpaid : entry.paid side with
  | false => rfl
  | true => exact absurd (not_not.mp hworthless) (hfile.paid_pos hentitled hpaid).1

/-- When an entitled case of an adapter completes: every sequence of claims that
pays all positive payouts ends it, and some sequence of claims ends it. -/
def CompletesIff (env : Externals W) (terms : AdapterTerms) (flavour : Flavour W R) (c : Chain W)
    (runId : Bytes32) (condition : Prop) : Prop :=
  ∀ caller : Bool → Address, (∀ holderIsA, caller holderIsA ≠ terms.adapter) →
    ((∀ (claims : List (Event W R)) (c' : Chain W),
        (∀ event ∈ claims, event.Claims caller runId) →
        run (exec env terms flavour) c claims = .ok c' →
        (c'.adapter.caseByRun runId).AllPaid → (c'.adapter.caseByRun runId).state = .claimed) ↔
      condition) ∧
    ((∃ (claims : List (Event W R)) (c' : Chain W),
        (∀ event ∈ claims, event.Claims caller runId) ∧
        run (exec env terms flavour) c claims = .ok c' ∧
        (c'.adapter.caseByRun runId).state = .claimed) ↔ condition)

variable (hflavour : flavour.Files crypto env terms accepted) (hpays : flavour.Pays env terms)
  (hmoves : flavour.Moves terms)
include hflavour hpays hmoves

/-- One successful claim of an entitled case. -/
theorem claim_pays (haccounted : (reserveOf terms c).Accounted) {holderIsA : Bool}
    (hentitled : (c.adapter.caseByRun runId).state = .entitled)
    (hunpaid : (c.adapter.caseByRun runId).paid holderIsA = false)
    (hpos : (c.adapter.caseByRun runId).payout holderIsA ≠ 0)
    (hwilling : Willing env terms c runId) (msg : Msg) (hsender : msg.sender ≠ terms.adapter) :
    ∃ c', exec env terms flavour c (.call msg (.claim runId holderIsA)) = .ok c' ∧
      c'.adapter.caseByRun runId = ((c.adapter.caseByRun runId).markPaid holderIsA).close ∧
      (reserveOf terms c').Accounted ∧ Willing env terms c' runId := by
  obtain ⟨c', hclaim⟩ := hpays haccounted hentitled hunpaid hpos hwilling
  obtain ⟨gate, hthrough⟩ := hflavour.claim hclaim
  have hexec : exec env terms flavour c (.call msg (.claim runId holderIsA)) = .ok c' := by
    simp only [exec, revertIf_bind_ok_iff]
    exact ⟨hsender, hclaim⟩
  obtain ⟨-, -, -, -, hregister⟩ := claimThrough_register hthrough
  refine ⟨c', hexec, ?_, (exec_step hmoves hexec).keeps haccounted, hwilling.claimed hthrough⟩
  exact (congrFun (congrArg Register.caseByRun hregister) runId).trans (update_self _ _ _)

/-- With the other side paid, one claim ends the case. -/
theorem claim_last (haccounted : (reserveOf terms c).Accounted) {holderIsA : Bool}
    (hentitled : (c.adapter.caseByRun runId).state = .entitled)
    (hunpaid : (c.adapter.caseByRun runId).paid holderIsA = false)
    (hother : (c.adapter.caseByRun runId).paid (!holderIsA) = true)
    (hpos : (c.adapter.caseByRun runId).payout holderIsA ≠ 0)
    (hwilling : Willing env terms c runId) (msg : Msg) (hsender : msg.sender ≠ terms.adapter) :
    ∃ c', exec env terms flavour c (.call msg (.claim runId holderIsA)) = .ok c' ∧
      (c'.adapter.caseByRun runId).state = .claimed := by
  obtain ⟨c', hexec, hcase, -, -⟩ :=
    claim_pays hflavour hpays hmoves haccounted hentitled hunpaid hpos hwilling msg
      hsender
  refine ⟨c', hexec, ?_⟩
  rw [hcase, markPaid_close_state hentitled, hother]
  rfl

/-- With both payouts positive, claims alone finish an entitled case. -/
theorem claims_finish (haccounted : (reserveOf terms c).Accounted)
    (hfile : ∃ history, CaseFile crypto terms runId history (c.adapter.caseByRun runId))
    (hentitled : (c.adapter.caseByRun runId).state = .entitled)
    (hpositive : (c.adapter.caseByRun runId).BothPositive) (hwilling : Willing env terms c runId)
    (hcaller : ∀ holderIsA, caller holderIsA ≠ terms.adapter) :
    ∃ (claims : List (Event W R)) (c' : Chain W),
      (∀ event ∈ claims, event.Claims caller runId) ∧
      run (exec env terms flavour) c claims = .ok c' ∧
      (c'.adapter.caseByRun runId).state = .claimed := by
  obtain ⟨history, hfile⟩ := hfile
  let msgOf (holderIsA : Bool) : Msg := ⟨caller holderIsA, 0, 0⟩
  let claimOf (holderIsA : Bool) : Event W R := .call (msgOf holderIsA) (.claim runId holderIsA)
  -- some side is unpaid; the other may be paid already
  obtain ⟨side, hside⟩ : ∃ side, (c.adapter.caseByRun runId).paid side = false := by
    cases hpaid : (c.adapter.caseByRun runId).paid true with
    | false => exact ⟨true, hpaid⟩
    | true => exact ⟨false, (hfile.paid_pos hentitled hpaid).2⟩
  cases hother : (c.adapter.caseByRun runId).paid (!side) with
  | true =>
      obtain ⟨c', hexec, hclaimed⟩ := claim_last hflavour hpays hmoves haccounted hentitled hside
        hother (hpositive side) hwilling (msgOf side) (hcaller side)
      refine ⟨[claimOf side], c', ?_, run_cons_ok_iff.mpr ⟨c', hexec, rfl⟩, hclaimed⟩
      rintro event hmem
      rw [List.mem_singleton.mp hmem]
      exact ⟨rfl, rfl⟩
  | false =>
      obtain ⟨c₁, hexec₁, hcase₁, haccounted₁, hwilling₁⟩ := claim_pays hflavour hpays hmoves
        haccounted hentitled hother (hpositive (!side)) hwilling (msgOf (!side)) (hcaller (!side))
      have hother₁ := markPaid_close_other (c.adapter.caseByRun runId) (!side)
      rw [Bool.not_not] at hother₁
      have hentitled₁ : (c₁.adapter.caseByRun runId).state = .entitled := by
        rw [hcase₁, markPaid_close_state hentitled, Bool.not_not, hside]
        rfl
      have hpos₁ : (c₁.adapter.caseByRun runId).payout side ≠ 0 := by
        rw [hcase₁, (markPaid_close_terms side).2]
        exact hpositive side
      obtain ⟨c', hexec, hclaimed⟩ := claim_last hflavour hpays hmoves haccounted₁ hentitled₁
        (by rw [hcase₁, hother₁, hside]) (by rw [hcase₁]; exact markPaid_close_self) hpos₁
        hwilling₁ (msgOf side) (hcaller side)
      refine ⟨[claimOf (!side), claimOf side], c', ?_,
        run_cons_ok_iff.mpr ⟨c₁, hexec₁, run_cons_ok_iff.mpr ⟨c', hexec, rfl⟩⟩, hclaimed⟩
      rintro event hmem
      rcases List.mem_cons.mp hmem with rfl | hmem
      · exact ⟨rfl, rfl⟩
      · rw [List.mem_singleton.mp hmem]
        exact ⟨rfl, rfl⟩

/-- With a payout of zero, claims can pay all there is to pay without ending the
case. -/
theorem claims_exhaust (haccounted : (reserveOf terms c).Accounted) {side : Bool}
    (hstuck : (c.adapter.caseByRun runId).Stuck side) (hwilling : Willing env terms c runId)
    (hcaller : ∀ holderIsA, caller holderIsA ≠ terms.adapter) :
    ∃ (claims : List (Event W R)) (c' : Chain W),
      (∀ event ∈ claims, event.Claims caller runId) ∧
      run (exec env terms flavour) c claims = .ok c' ∧ (c'.adapter.caseByRun runId).AllPaid := by
  by_cases hdone : (c.adapter.caseByRun runId).AllPaid
  · exact ⟨[], c, (fun _ hmem => nomatch hmem), rfl, hdone⟩
  · obtain ⟨other, hunpaid⟩ := not_forall.mp hdone
    obtain ⟨hpos, hunpaid⟩ := Classical.not_imp.mp hunpaid
    have hside : other = !side := by
      cases other <;> cases side <;> first | rfl | exact absurd hstuck.worthless hpos
    subst hside
    obtain ⟨c', hexec, hcase, -, -⟩ := claim_pays hflavour hpays hmoves haccounted hstuck.entitled
      (Bool.not_eq_true _ ▸ hunpaid) hpos hwilling ⟨caller (!side), 0, 0⟩ (hcaller (!side))
    refine ⟨[.call ⟨caller (!side), 0, 0⟩ (.claim runId (!side))], c', ?_,
      run_cons_ok_iff.mpr ⟨c', hexec, rfl⟩, fun holderIsA hpositive => ?_⟩
    · rintro event hmem
      rw [List.mem_singleton.mp hmem]
      exact ⟨rfl, rfl⟩
    · rw [hcase, (markPaid_close_terms holderIsA).2] at hpositive
      have hholder : holderIsA = !side := by
        cases holderIsA <;> cases side <;> first | rfl | exact absurd hstuck.worthless hpositive
      rw [hholder, hcase]
      exact markPaid_close_self

theorem run_completes (hrun : run (exec env terms flavour) (deployed token world) events = .ok c)
    (hentitled : (c.adapter.caseByRun runId).state = .entitled)
    (hwilling : Willing env terms c runId) :
    CompletesIff env terms flavour c runId (c.adapter.caseByRun runId).BothPositive := by
  intro caller hcaller
  have haccounted := run_accounted hmoves hrun
  have hfile := run_filed hflavour hrun runId
  have hfinish := fun hpositive => claims_finish hflavour hpays hmoves haccounted ⟨_, hfile⟩
    hentitled hpositive hwilling hcaller
  have hnever : ¬ (c.adapter.caseByRun runId).BothPositive → ∀ claims c',
      run (exec env terms flavour) c claims = .ok c' →
        (c'.adapter.caseByRun runId).state ≠ .claimed := by
    intro hzero claims c' hclaims hclaimed
    obtain ⟨side, hstuck⟩ := hfile.stuck hentitled hzero
    have hstill := (run_stuck hflavour hclaims hstuck).entitled
    rw [hclaimed] at hstill
    exact nomatch hstill
  refine ⟨⟨fun hends => ?_, fun hpositive claims c' _ hclaims hpaid => ?_⟩,
    ⟨fun ⟨claims, c', _, hclaims, hclaimed⟩ => ?_, hfinish⟩⟩
  · by_contra hzero
    obtain ⟨side, hstuck⟩ := hfile.stuck hentitled hzero
    obtain ⟨claims, c', hare, hclaims, hpaid⟩ :=
      claims_exhaust hflavour hpays hmoves haccounted hstuck hwilling hcaller
    exact hnever hzero claims c' hclaims (hends claims c' hare hclaims hpaid)
  · obtain ⟨hlate, hpayouts⟩ := run_payouts hflavour hclaims (.inl hentitled)
    rcases hlate with hstill | hclaimed
    · -- an entitled case has an unpaid side, and both sides are worth something
      have hfile' := run_filed hflavour (run_append_ok_iff.mpr ⟨c, hrun, hclaims⟩) runId
      have hall : ∀ side, (c'.adapter.caseByRun runId).paid side = true := fun side =>
        hpaid side (by rw [hpayouts side]; exact hpositive side)
      exact nomatch (hall false).symm.trans (hfile'.paid_pos hstill (hall true)).2
    · exact hclaimed
  · by_contra hzero
    exact hnever hzero claims c' hclaims hclaimed

end

section

variable {W : Type} {crypto : Crypto} {env : Externals W}

theorem governed_pays (terms : AdapterTerms) : (governed crypto env terms).Pays env terms := by
  intro c runId holderIsA haccounted hentitled hunpaid hpos hwilling
  change ∃ c', governedClaim env terms c runId holderIsA = .ok c'
  exact claimThrough_ok haccounted hentitled hunpaid hpos hwilling rfl

theorem coalition_pays (terms : CoalitionTerms) :
    (coalition crypto env terms).Pays env terms.toAdapterTerms := by
  intro c runId holderIsA haccounted hentitled hunpaid hpos hwilling
  change ∃ c', coalitionClaim env terms.toAdapterTerms c runId holderIsA = .ok c'
  refine claimThrough_ok haccounted hentitled hunpaid hpos hwilling ?_
  rw [revertIf_ok_iff, hwilling.allowed holderIsA]
  decide

/-- **Completion.** In every state either adapter reaches, an entitled case
completes if and only if both of its payouts are positive. -/
theorem completion_iff (crypto : Crypto) (env : Externals W) :
    (∀ terms token events c runId, GovernedReaches crypto env terms token events c →
      (c.adapter.caseByRun runId).state = .entitled → Willing env terms c runId →
      CompletesIff env terms (governed crypto env terms) c runId
        (c.adapter.caseByRun runId).BothPositive) ∧
    (∀ terms token events c runId, CoalitionReaches crypto env terms token events c →
      (c.adapter.caseByRun runId).state = .entitled → Willing env terms.toAdapterTerms c runId →
      CompletesIff env terms.toAdapterTerms (coalition crypto env terms) c runId
        (c.adapter.caseByRun runId).BothPositive) := by
  constructor
  · rintro terms token events c runId ⟨-, world, hrun⟩ hentitled hwilling
    exact run_completes (governed_files terms) (governed_pays terms) (governed_moves terms) hrun
      hentitled hwilling
  · rintro terms token events c runId ⟨-, world, hrun⟩ hentitled hwilling
    exact run_completes (coalition_files terms) (coalition_pays terms) (coalition_moves terms) hrun
      hentitled hwilling

end

/-! ## Sample cases

A case with payouts of thirty and twenty after the first has been claimed, and a
lopsided one that pays the first holder nothing, after the second has been
claimed. -/

section

variable {W R : Type} {crypto : Crypto} {env : Externals W} {terms : AdapterTerms}
variable {flavour : Flavour W R} {accepted : W → R → AcceptedRelease} {c c' : Chain W}

/-- A call creates no tokens and destroys none. -/
theorem exec_supply (hflavour : flavour.Files crypto env terms accepted) {msg : Msg}
    {call : Call R} (hexec : exec env terms flavour c (.call msg call) = .ok c') :
    ∑ account, c'.token.balanceOf account = ∑ account, c.token.balanceOf account := by
  cases (exec_filed hflavour hexec).2 with
  | claim hmove | withdraw _ hmove | fund _ hmove =>
      obtain ⟨hcovered, hafter⟩ := Ledger.move_eq_some hmove
      rw [hafter, sum_moved _ _ hcovered]
  | still htoken => rw [htoken]

theorem run_supply (hflavour : flavour.Files crypto env terms accepted)
    {events : List (Event W R)} (hrun : run (exec env terms flavour) c events = .ok c')
    (hcalls : ∀ event ∈ events, ∃ msg call, event = .call msg call) :
    ∑ account, c'.token.balanceOf account = ∑ account, c.token.balanceOf account := by
  refine run_invariant (P := fun c' : Chain W => ∑ account, c'.token.balanceOf account =
    ∑ account, c.token.balanceOf account) ?_ hrun hcalls rfl
  rintro c₁ event c₂ ⟨msg, call, rfl⟩ hsupply hexec
  exact (exec_supply hflavour hexec).trans hsupply

end

namespace Sample

/-- One account owns every token there is. -/
def purse : Ledger Address 256 where
  balanceOf := Function.update (fun _ => 0) 0x30 1000
  fits account := by
    by_cases h : account = 0x30
    · rw [h, update_self]
      decide
    · rw [update_of_ne h]
      decide

def lopsided : GovernedRelease := { release with payoutA := 0, payoutB := 5 }

def lopsidedEvents : List (Event Unit GovernedRelease) :=
  [.call ⟨0x30, 5, 1⟩ (.fundReserve 100),
    .call ⟨0x30, 6, 2⟩ (.consumeRelease lopsided (List.replicate 65 0)),
    .call ⟨0x31, 20, 3⟩ (.finalize 7),
    .call ⟨0x21, 21, 4⟩ (.claim 7 false)]

theorem run_such {R : Type} (terms : AdapterTerms) (flavour : Flavour Unit R)
    (events : List (Event Unit R)) (holds : Chain Unit → Bool)
    (hcommits : (run (exec env terms flavour) (deployed purse ()) events).toOption.any holds =
      true) :
    ∃ c, run (exec env terms flavour) (deployed purse ()) events = .ok c ∧ holds c = true :=
  any_ok_iff.mp hcommits

theorem willing {R : Type} {flavour : Flavour Unit R} {terms : AdapterTerms}
    {accepted : Unit → R → AcceptedRelease} (hflavour : flavour.Files crypto env terms accepted)
    {release : R} {c : Chain Unit}
    (hrun : run (exec env terms flavour) (deployed purse ()) (events release) = .ok c)
    (runId : Bytes32) : Willing env terms c runId where
  eligible _ := rfl
  allowed _ := rfl
  accepted _ := rfl
  supply := by
    have hcalls : ∀ event ∈ events release, ∃ msg call, event = .call msg call := by
      simp [events]
    have htotal : ∑ account, (deployed (W := Unit) purse ()).token.balanceOf account = 1000 :=
      sum_update_zero 0x30 1000
    rw [run_supply hflavour hrun hcalls, htotal]
    decide

end Sample

/-- With both payouts positive the rest of the sample case can be claimed, on
either adapter. -/
theorem completion_sample :
    (∃ c, GovernedReaches Sample.crypto Sample.env Sample.terms Sample.purse
        (Sample.events Sample.release) c ∧
      CompletesIff Sample.env Sample.terms (governed Sample.crypto Sample.env Sample.terms) c 7
        (c.adapter.caseByRun 7).BothPositive) ∧
    (∃ c, CoalitionReaches Sample.crypto Sample.env Sample.coalitionTerms Sample.purse
        (Sample.events Sample.coalitionRelease) c ∧
      CompletesIff Sample.env Sample.coalitionTerms.toAdapterTerms
        (coalition Sample.crypto Sample.env Sample.coalitionTerms) c 7
        (c.adapter.caseByRun 7).BothPositive) := by
  obtain ⟨c, hrun, hstate⟩ := Sample.run_such Sample.terms
    (governed Sample.crypto Sample.env Sample.terms) (Sample.events Sample.release)
    (fun c => decide ((c.adapter.caseByRun 7).state = .entitled)) (by decide +kernel)
  obtain ⟨c', hrun', hstate'⟩ := Sample.run_such Sample.coalitionTerms.toAdapterTerms
    (coalition Sample.crypto Sample.env Sample.coalitionTerms)
    (Sample.events Sample.coalitionRelease)
    (fun c => decide ((c.adapter.caseByRun 7).state = .entitled)) (by decide +kernel)
  obtain ⟨hgoverned, hcoalition⟩ := completion_iff Sample.crypto Sample.env
  have hreach : GovernedReaches Sample.crypto Sample.env Sample.terms Sample.purse
      (Sample.events Sample.release) c := ⟨rfl, (), hrun⟩
  have hreach' : CoalitionReaches Sample.crypto Sample.env Sample.coalitionTerms Sample.purse
      (Sample.events Sample.coalitionRelease) c' := ⟨rfl, (), hrun'⟩
  exact ⟨⟨c, hreach, hgoverned _ _ _ _ _ hreach (of_decide_eq_true hstate)
      (Sample.willing (governed_files _) hrun 7)⟩,
    c', hreach', hcoalition _ _ _ _ _ hreach' (of_decide_eq_true hstate')
      (Sample.willing (coalition_files _) hrun' 7)⟩

/-- A zero payout leaves a case entitled after everything has been paid, and no
continuation of the run ends it. -/
theorem completion_blocked :
    ∃ c, GovernedReaches Sample.crypto Sample.env Sample.terms Sample.purse
        Sample.lopsidedEvents c ∧
      (c.adapter.caseByRun 7).state = .entitled ∧ (c.adapter.caseByRun 7).AllPaid ∧
      ∀ more c', run (exec Sample.env Sample.terms
          (governed Sample.crypto Sample.env Sample.terms)) c more = .ok c' →
        (c'.adapter.caseByRun 7).state ≠ .claimed := by
  obtain ⟨c, hrun, hholds⟩ := Sample.run_such Sample.terms
    (governed Sample.crypto Sample.env Sample.terms) Sample.lopsidedEvents
    (fun c => decide ((c.adapter.caseByRun 7).state = .entitled ∧
      (c.adapter.caseByRun 7).payoutA = 0 ∧ (c.adapter.caseByRun 7).paidA = false ∧
      (c.adapter.caseByRun 7).paidB = true)) (by decide +kernel)
  obtain ⟨hentitled, hzero, hunpaid, hpaid⟩ := of_decide_eq_true hholds
  refine ⟨c, ⟨rfl, (), hrun⟩, hentitled, fun holderIsA hpos => ?_, fun more c' hmore hclaimed => ?_⟩
  · cases holderIsA with
    | true => exact absurd hzero hpos
    | false => exact hpaid
  · have hstuck : (c.adapter.caseByRun 7).Stuck true := ⟨hentitled, hzero, hunpaid⟩
    have hstill := (run_stuck (governed_files _) hmore hstuck).entitled
    rw [hclaimed] at hstill
    exact nomatch hstill

end Mordant.Recourse
