/-
# Reserve accounting of the adapters

Every committed event of either adapter is a move of its reserve, so the
accounting holds in every state a run reaches.  Then no call faults on a
subtraction: the only arithmetic faults left are additions whose operands the
caller chose.
-/

import Mordant.Recourse.Reserve

namespace Mordant.Recourse

open Evm Foundation

section

variable (s : AdapterState) (log : Log)

theorem totalFunded_emit : (s.emit log).totalFunded = s.totalFunded + log.funded := by
  simp only [AdapterState.emit, AdapterState.totalFunded, List.map_cons, List.sum_cons]
  exact Nat.add_comm _ _

theorem totalWithdrawn_emit : (s.emit log).totalWithdrawn = s.totalWithdrawn + log.withdrawn := by
  simp only [AdapterState.emit, AdapterState.totalWithdrawn, List.map_cons, List.sum_cons]
  exact Nat.add_comm _ _

theorem totalClaimed_emit : (s.emit log).totalClaimed = s.totalClaimed + log.paid := by
  simp only [AdapterState.emit, AdapterState.totalClaimed, List.map_cons, List.sum_cons]
  exact Nat.add_comm _ _

end

section

variable {W R : Type} {env : Externals W} {terms : AdapterTerms} {c c' : Chain W} {msg : Msg}
  {token : Ledger Address 256}

/-- Emitting an event adds its amounts to the totals. -/
theorem reserveOf_emit {s : AdapterState} {world : W} {log : Log} :
    reserveOf terms ⟨s.emit log, token, world⟩ =
      { reserveOf terms ⟨s, token, world⟩ with
        funded := s.totalFunded + log.funded
        withdrawn := s.totalWithdrawn + log.withdrawn
        claimed := s.totalClaimed + log.paid } := by
  rw [reserveOf, totalFunded_emit, totalWithdrawn_emit, totalClaimed_emit]
  rfl

/-- Most events carry no total. -/
theorem reserveOf_emit_silent {s : AdapterState} {world : W} {log : Log} (hfunded : log.funded = 0)
    (hwithdrawn : log.withdrawn = 0) (hpaid : log.paid = 0) :
    reserveOf terms ⟨s.emit log, token, world⟩ = reserveOf terms ⟨s, token, world⟩ := by
  rw [reserveOf_emit, hfunded, hwithdrawn, hpaid]
  rfl

theorem settle_ok {source target : Address} {amount : ℕ}
    (h : settle env c source target amount = .ok c') :
    ∃ token, c.token.move source target amount = some token ∧ c' = { c with token := token } := by
  simp only [settle, bind_ok_iff, revertIf_ok_iff, require_ok_iff, pure_ok_iff] at h
  obtain ⟨-, -, token, hmove, rfl⟩ := h
  exact ⟨token, hmove, rfl⟩

theorem fundReserve_step (hself : msg.sender ≠ terms.adapter) {amount : ℕ}
    (h : fundReserve env terms c msg amount = .ok c') :
    Reserve.Step (reserveOf terms c) (reserveOf terms c') := by
  simp only [fundReserve, bind_ok_iff, revertIf_ok_iff, checkedAdd_ok_iff, pure_ok_iff] at h
  obtain ⟨-, -, available, ⟨-, rfl⟩, c₁, hsettle, rfl⟩ := h
  obtain ⟨token, hmove, rfl⟩ := settle_ok hsettle
  have hbalance := Ledger.move_in hself hmove
  have hstep := Reserve.Step.fund (reserveOf terms c) amount
  rw [reserveOf_emit]
  simp only [reserveOf, hbalance] at hstep ⊢
  exact hstep

theorem withdrawAvailable_step {target : Address} {amount : ℕ}
    (h : withdrawAvailable env terms c msg target amount = .ok c') :
    Reserve.Step (reserveOf terms c) (reserveOf terms c') := by
  simp only [withdrawAvailable, bind_ok_iff, revertIf_ok_iff, checkedSub_ok_iff,
    pure_ok_iff] at h
  obtain ⟨-, -, -, -, -, -, -, -, available, ⟨hcovered, rfl⟩, c₁, hsettle, rfl⟩ := h
  obtain ⟨token, hmove, rfl⟩ := settle_ok hsettle
  rw [reserveOf_emit]
  exact Reserve.Step.withdraw (reserveOf terms c) amount (token.balanceOf terms.adapter) hcovered
    (Ledger.le_move_add hmove terms.adapter)

/-- The second write to a new case replaces the first. -/
theorem markConsumed_setCase (s : AdapterState) (r : AcceptedRelease) (entry : Case) :
    Function.update (markConsumed s r).caseByRun r.runId entry =
      Function.update s.caseByRun r.runId entry := by
  simp only [markConsumed, AdapterState.setCase, Function.update_idem]

theorem refuseCase_step {r : AcceptedRelease}
    (hnew : (c.adapter.caseByRun r.runId).state = .none) (h : refuseCase c r = .ok c') :
    Reserve.Step (reserveOf terms c) (reserveOf terms c') := by
  simp only [refuseCase, bind_ok_iff, revertIf_ok_iff, pure_ok_iff] at h
  obtain ⟨-, -, rfl⟩ := h
  rw [reserveOf_emit_silent rfl rfl rfl, reserveOf_emit_silent rfl rfl rfl]
  simp only [reserveOf, AdapterState.setCase, markConsumed_setCase]
  exact Reserve.Step.refuse (reserveOf terms c) r.runId
    { (markConsumed c.adapter r).caseByRun r.runId with state := .refused } hnew rfl

theorem openCase_step {r : AcceptedRelease}
    (hnew : (c.adapter.caseByRun r.runId).state = .none) (h : openCase terms c msg r = .ok c') :
    Reserve.Step (reserveOf terms c) (reserveOf terms c') := by
  simp only [openCase, bind_ok_iff, revertIf_ok_iff, checkedAdd_ok_iff, checkedSub_ok_iff,
    pure_ok_iff] at h
  obtain ⟨-, -, total, ⟨-, rfl⟩, -, -, -, -, available, ⟨hcovered, rfl⟩, reserved, ⟨-, rfl⟩,
    deadline, -, rfl⟩ := h
  have hentry : (markConsumed c.adapter r).caseByRun r.runId =
      { c.adapter.caseByRun r.runId with holderA := r.holderA, holderB := r.holderB } :=
    Function.update_self _ _ _
  rw [reserveOf_emit_silent rfl rfl rfl, reserveOf_emit_silent rfl rfl rfl]
  simp only [reserveOf, AdapterState.setCase, markConsumed_setCase, hentry]
  exact Reserve.Step.openCase (reserveOf terms c) r.runId
    { c.adapter.caseByRun r.runId with
      state := .cureOpen
      cureDeadline := deadline
      holderA := r.holderA
      holderB := r.holderB
      payoutA := r.payoutA.toNat
      payoutB := r.payoutB.toNat } hnew rfl rfl rfl hcovered

theorem recordRelease_step {r : AcceptedRelease}
    (hnew : (c.adapter.caseByRun r.runId).state = .none)
    (h : recordRelease terms c msg r = .ok c') :
    Reserve.Step (reserveOf terms c) (reserveOf terms c') := by
  unfold recordRelease at h
  split at h
  · exact openCase_step hnew h
  · exact refuseCase_step hnew h

theorem cure_step {runId : Bytes32} (h : cure env terms c msg runId = .ok c') :
    Reserve.Step (reserveOf terms c) (reserveOf terms c') := by
  simp only [cure, bind_ok_iff, revertIf_ok_iff, checkedAdd_ok_iff, checkedSub_ok_iff,
    pure_ok_iff, not_not] at h
  obtain ⟨-, -, -, -, -, hopen, -, -, released, ⟨-, rfl⟩, reserved, ⟨hcovered, rfl⟩, available,
    ⟨-, rfl⟩, rfl⟩ := h
  rw [reserveOf_emit_silent rfl rfl rfl]
  exact Reserve.Step.cure (reserveOf terms c) runId hopen hcovered

theorem finalize_step {runId : Bytes32} (h : finalize c msg runId = .ok c') :
    Reserve.Step (reserveOf terms c) (reserveOf terms c') := by
  simp only [finalize, bind_ok_iff, revertIf_ok_iff, checkedAdd_ok_iff, checkedSub_ok_iff,
    pure_ok_iff, not_not] at h
  obtain ⟨-, hopen, -, -, amount, ⟨-, rfl⟩, reserved, ⟨hcovered, rfl⟩, unpaid, ⟨-, rfl⟩, rfl⟩ := h
  rw [reserveOf_emit_silent rfl rfl rfl]
  exact Reserve.Step.finalize (reserveOf terms c) runId hopen hcovered

theorem claimThrough_step {gate : Address → ℕ → Except AdapterError Unit} {runId : Bytes32}
    {holderIsA : Bool} (h : claimThrough env terms c gate runId holderIsA = .ok c') :
    Reserve.Step (reserveOf terms c) (reserveOf terms c') := by
  simp only [claimThrough, bind_ok_iff, revertIf_ok_iff, checkedSub_ok_iff, pure_ok_iff,
    not_not, Bool.not_eq_true] at h
  obtain ⟨-, hentitled, -, hunpaid, -, -, -, -, -, -, unpaid, ⟨hcovered, rfl⟩, c₁, hsettle,
    rfl⟩ := h
  obtain ⟨token, hmove, rfl⟩ := settle_ok hsettle
  rw [reserveOf_emit]
  exact Reserve.Step.claim (reserveOf terms c) runId holderIsA (token.balanceOf terms.adapter)
    hentitled hunpaid hcovered (Ledger.le_move_add hmove terms.adapter)

/-- What the shared run needs to know of the two functions that are not shared. -/
structure Flavour.Moves (flavour : Flavour W R) (terms : AdapterTerms) : Prop where
  consumeRelease : ∀ {c c' : Chain W} {msg release signature},
    flavour.consumeRelease c msg release signature = .ok c' →
      Reserve.Step (reserveOf terms c) (reserveOf terms c')
  claim : ∀ {c c' : Chain W} {runId holderIsA},
    flavour.claim c runId holderIsA = .ok c' →
      Reserve.Step (reserveOf terms c) (reserveOf terms c')

/-- **Every committed event is a move of the reserve.** -/
theorem exec_step {flavour : Flavour W R} (hflavour : flavour.Moves terms) {event : Event W R}
    (h : exec env terms flavour c event = .ok c') :
    Reserve.Step (reserveOf terms c) (reserveOf terms c') := by
  cases event with
  | outside token world =>
      simp only [exec, bind_ok_iff, revertIf_ok_iff, pure_ok_iff, not_lt] at h
      obtain ⟨-, hbalance, rfl⟩ := h
      exact Reserve.Step.receive (reserveOf terms c) _ hbalance
  | call msg call =>
      simp only [exec, bind_ok_iff, revertIf_ok_iff] at h
      obtain ⟨-, hself, hcall⟩ := h
      cases call with
      | fundReserve amount => exact fundReserve_step hself hcall
      | withdrawAvailable target amount => exact withdrawAvailable_step hcall
      | consumeRelease release signature => exact hflavour.consumeRelease hcall
      | cure runId => exact cure_step hcall
      | finalize runId => exact finalize_step hcall
      | claim runId holderIsA => exact hflavour.claim hcall

theorem deployed_accounted (token : Ledger Address 256) (world : W) :
    (reserveOf terms (deployed token world)).Accounted where
  unstarted _ _ := ⟨rfl, rfl⟩
  reserved_eq := Finset.sum_const_zero.symm
  unpaid_eq := Finset.sum_const_zero.symm
  totals := rfl
  backed := Nat.zero_le _

/-- The accounting holds after every run. -/
theorem run_accounted {flavour : Flavour W R} (hflavour : flavour.Moves terms) {world : W}
    {events : List (Event W R)}
    (hrun : run (exec env terms flavour) (deployed token world) events = .ok c) :
    (reserveOf terms c).Accounted :=
  run_always (P := fun c => (reserveOf terms c).Accounted)
    (fun _ _ _ haccounted hexec => (exec_step hflavour hexec).keeps haccounted) hrun
    (deployed_accounted token world)

end

/-! ## Arithmetic faults -/

section

variable {W R : Type} {env : Externals W} {terms : AdapterTerms} {c c' : Chain W} {msg : Msg}

/-- The additions whose operands the caller chose. -/
def Call.Overflows (terms : AdapterTerms) (due : R → ℕ) (c : Chain W) (msg : Msg) : Call R → Prop
  | .fundReserve amount => 2 ^ 256 ≤ c.adapter.availableReserve + amount.toNat
  | .consumeRelease release _ =>
      2 ^ 256 ≤ due release ∨ 2 ^ 64 ≤ toUint64 msg.timestamp + terms.cureWindow.toNat
  | _ => False

theorem settle_ne_panic {source target : Address} {amount : ℕ} :
    settle env c source target amount ≠ .error .panic := by
  intro h
  simp only [settle, bind_error_iff, revertIf_error_iff, reduceCtorEq, and_false, false_or,
    pure_ne_error, exists_false, or_false] at h
  obtain ⟨-, -, hmove⟩ := h
  cases hledger : c.token.move source target amount with
  | none =>
      rw [hledger] at hmove
      cases hmove
  | some token =>
      rw [hledger] at hmove
      cases hmove

theorem fundReserve_panic {amount : ℕ} (h : fundReserve env terms c msg amount = .error .panic) :
    2 ^ 256 ≤ c.adapter.availableReserve + amount := by
  simp only [fundReserve, bind_error_iff, revertIf_error_iff, checkedAdd_error_iff,
    reduceCtorEq, and_false, false_or, pure_ne_error, exists_false, or_false, not_lt] at h
  obtain ⟨-, -, ⟨hover, -⟩ | ⟨_, -, hsettle⟩⟩ := h
  · exact hover
  · exact (settle_ne_panic hsettle).elim

theorem withdrawAvailable_ne_panic {target : Address} {amount : ℕ} :
    withdrawAvailable env terms c msg target amount ≠ .error .panic := by
  intro h
  simp only [withdrawAvailable, bind_error_iff, revertIf_error_iff, revertIf_ok_iff,
    checkedSub_error_iff, reduceCtorEq, and_false, false_or, pure_ne_error, exists_false, or_false,
    not_lt] at h
  obtain ⟨-, -, -, -, -, -, -, hcovered, ⟨hunder, -⟩ | ⟨_, -, hsettle⟩⟩ := h
  · exact hunder hcovered
  · exact settle_ne_panic hsettle

/-- The buckets fit a word together, because the balance does. -/
theorem buckets_lt (h : (reserveOf terms c).Accounted) :
    c.adapter.availableReserve + c.adapter.openReserved + c.adapter.entitledUnpaid < 2 ^ 256 :=
  lt_of_le_of_lt h.backed (c.token.fits terms.adapter)

theorem cure_ne_panic (haccounted : (reserveOf terms c).Accounted) {runId : Bytes32} :
    cure env terms c msg runId ≠ .error .panic := by
  intro h
  simp only [cure, requireEligible, bind_error_iff, revertIf_error_iff, revertIf_ok_iff,
    checkedAdd_error_iff, checkedAdd_ok_iff, checkedSub_error_iff, checkedSub_ok_iff, reduceCtorEq,
    and_false, false_or, pure_ne_error, exists_false, or_false, not_not] at h
  obtain ⟨-, -, -, -, -, hopen, -, -, hfault⟩ := h
  have hbuckets := buckets_lt haccounted
  have hheld : (c.adapter.caseByRun runId).payoutA + (c.adapter.caseByRun runId).payoutB ≤
      c.adapter.openReserved := haccounted.open_le hopen
  rcases hfault with ⟨hover, -⟩ | ⟨released, ⟨-, rfl⟩, ⟨hunder, -⟩ | ⟨-, -, hover, -⟩⟩ <;> omega

theorem finalize_ne_panic (haccounted : (reserveOf terms c).Accounted) {runId : Bytes32} :
    finalize c msg runId ≠ .error .panic := by
  intro h
  simp only [finalize, bind_error_iff, revertIf_error_iff, revertIf_ok_iff, checkedAdd_error_iff,
    checkedAdd_ok_iff, checkedSub_error_iff, checkedSub_ok_iff, reduceCtorEq, and_false, false_or,
    pure_ne_error, exists_false, or_false, not_not] at h
  obtain ⟨-, hopen, -, -, hfault⟩ := h
  have hbuckets := buckets_lt haccounted
  have hheld : (c.adapter.caseByRun runId).payoutA + (c.adapter.caseByRun runId).payoutB ≤
      c.adapter.openReserved := haccounted.open_le hopen
  rcases hfault with ⟨hover, -⟩ | ⟨amount, ⟨-, rfl⟩, ⟨hunder, -⟩ | ⟨-, -, hover, -⟩⟩ <;> omega

theorem claimThrough_ne_panic (haccounted : (reserveOf terms c).Accounted)
    {gate : Address → ℕ → Except AdapterError Unit}
    (hgate : ∀ holder amount, gate holder amount ≠ .error .panic) {runId : Bytes32}
    {holderIsA : Bool} : claimThrough env terms c gate runId holderIsA ≠ .error .panic := by
  intro h
  simp only [claimThrough, requireEligible, bind_error_iff, revertIf_error_iff, revertIf_ok_iff,
    checkedSub_error_iff, reduceCtorEq, and_false, false_or, pure_ne_error, exists_false, or_false,
    not_not, Bool.not_eq_true, hgate] at h
  obtain ⟨-, hentitled, -, hunpaid, -, -, -, -, -, -, ⟨hunder, -⟩ | ⟨_, -, hsettle⟩⟩ := h
  · apply hunder
    exact (Reserve.payout_le_unpaidAmount hentitled hunpaid).trans (haccounted.unpaid_le runId)
  · exact settle_ne_panic hsettle

theorem recordRelease_panic (haccounted : (reserveOf terms c).Accounted) {r : AcceptedRelease}
    (h : recordRelease terms c msg r = .error .panic) :
    2 ^ 256 ≤ r.payoutA.toNat + r.payoutB.toNat ∨
      2 ^ 64 ≤ toUint64 msg.timestamp + terms.cureWindow.toNat := by
  unfold recordRelease at h
  split at h
  · simp only [openCase, bind_error_iff, revertIf_error_iff, revertIf_ok_iff, checkedAdd_error_iff,
      checkedAdd_ok_iff, checkedSub_error_iff, checkedSub_ok_iff, reduceCtorEq, and_false, false_or,
      pure_ne_error, exists_false, or_false, not_lt] at h
    obtain ⟨-, -, ⟨hover, -⟩ | ⟨total, ⟨-, rfl⟩, -, -, -, hcovered, hfault⟩⟩ := h
    · exact .inl hover
    · have hbuckets := buckets_lt haccounted
      have havailable : (markConsumed c.adapter r).availableReserve =
          c.adapter.availableReserve := rfl
      have hreserved : (markConsumed c.adapter r).openReserved = c.adapter.openReserved := rfl
      rcases hfault with ⟨hunder, -⟩ | ⟨-, -, ⟨hover, -⟩ | ⟨-, -, hover, -⟩⟩
      · omega
      · omega
      · exact .inr hover
  · simp only [refuseCase, bind_error_iff, revertIf_error_iff, reduceCtorEq, and_false,
      pure_ne_error, exists_false, or_false] at h

/-- The faults of the two functions that are not shared. -/
structure Flavour.Faults (flavour : Flavour W R) (terms : AdapterTerms) (due : R → ℕ) : Prop where
  consumeRelease : ∀ {c : Chain W} {msg release signature}, (reserveOf terms c).Accounted →
    flavour.consumeRelease c msg release signature = .error .panic →
      2 ^ 256 ≤ due release ∨ 2 ^ 64 ≤ toUint64 msg.timestamp + terms.cureWindow.toNat
  claim : ∀ {c : Chain W} {runId holderIsA}, (reserveOf terms c).Accounted →
    flavour.claim c runId holderIsA ≠ .error .panic

/-- **No subtraction underflows.** Every arithmetic fault is an addition on
operands the caller chose. -/
theorem Call.perform_panic {flavour : Flavour W R} {due : R → ℕ}
    (hflavour : flavour.Faults terms due) (haccounted : (reserveOf terms c).Accounted)
    {call : Call R} (h : call.perform env terms flavour c msg = .error .panic) :
    call.Overflows terms due c msg := by
  cases call with
  | fundReserve amount => exact fundReserve_panic h
  | withdrawAvailable target amount => exact (withdrawAvailable_ne_panic h).elim
  | consumeRelease release signature => exact hflavour.consumeRelease haccounted h
  | cure runId => exact (cure_ne_panic haccounted h).elim
  | finalize runId => exact (finalize_ne_panic haccounted h).elim
  | claim runId holderIsA => exact (hflavour.claim haccounted h).elim

end

section

variable {W : Type} {crypto : Crypto} {env : Externals W}

section

variable {terms : AdapterTerms} {c c' : Chain W} {msg : Msg} {digest : Bytes32} {signature : Bytes}
  {r : AcceptedRelease} {check : Except AdapterError Unit}

/-- An accepted consumption has passed its field checks, of which those of the run and of the
result come first, and its attestation, and is recorded. -/
theorem consumption_ok {p q : Prop} [Decidable p] [Decidable q] {thrown thrown' : AdapterError}
    (h : ((do revertIf p thrown; revertIf q thrown'; check) >>= fun _ =>
      requireAttested crypto terms c digest signature >>= fun _ => recordRelease terms c msg r) =
        .ok c') :
    ¬ p ∧ ¬ q ∧ requireAttested crypto terms c digest signature = .ok () ∧
      recordRelease terms c msg r = .ok c' := by
  obtain ⟨_, hfields, hrest⟩ := bind_ok_iff.mp h
  obtain ⟨_, hattested, hrecord⟩ := bind_ok_iff.mp hrest
  obtain ⟨hnew, hlater⟩ := revertIf_bind_ok_iff.mp hfields
  exact ⟨hnew, (revertIf_bind_ok_iff.mp hlater).1, hattested, hrecord⟩

end

theorem governed_moves (terms : AdapterTerms) : (governed crypto env terms).Moves terms where
  consumeRelease {c c' msg release signature} h := by
    obtain ⟨hnew, -, -, hrecord⟩ := consumption_ok h
    exact recordRelease_step (not_not.mp hnew) hrecord
  claim {c c' runId holderIsA} h := by
    change governedClaim env terms c runId holderIsA = .ok c' at h
    exact claimThrough_step h

theorem coalition_moves (terms : CoalitionTerms) :
    (coalition crypto env terms).Moves terms.toAdapterTerms where
  consumeRelease {c c' msg release signature} h := by
    obtain ⟨hnew, -, -, hrecord⟩ := consumption_ok h
    exact recordRelease_step (not_not.mp hnew) hrecord
  claim {c c' runId holderIsA} h := by
    change coalitionClaim env terms.toAdapterTerms c runId holderIsA = .ok c' at h
    exact claimThrough_step h

/-- What a governed release would pay. -/
def GovernedRelease.due (r : GovernedRelease) : ℕ := r.payoutA.toNat + r.payoutB.toNat

/-- What a coalition release would pay. -/
def CoalitionRelease.due (r : CoalitionRelease) : ℕ := r.payoutA.toNat + r.payoutB.toNat

theorem requireAttested_ne_panic {terms : AdapterTerms} {c : Chain W} {digest : Bytes32}
    {signature : Bytes} : requireAttested crypto terms c digest signature ≠ .error .panic := by
  intro h
  simp only [requireAttested, bind_error_iff, revertIf_error_iff, reduceCtorEq, and_false,
    false_or, exists_false, or_false] at h
  obtain ⟨-, -, hrecover⟩ := h
  cases hrecovered : crypto.ecdsaRecover digest signature with
  | none =>
      rw [hrecovered] at hrecover
      cases hrecover
  | some signer =>
      rw [hrecovered] at hrecover
      cases hrecover

/-- A consumption faults where the release is recorded. -/
theorem consumption_panic {terms : AdapterTerms} {c : Chain W} {msg : Msg} {digest : Bytes32}
    {signature : Bytes} {r : AcceptedRelease} {check : Except AdapterError Unit}
    (hcheck : check ≠ .error .panic)
    (h : (check >>= fun _ => requireAttested crypto terms c digest signature >>= fun _ =>
      recordRelease terms c msg r) = .error .panic) :
    recordRelease terms c msg r = .error .panic := by
  rcases bind_error_iff.mp h with hfields | ⟨_, -, hrest⟩
  · exact (hcheck hfields).elim
  · rcases bind_error_iff.mp hrest with hattested | ⟨_, -, hrecord⟩
    · exact (requireAttested_ne_panic hattested).elim
    · exact hrecord

theorem GovernedRelease.checkFields_ne_panic {terms : AdapterTerms} {c : Chain W} {msg : Msg}
    {r : GovernedRelease} : r.checkFields terms c msg ≠ .error .panic := by
  intro h
  simp only [checkFields, bind_error_iff, revertIf_error_iff, reduceCtorEq, and_false, false_or,
    exists_false] at h

theorem CoalitionRelease.checkFields_ne_panic {terms : CoalitionTerms} {c : Chain W} {msg : Msg}
    {r : CoalitionRelease} : r.checkFields terms c msg ≠ .error .panic := by
  intro h
  simp only [checkFields, bind_error_iff, revertIf_error_iff, reduceCtorEq, and_false, false_or,
    exists_false] at h

theorem governed_faults (terms : AdapterTerms) :
    (governed crypto env terms).Faults terms GovernedRelease.due where
  consumeRelease haccounted h :=
    recordRelease_panic haccounted (consumption_panic GovernedRelease.checkFields_ne_panic h)
  claim haccounted :=
    claimThrough_ne_panic haccounted (fun _ _ => pure_ne_error)

theorem coalition_faults (terms : CoalitionTerms) :
    (coalition crypto env terms).Faults terms.toAdapterTerms CoalitionRelease.due where
  consumeRelease haccounted h :=
    recordRelease_panic haccounted (consumption_panic CoalitionRelease.checkFields_ne_panic h)
  claim {c runId holderIsA} haccounted := by
    change coalitionClaim env terms.toAdapterTerms c runId holderIsA ≠ .error .panic
    refine claimThrough_ne_panic haccounted fun holder amount h => ?_
    exact absurd (revertIf_error_iff.mp h).2 (by simp)

end

/-! ## The accounting in the adapter's own terms -/

section

variable {W : Type}

/-- The figures of an adapter. `covered` holds for every payout that an entitled
case has not marked paid; the owner's withdrawals are among the runs. -/
structure ReserveAccounting (terms : AdapterTerms) (c : Chain W) : Prop where
  open_eq : c.adapter.openReserved = ∑ runId, (c.adapter.caseByRun runId).openAmount
  unpaid_eq : c.adapter.entitledUnpaid = ∑ runId, (c.adapter.caseByRun runId).unpaidAmount
  totals : c.adapter.availableReserve + c.adapter.openReserved + c.adapter.entitledUnpaid +
    c.adapter.totalClaimed + c.adapter.totalWithdrawn = c.adapter.totalFunded
  backed : c.adapter.availableReserve + c.adapter.openReserved + c.adapter.entitledUnpaid ≤
    c.token.balanceOf terms.adapter
  solvent : assertSolvency terms c = .ok ()
  covered : ∀ runId holderIsA, (c.adapter.caseByRun runId).state = .entitled →
    (c.adapter.caseByRun runId).paid holderIsA = false →
    (c.adapter.caseByRun runId).payout holderIsA ≤ c.adapter.entitledUnpaid

theorem assertSolvency_ok {terms : AdapterTerms} {c : Chain W}
    (h : (reserveOf terms c).Accounted) : assertSolvency terms c = .ok () := by
  have hbuckets := buckets_lt h
  have hbacked : c.adapter.availableReserve + c.adapter.openReserved +
    c.adapter.entitledUnpaid ≤ c.token.balanceOf terms.adapter := h.backed
  simp only [assertSolvency, solvent, bind_ok_iff, checkedAdd_ok_iff, pure_ok_iff,
    revertIf_ok_iff]
  refine ⟨true, ⟨_, ⟨by omega, rfl⟩, _, ⟨hbuckets, rfl⟩, ?_⟩, by decide⟩
  exact decide_eq_true hbacked

theorem reserveAccounting_of_accounted {terms : AdapterTerms} {c : Chain W}
    (h : (reserveOf terms c).Accounted) : ReserveAccounting terms c where
  open_eq := h.reserved_eq
  unpaid_eq := h.unpaid_eq
  totals := h.totals
  backed := h.backed
  solvent := assertSolvency_ok h
  covered runId _ hentitled hunpaid :=
    (Reserve.payout_le_unpaidAmount hentitled hunpaid).trans (h.unpaid_le runId)

/-- **Reserve accounting.** In every state either adapter reaches, the open and
the entitled bucket are the sums over the cases, the buckets and the totals
balance, the token balance covers all three buckets, and an arithmetic fault is
never an underflow. -/
theorem reserve_accounting (crypto : Crypto) (env : Externals W) :
    (∀ terms token events c, GovernedReaches crypto env terms token events c →
      ReserveAccounting terms c ∧
        ∀ msg call, Call.perform env terms (governed crypto env terms) c msg call =
            .error .panic → call.Overflows terms GovernedRelease.due c msg) ∧
    (∀ terms token events c, CoalitionReaches crypto env terms token events c →
      ReserveAccounting terms.toAdapterTerms c ∧
        ∀ msg call, Call.perform env terms.toAdapterTerms (coalition crypto env terms) c msg call =
            .error .panic → call.Overflows terms.toAdapterTerms CoalitionRelease.due c msg) := by
  constructor
  · rintro terms token events c ⟨-, world, hrun⟩
    have haccounted := run_accounted (governed_moves terms) hrun
    refine ⟨reserveAccounting_of_accounted haccounted, fun msg call hpanic => ?_⟩
    exact Call.perform_panic (governed_faults terms) haccounted hpanic
  · rintro terms token events c ⟨-, world, hrun⟩
    have haccounted := run_accounted (coalition_moves terms) hrun
    refine ⟨reserveAccounting_of_accounted haccounted, fun msg call hpanic => ?_⟩
    exact Call.perform_panic (coalition_faults terms) haccounted hpanic

end

/-! ## A sample run

A hundred is funded and ten withdrawn; one conflict reserves fifty, is not
cured, and the first holder claims thirty. -/

namespace Sample

def env : Externals Unit where
  chainId _ := 1
  isEligible _ _ _ := true
  isAssetTransferAllowed _ _ _ _ _ := true
  settlementAccepts _ _ _ _ := true

/-- Any digest does, and every signature is the attestor's. -/
def crypto : Crypto where
  keccak256 bytes := BitVec.ofNat 256 (bytes.length + 1)
  ecrecover _ _ _ _ := 0x12

def terms : AdapterTerms where
  adapter := 0x10
  deployedChainId := 1
  settlementToken := 0x18
  cviVerifier := 0x11
  attestor := 0x12
  facility := 0x13
  owner := 0x14
  assetIdentityDigest := 1
  expectedAuthorityId := 2
  releaseMode := 3
  circuitHash := 4
  parameterFingerprint := 5
  cureWindow := 10

def coalitionTerms : CoalitionTerms := { terms with requiredQuorum := 2 }

/-- Everybody but the adapter starts with a thousand. -/
def token : Ledger Address 256 where
  balanceOf account := if account = 0x10 then 0 else 1000
  fits account := by split <;> decide

def release : GovernedRelease where
  runId := 7
  fheCaseId := 0
  caseBindingDigest := 0
  assetIdentityDigest := 1
  governedResultDigest := 8
  resultCiphertextDigest := 0
  participantArtifactDigestA := 0
  participantArtifactDigestB := 0
  holderA := 0x20
  holderB := 0x21
  payoutA := 30
  payoutB := 20
  conflict := true
  releaseAuthorityId := 2
  releaseMode := 3
  circuitHash := 4
  parameterFingerprint := 5
  nonce := 1
  issuedAt := 0
  expiry := 50

def coalitionRelease : CoalitionRelease where
  runId := 7
  fheCaseId := 0
  caseBindingDigest := 0
  assetIdentityDigest := 1
  coalitionResultDigest := 8
  releaseTranscript := 9
  participantArtifactDigestA := 0
  participantArtifactDigestB := 0
  holderA := 0x20
  holderB := 0x21
  payoutA := 30
  payoutB := 20
  sameEconomicAsset := true
  policyConflict := true
  coalitionAuthorityId := 2
  servingQuorum := 3
  releaseMode := 3
  circuitHash := 4
  parameterFingerprint := 5
  nonce := 1
  issuedAt := 0
  expiry := 50

def events {R : Type} (release : R) : List (Event Unit R) :=
  [.call ⟨0x30, 5, 1⟩ (.fundReserve 100),
    .call ⟨0x30, 6, 2⟩ (.consumeRelease release (List.replicate 65 0)),
    .call ⟨0x14, 7, 3⟩ (.withdrawAvailable 0x14 10),
    .call ⟨0x31, 20, 4⟩ (.finalize 7),
    .call ⟨0x20, 21, 5⟩ (.claim 7 true)]

theorem governed_reaches :
    ∃ c, GovernedReaches crypto env terms token (events release) c := by
  have hcommits : (run (exec env terms (governed crypto env terms)) (deployed token ())
      (events release)).toBool = true := by
    decide +kernel
  obtain ⟨c, hrun⟩ := toBool_eq_true_iff.mp hcommits
  exact ⟨c, rfl, (), hrun⟩

theorem coalition_reaches :
    ∃ c, CoalitionReaches crypto env coalitionTerms token (events coalitionRelease) c := by
  have hcommits : (run (exec env coalitionTerms.toAdapterTerms
      (coalition crypto env coalitionTerms)) (deployed token ())
      (events coalitionRelease)).toBool = true := by
    decide +kernel
  obtain ⟨c, hrun⟩ := toBool_eq_true_iff.mp hcommits
  exact ⟨c, rfl, (), hrun⟩

end Sample

/-- Both adapters after the sample run. -/
theorem reserve_accounting_sample :
    (∃ c, GovernedReaches Sample.crypto Sample.env Sample.terms Sample.token
        (Sample.events Sample.release) c ∧ ReserveAccounting Sample.terms c) ∧
    (∃ c, CoalitionReaches Sample.crypto Sample.env Sample.coalitionTerms Sample.token
        (Sample.events Sample.coalitionRelease) c ∧
        ReserveAccounting Sample.coalitionTerms.toAdapterTerms c) := by
  obtain ⟨hgoverned, hcoalition⟩ := reserve_accounting Sample.crypto Sample.env
  obtain ⟨c, hreach⟩ := Sample.governed_reaches
  obtain ⟨c', hreach'⟩ := Sample.coalition_reaches
  exact ⟨⟨c, hreach, (hgoverned _ _ _ _ hreach).1⟩, c', hreach', (hcoalition _ _ _ _ hreach').1⟩

end Mordant.Recourse
