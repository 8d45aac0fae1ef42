/-
# Snapshots are history

Every `_update` advances the sequence and checkpoints the balances it touched.
The history variable `updateLog` keeps the whole table instead.  `Faithful` says
that the checkpoints answer every past query with what the log holds: a touched
account has a fresh entry, written once or, in a self-transfer, twice; an
untouched one has a gap, and its value did not change.
-/

import Mordant.Vault.Refinement

namespace Mordant.Vault

open Evm Foundation

/-- Balances and supply right after the `n`-th `_update`; nothing before the
first. -/
def unitsAfter (s : VaultState) : ℕ → (Address → ℕ) × ℕ
  | 0 => (fun _ => 0, 0)
  | n + 1 => s.updateLog.getD n (fun _ => 0, 0)

/-- The checkpoints answer every query up to the present with the log. -/
structure Faithful (s : VaultState) : Prop where
  length : s.updateLog.length = s.sequence
  current : unitsAfter s s.sequence = (s.balanceOf, s.totalSupply)
  balances : ∀ holder,
    Records (s.balanceCheckpoints holder) s.sequence fun n => (unitsAfter s n).1 holder
  supply : Records s.supplyCheckpoints s.sequence fun n => (unitsAfter s n).2
  totals : ∀ n ≤ s.sequence, ∑ holder, (unitsAfter s n).1 holder = (unitsAfter s n).2

theorem faithful_initial (signer : Address) : Faithful (VaultState.initial signer) where
  length := rfl
  current := rfl
  balances _ := records_nil rfl
  supply := records_nil rfl
  totals n hn := by
    obtain rfl : n = 0 := Nat.le_zero.mp hn
    exact Finset.sum_const_zero

section

variable {checkpoints : Address → List Checkpoint} {sequence : ℕ} {balances : Address → ℕ}
variable {account holder : Address}

theorem touched_self (hne : holder ≠ 0) :
    touched checkpoints sequence balances holder holder =
      writeCheckpoint (checkpoints holder) sequence (balances holder) := by
  rw [touched, if_neg hne, Function.update_self]

theorem touched_other (hother : ¬ (account = holder ∧ holder ≠ 0)) :
    touched checkpoints sequence balances account holder = checkpoints holder := by
  unfold touched
  split
  · rfl
  · next hne =>
      refine Function.update_of_ne (fun heq => ?_) _ _
      exact hother ⟨heq.symm, heq ▸ hne⟩

/-- The first write of an instant. -/
theorem Records.touch {history : ℕ → ℕ}
    (hrecords : Records (checkpoints holder) sequence history) (hne : holder ≠ 0) :
    Records (touched checkpoints (sequence + 1) balances holder holder) (sequence + 1)
      (Function.update history (sequence + 1) (balances holder)) := by
  rw [touched_self hne]
  exact hrecords.write (Nat.le_succ _) le_rfl

/-- Touching an account again in the same instant changes nothing. -/
theorem Records.touch_again {history : ℕ → ℕ}
    (hrecords : Records (checkpoints holder) sequence
      (Function.update history sequence (balances holder))) (account : Address) :
    Records (touched checkpoints sequence balances account holder) sequence
      (Function.update history sequence (balances holder)) := by
  by_cases hsame : account = holder ∧ holder ≠ 0
  · obtain ⟨rfl, hne⟩ := hsame
    rw [touched_self hne]
    have hwrite : Records (writeCheckpoint (checkpoints account) sequence (balances account))
        sequence _ := hrecords.write le_rfl (Nat.le_succ _)
    rwa [Function.update_idem] at hwrite
  · rw [touched_other hsame]
    exact hrecords

end

/-- A movement leaves every other balance alone, and the zero address without
one. -/
theorem unitsMoved_other {balances : Address → ℕ} {supply value : ℕ}
    {source target holder : Address} (hsource : ¬ (source = holder ∧ holder ≠ 0))
    (htarget : ¬ (target = holder ∧ holder ≠ 0)) :
    (unitsMoved balances supply source target value).1 holder = balances holder := by
  have hdebited : (if source = 0 then balances
      else Function.update balances source (balances source - value)) holder =
        balances holder := by
    split
    · rfl
    · next hne =>
        refine Function.update_of_ne (fun heq => ?_) _ _
        exact hsource ⟨heq.symm, heq ▸ hne⟩
  unfold unitsMoved
  dsimp only
  split
  · exact hdebited
  · next hne =>
      refine (Function.update_of_ne (fun heq => ?_) _ _).trans hdebited
      exact htarget ⟨heq.symm, heq ▸ hne⟩

section

variable {s : VaultState} (source target : Address) (value : ℕ)

/-- One more `_update` extends the log by its result. -/
theorem unitsAfter_updated (hlength : s.updateLog.length = s.sequence) :
    unitsAfter (updated s source target value) =
      Function.update (unitsAfter s) (s.sequence + 1)
        (unitsMoved s.balanceOf s.totalSupply source target value) := by
  funext n
  cases n with
  | zero => rw [Function.update_of_ne (Nat.succ_ne_zero _).symm]; rfl
  | succ n =>
      by_cases hn : n = s.sequence
      · subst hn
        rw [Function.update_self]
        simp only [unitsAfter, updated]
        rw [List.getD_append_right _ _ _ _ hlength.le, hlength, Nat.sub_self]
        rfl
      · rw [Function.update_of_ne (fun heq => hn (Nat.succ.inj heq))]
        simp only [unitsAfter, updated]
        rcases Nat.lt_or_ge n s.updateLog.length with hlt | hge
        · rw [List.getD_append _ _ _ _ hlt]
        · rw [List.getD_eq_default _ _ hge, List.getD_eq_default]
          rw [List.length_append, List.length_singleton]
          omega

/-- The balance checkpoints of one holder after an `_update`: written twice by a
self-transfer, once by any other movement that touches the holder, and not at
all by the rest. -/
theorem Faithful.balance_updated (h : Faithful s) (holder : Address) :
    Records ((updated s source target value).balanceCheckpoints holder) (s.sequence + 1)
      (Function.update (fun n => (unitsAfter s n).1 holder) (s.sequence + 1)
        ((unitsMoved s.balanceOf s.totalSupply source target value).1 holder)) := by
  have hrecords := h.balances holder
  simp only [updated]
  by_cases hsource : source = holder ∧ holder ≠ 0
  · obtain ⟨rfl, hne⟩ := hsource
    exact Records.touch_again (Records.touch hrecords hne) target
  · by_cases htarget : target = holder ∧ holder ≠ 0
    · obtain ⟨rfl, hne⟩ := htarget
      refine Records.touch ?_ hne
      rwa [touched_other hsource]
    · rw [touched_other htarget, touched_other hsource, unitsMoved_other hsource htarget]
      have hskip := hrecords.skip
      rwa [show (unitsAfter s s.sequence).1 holder = s.balanceOf holder by rw [h.current]] at hskip

/-- **One more update.** -/
theorem Faithful.updated (h : Faithful s)
    (hunits : UnitsConsistent (Vault.updated s source target value)) :
    Faithful (Vault.updated s source target value) := by
  have hafter := unitsAfter_updated source target value h.length
  refine ⟨?_, ?_, fun holder => ?_, ?_, fun n hn => ?_⟩
  · simp only [Vault.updated, List.length_append, List.length_singleton, h.length]
  · rw [hafter]
    exact Function.update_self _ _ _
  · rw [hafter]
    change Records _ _ ((fun units : (Address → ℕ) × ℕ => units.1 holder) ∘ Function.update _ _ _)
    rw [Function.comp_update]
    exact h.balance_updated source target value holder
  · rw [hafter]
    change Records _ _ (Prod.snd ∘ Function.update _ _ _)
    rw [Function.comp_update]
    exact h.supply.write (Nat.le_succ _) le_rfl
  · rw [hafter]
    rcases Nat.lt_or_ge s.sequence n with hlast | hpast
    · obtain rfl : n = s.sequence + 1 := Nat.le_antisymm hn hlast
      rw [Function.update_self]
      exact hunits.total
    · rw [Function.update_of_ne (by omega)]
      exact h.totals n hpast

end

variable {s s' : VaultState}

/-- The snapshot laws read the units view only. -/
theorem Faithful.congr (h : Faithful s) (hview : s'.unitView = s.unitView) :
    Faithful s' := by
  obtain ⟨hlength, hcurrent, hbalances, hsupply, htotals⟩ := h
  have hlog : s'.updateLog = s.updateLog := congrArg UnitView.updateLog hview
  have hafter : unitsAfter s' = unitsAfter s := by
    funext n
    cases n with
    | zero => rfl
    | succ n => simp only [unitsAfter, hlog]
  have hsequence : s'.sequence = s.sequence := congrArg UnitView.sequence hview
  refine ⟨?_, ?_, fun holder => ?_, ?_, ?_⟩
  · rw [hlog, hsequence, hlength]
  · rw [hafter, hsequence, hcurrent]
    exact Prod.ext (congrArg UnitView.balanceOf hview).symm
      (congrArg UnitView.totalSupply hview).symm
  · rw [hafter, hsequence, show s'.balanceCheckpoints = s.balanceCheckpoints from
      congrArg UnitView.balanceCheckpoints hview]
    exact hbalances holder
  · rw [hafter, hsequence, show s'.supplyCheckpoints = s.supplyCheckpoints from
      congrArg UnitView.supplyCheckpoints hview]
    exact hsupply
  · rw [hafter, hsequence]
    exact htotals

/-- Movements along a call keep the snapshots faithful. -/
theorem Faithful.moves (h : Faithful s) (hmoves : UnitMoves s s') :
    Faithful s' := by
  induction hmoves with
  | other hview => exact h.congr hview
  | move s source target value hunits => exact h.updated source target value hunits
  | trans _ _ ihfirst ihsecond => exact ihsecond (ihfirst h)

/-- The log only grows. -/
theorem UnitMoves.log_grows (hmoves : UnitMoves s s') :
    s.updateLog <+: s'.updateLog := by
  induction hmoves with
  | @other s s' hview =>
      rw [show s'.updateLog = s.updateLog from congrArg UnitView.updateLog hview]
  | move s source target value hunits => exact List.prefix_append _ _
  | trans _ _ ihfirst ihsecond => exact ihfirst.trans ihsecond

/-- What the log holds for the past does not depend on what came later. -/
theorem unitsAfter_of_grows (hgrows : s.updateLog <+: s'.updateLog) {n : ℕ}
    (hn : n ≤ s.updateLog.length) : unitsAfter s' n = unitsAfter s n := by
  cases n with
  | zero => rfl
  | succ n =>
      obtain ⟨later, hlater⟩ := hgrows
      simp only [unitsAfter, ← hlater]
      rw [List.getD_append _ _ _ _ hn]

section

variable {W : Type} {crypto : Crypto} {env : Externals W} {terms : Terms} {token : Settlement}
variable {events : List (Event W)} {c c' : Chain W}

theorem Faithful.balanceAt_eq (h : Faithful c.vault) {n : ℕ} (hn : n ≤ c.vault.sequence)
    (holder : Address) : balanceAt c.vault holder n = .ok ((unitsAfter c.vault n).1 holder) := by
  simp only [balanceAt, bind_ok_iff, revertIf_ok_iff, pure_ok_iff]
  exact ⟨(), not_lt.mpr hn, (h.balances holder).answers n hn⟩

theorem Faithful.totalSupplyAt_eq (h : Faithful c.vault) {n : ℕ} (hn : n ≤ c.vault.sequence) :
    totalSupplyAt c.vault n = .ok (unitsAfter c.vault n).2 := by
  simp only [totalSupplyAt, bind_ok_iff, revertIf_ok_iff, pure_ok_iff]
  exact ⟨(), not_lt.mpr hn, h.supply.answers n hn⟩

theorem exec_moves (hunits : UnitsConsistent c.vault) {event : Event W}
    (h : exec crypto env terms c event = .ok c') : UnitMoves c.vault c'.vault := by
  rcases exec_cases hunits h with hrefines | hvault
  · exact hrefines.moves
  · exact .other (by rw [hvault])

/-- A run is a sequence of movements. -/
theorem run_moves (hunits : UnitsConsistent c.vault) {more : List (Event W)}
    (hrun : run (exec crypto env terms) c more = .ok c') : UnitMoves c.vault c'.vault :=
  run_relates (P := fun c : Chain W => UnitsConsistent c.vault)
    (R := fun c c' : Chain W => UnitMoves c.vault c'.vault) (fun _ => .other rfl)
    (fun hfirst hsecond => hfirst.trans hsecond)
    (fun _ _ _ hunits hexec => exec_consistent hunits hexec)
    (fun _ _ _ hunits hexec => exec_moves hunits hexec) hrun hunits

/-- No movement changes what the reads return for the past. -/
theorem Faithful.reads_kept (h : Faithful c.vault) (hmoves : UnitMoves c.vault c'.vault) :
    c.vault.sequence ≤ c'.vault.sequence ∧
      ∀ n ≤ c.vault.sequence,
        unitsAfter c'.vault n = unitsAfter c.vault n ∧
        (∀ holder, balanceAt c'.vault holder n = balanceAt c.vault holder n) ∧
        totalSupplyAt c'.vault n = totalSupplyAt c.vault n := by
  have hlater := h.moves hmoves
  have hgrows := hmoves.log_grows
  have hsequence : c.vault.sequence ≤ c'.vault.sequence := by
    rw [← h.length, ← hlater.length]
    exact hgrows.length_le
  refine ⟨hsequence, fun n hn => ?_⟩
  have hsame := unitsAfter_of_grows hgrows (hn.trans_eq h.length.symm)
  have hn' := hn.trans hsequence
  refine ⟨hsame, fun holder => ?_, ?_⟩
  · rw [hlater.balanceAt_eq hn', h.balanceAt_eq hn, hsame]
  · rw [hlater.totalSupplyAt_eq hn', h.totalSupplyAt_eq hn, hsame]

theorem Reaches.faithful (hreach : Reaches crypto env terms token events c) :
    UnitsConsistent c.vault ∧ Faithful c.vault := by
  obtain ⟨world, chainId, now, init, s, hconstruct, hrun⟩ := hreach
  rw [construct_initial hconstruct] at hrun
  have hunits := unitsConsistent_initial init.initialOriginatorSigner
  refine ⟨run_always (P := fun c : Chain W => UnitsConsistent c.vault)
    (fun _ _ _ hunits hexec => exec_consistent hunits hexec) hrun hunits, ?_⟩
  exact (faithful_initial _).moves (run_moves hunits hrun)

/-- **Snapshot history.** In every reachable state and for every sequence up to
the present one, the two public reads return the balance and the supply right
after that update, balances add up to the supply there, and no continuation of
the run changes what they return. -/
theorem snapshot_history (hreach : Reaches crypto env terms token events c) :
    unitsAfter c.vault 0 = (fun _ => 0, 0) ∧
      unitsAfter c.vault c.vault.sequence = (c.vault.balanceOf, c.vault.totalSupply) ∧
      (∀ n ≤ c.vault.sequence,
        (∀ holder, balanceAt c.vault holder n = .ok ((unitsAfter c.vault n).1 holder)) ∧
        totalSupplyAt c.vault n = .ok (unitsAfter c.vault n).2 ∧
        ∑ holder, (unitsAfter c.vault n).1 holder = (unitsAfter c.vault n).2) ∧
      ∀ more c', run (exec crypto env terms) c more = .ok c' →
        c.vault.sequence ≤ c'.vault.sequence ∧
        ∀ n ≤ c.vault.sequence,
          (∀ holder, balanceAt c'.vault holder n = balanceAt c.vault holder n) ∧
          totalSupplyAt c'.vault n = totalSupplyAt c.vault n := by
  obtain ⟨hunits, hfaithful⟩ := hreach.faithful
  refine ⟨rfl, hfaithful.current, fun n hn => ⟨hfaithful.balanceAt_eq hn,
    hfaithful.totalSupplyAt_eq hn, hfaithful.totals n hn⟩, fun more c' hrun => ?_⟩
  obtain ⟨hsequence, hreads⟩ := hfaithful.reads_kept (run_moves hunits hrun)
  exact ⟨hsequence, fun n hn => (hreads n hn).2⟩

/-- The sample run. -/
theorem snapshot_history_sample :
    ∃ c, Reaches Sample.crypto Sample.env Sample.terms Sample.token Sample.events c ∧
      ∀ n ≤ c.vault.sequence,
        ∑ holder, (unitsAfter c.vault n).1 holder = (unitsAfter c.vault n).2 := by
  obtain ⟨c, hreach⟩ := Sample.reaches
  exact ⟨c, hreach, fun n hn => ((snapshot_history hreach).2.2.1 n hn).2.2⟩

end

end Mordant.Vault
