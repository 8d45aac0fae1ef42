/-
# Distributing the bond

An entitlement is shared among the holders counted at the snapshot, each for the
rounded-down part of its units, and the holder who completes the count takes
what is left.  Live balances play no role: by the time of the claims the units
may have moved or gone.  `Distributed` compares the payments a run has made with
the snapshot; it is kept by every claim and by everything between claims.
-/

import Mordant.Vault.Conservation
import Mordant.Vault.Lifecycle
import Mordant.Vault.Snapshot

namespace Mordant.Vault

open Evm Foundation

section

variable {W : Type} (crypto : Crypto) (env : Externals W) (terms : Terms)

/-- The payment an event makes out of the bond. -/
def bondPayment (c : Chain W) : Event W → List (Address × ℕ)
  | .call msg .claimBond => match claimBond env terms c msg with
    | .ok (amount, _) => [(msg.sender, amount)]
    | .error _ => []
  | _ => []

/-- The payments a run makes out of the bond, oldest first. -/
def bondPayments (start : Chain W) (events : List (Event W)) : List (Address × ℕ) :=
  trace (exec crypto env terms) (bondPayment env terms) start events

end

/-- `balanceAt(holder, entitlementSnapshotSequence)`. -/
def snapshotUnits (s : VaultState) (holder : Address) : ℕ :=
  match balanceAt s holder s.entitlementSnapshotSequence with
  | .ok units => units
  | .error _ => 0

/-- The holders counted at the entitlement's snapshot. -/
def snapshotHolders (s : VaultState) : Finset Address :=
  Finset.univ.filter fun holder => 0 < snapshotUnits s holder

/-- The rounded-down part of one holder. -/
def holderShare (s : VaultState) (holder : Address) : ℕ :=
  floorShare s.entitlementAllocated (snapshotUnits s holder) s.entitlementSnapshotSupply

/-- The payments made so far, against the snapshot. -/
structure Distributed (s : VaultState) (payments : List (Address × ℕ)) : Prop where
  once : (payments.map Prod.fst).Nodup
  flags : ∀ holder, s.bondClaimedBy holder = true ↔ holder ∈ payments.map Prod.fst
  held : ∀ holder ∈ payments.map Prod.fst, 0 < snapshotUnits s holder
  units : s.entitlementClaimedUnits = ((payments.map Prod.fst).map (snapshotUnits s)).sum
  total : s.entitlementClaimed = (payments.map Prod.snd).sum
  shares : s.entitlementClaimedUnits ≠ s.entitlementSnapshotSupply →
    ∀ payment ∈ payments, payment.2 = holderShare s payment.1
  completed : s.entitlementClaimedUnits = s.entitlementSnapshotSupply →
    s.entitlementClaimed = s.entitlementAllocated ∧
      ∃ earlier holder remainder,
        payments = earlier ++ [(holder, holderShare s holder + remainder)] ∧
        (∀ payment ∈ earlier, payment.2 = holderShare s payment.1) ∧
        remainder < (snapshotHolders s).card

section

variable {W : Type} {crypto : Crypto} {env : Externals W} {terms : Terms} {token : Settlement}
variable {events : List (Event W)} {c c' : Chain W}

/-- The snapshot of an entitlement, as the checkpoints hold it. -/
theorem Reaches.entitled_snapshot (hreach : Reaches crypto env terms token events c)
    (hentitled : c.vault.protectionState = .entitled) :
    c.vault.entitlementSnapshotSequence ≤ c.vault.sequence ∧
      (∀ holder, balanceAt c.vault holder c.vault.entitlementSnapshotSequence =
        .ok (snapshotUnits c.vault holder)) ∧
      ∑ holder, snapshotUnits c.vault holder = c.vault.entitlementSnapshotSupply := by
  obtain ⟨-, hfaithful⟩ := hreach.faithful
  obtain ⟨hpast, hsupply⟩ := hreach.snapshotTaken c.vault.entitlementSnapshotSequence
    c.vault.entitlementSnapshotSupply (Docket.snapshot_entitled hentitled)
  have hreads := hfaithful.balanceAt_eq (c := c) hpast
  have hunits : snapshotUnits c.vault =
      (unitsAfter c.vault c.vault.entitlementSnapshotSequence).1 := by
    funext holder
    rw [snapshotUnits, hreads holder]
  refine ⟨hpast, fun holder => ?_, ?_⟩
  · rw [hunits]
    exact hreads holder
  · rw [hunits, hfaithful.totals _ hpast]
    exact hsupply

/-- Distinct holders are counted for at most the supply. -/
theorem sum_distinct_le {f : Address → ℕ} {holders : List Address} (hnodup : holders.Nodup) :
    (holders.map f).sum ≤ ∑ holder, f holder := by
  rw [← List.sum_toFinset f hnodup]
  exact Finset.sum_le_sum_of_subset (Finset.subset_univ _)

/-- Holders that include everyone counted are counted for the whole. -/
theorem sum_everyone_eq {f : Address → ℕ} {holders : List Address} (hnodup : holders.Nodup)
    (hall : ∀ holder, 0 < f holder → holder ∈ holders) :
    (holders.map f).sum = ∑ holder, f holder := by
  rw [← List.sum_toFinset f hnodup]
  refine Finset.sum_subset (Finset.subset_univ _) fun holder _ hnot => ?_
  by_contra hne
  exact hnot (List.mem_toFinset.mpr (hall holder (Nat.pos_of_ne_zero hne)))

end

section

variable {s s' : VaultState} {payments : List (Address × ℕ)} {holder : Address} {amount : ℕ}

/-- What `Distributed` reads is unchanged. -/
structure SameClaims (s s' : VaultState) : Prop where
  allocated : s'.entitlementAllocated = s.entitlementAllocated
  supply : s'.entitlementSnapshotSupply = s.entitlementSnapshotSupply
  units : ∀ holder, snapshotUnits s' holder = snapshotUnits s holder

theorem SameClaims.share (h : SameClaims s s') : holderShare s' = holderShare s := by
  funext holder
  simp only [holderShare, h.allocated, h.supply, h.units]

theorem SameClaims.holders (h : SameClaims s s') : snapshotHolders s' = snapshotHolders s := by
  unfold snapshotHolders
  simp only [h.units]

theorem Distributed.frame (h : Distributed s payments) (hsame : SameClaims s s')
    (hclaimed : s'.entitlementClaimed = s.entitlementClaimed)
    (hclaimedUnits : s'.entitlementClaimedUnits = s.entitlementClaimedUnits)
    (hflags : s'.bondClaimedBy = s.bondClaimedBy) : Distributed s' payments where
  once := h.once
  flags := by rw [hflags]; exact h.flags
  held holder hmem := by
    rw [hsame.units]
    exact h.held holder hmem
  units := by
    rw [hclaimedUnits, h.units, show snapshotUnits s' = snapshotUnits s from funext hsame.units]
  total := hclaimed.trans h.total
  shares := by
    rw [hclaimedUnits, hsame.supply, hsame.share]
    exact h.shares
  completed := by
    rw [hclaimedUnits, hsame.supply, hclaimed, hsame.allocated, hsame.share, hsame.holders]
    exact h.completed

/-- Nothing has been paid yet. -/
theorem Distributed.none (hflags : ∀ holder, s.bondClaimedBy holder = false)
    (hclaimed : s.entitlementClaimed = 0) (hunits : s.entitlementClaimedUnits = 0)
    (hsupply : 0 < s.entitlementSnapshotSupply) : Distributed s [] where
  once := List.nodup_nil
  flags holder := by
    rw [hflags holder]
    exact ⟨(fun hfalse => nomatch hfalse), fun hmem => nomatch hmem⟩
  held holder hmem := nomatch hmem
  units := hunits
  total := hclaimed
  shares _ payment hmem := nomatch hmem
  completed hall := absurd (hunits.symm.trans hall) hsupply.ne

/-- An unclaimed holder still fits under the snapshot supply. -/
theorem Distributed.fits (h : Distributed s payments)
    (hsum : ∑ holder, snapshotUnits s holder = s.entitlementSnapshotSupply)
    (hunclaimed : s.bondClaimedBy holder = false) :
    s.entitlementClaimedUnits + snapshotUnits s holder ≤ s.entitlementSnapshotSupply := by
  have hfresh : holder ∉ payments.map Prod.fst := by
    intro hmem
    rw [(h.flags holder).mpr hmem] at hunclaimed
    exact nomatch hunclaimed
  have hle := sum_distinct_le (f := snapshotUnits s) (List.nodup_cons.mpr ⟨hfresh, h.once⟩)
  rw [List.map_cons, List.sum_cons, hsum, ← h.units] at hle
  omega

/-- The floors of the holders paid so far. -/
theorem sum_shares (hshares : ∀ payment ∈ payments, payment.2 = holderShare s payment.1) :
    (payments.map Prod.snd).sum =
      (((payments.map Prod.fst).map (snapshotUnits s)).map fun units =>
        floorShare s.entitlementAllocated units s.entitlementSnapshotSupply).sum := by
  induction payments with
  | nil => rfl
  | cons payment payments ih =>
      have hrest := ih fun other hmem => hshares other (List.mem_cons_of_mem _ hmem)
      simp only [List.map_cons, List.sum_cons, hrest, hshares payment List.mem_cons_self,
        holderShare]

/-- The holder who completes the count takes its own floor and a remainder
smaller than the number of holders. -/
theorem Distributed.remainder (h : Distributed s payments)
    (hsupply : 0 < s.entitlementSnapshotSupply)
    (hmore : s.entitlementClaimedUnits ≠ s.entitlementSnapshotSupply)
    (hunclaimed : s.bondClaimedBy holder = false) (hpos : 0 < snapshotUnits s holder)
    (hlast : s.entitlementClaimedUnits + snapshotUnits s holder = s.entitlementSnapshotSupply)
    (hamount : s.entitlementClaimed + amount = s.entitlementAllocated) :
    ∃ remainder, amount = holderShare s holder + remainder ∧
      remainder < (snapshotHolders s).card := by
  have hfresh : holder ∉ payments.map Prod.fst := by
    intro hmem
    rw [(h.flags holder).mpr hmem] at hunclaimed
    exact nomatch hunclaimed
  -- the pieces are the units of everyone paid, the new holder first
  have hpieces : ((holder :: payments.map Prod.fst).map (snapshotUnits s)).sum =
      s.entitlementSnapshotSupply := by
    rw [List.map_cons, List.sum_cons, ← h.units]
    omega
  have hfloors : (((holder :: payments.map Prod.fst).map (snapshotUnits s)).map fun units =>
      floorShare s.entitlementAllocated units s.entitlementSnapshotSupply).sum =
        holderShare s holder + s.entitlementClaimed := by
    rw [List.map_cons, List.map_cons, List.sum_cons, h.total, sum_shares (h.shares hmore)]
    rfl
  have hle := sum_floorShare_le s.entitlementAllocated hsupply hpieces.le
  have hlt := lt_sum_floorShare_add s.entitlementAllocated hsupply hpieces
  rw [hfloors] at hle hlt
  have hcount : ((holder :: payments.map Prod.fst).map (snapshotUnits s)).length ≤
      (snapshotHolders s).card := by
    rw [List.length_map,
      ← List.toFinset_card_of_nodup (List.nodup_cons.mpr ⟨hfresh, h.once⟩)]
    refine Finset.card_le_card fun account hmem => ?_
    rw [snapshotHolders, Finset.mem_filter]
    refine ⟨Finset.mem_univ _, ?_⟩
    rcases List.mem_cons.mp (List.mem_toFinset.mp hmem) with rfl | hpaid
    · exact hpos
    · exact h.held account hpaid
  exact ⟨amount - holderShare s holder, by omega, by omega⟩

/-- **One claim.** -/
theorem Distributed.claim (h : Distributed s payments)
    (hsum : ∑ holder, snapshotUnits s holder = s.entitlementSnapshotSupply)
    (hunclaimed : s.bondClaimedBy holder = false) (hpos : 0 < snapshotUnits s holder)
    (hlast : s.entitlementClaimedUnits + snapshotUnits s holder = s.entitlementSnapshotSupply →
      s.entitlementClaimed + amount = s.entitlementAllocated)
    (hpart : s.entitlementClaimedUnits + snapshotUnits s holder ≠ s.entitlementSnapshotSupply →
      amount = holderShare s holder)
    (hsame : SameClaims s s')
    (hflags : s'.bondClaimedBy = Function.update s.bondClaimedBy holder true)
    (hunits : s'.entitlementClaimedUnits = s.entitlementClaimedUnits + snapshotUnits s holder)
    (htotal : s'.entitlementClaimed = s.entitlementClaimed + amount) :
    Distributed s' (payments ++ [(holder, amount)]) := by
  have hfit := h.fits hsum hunclaimed
  have hmore : s.entitlementClaimedUnits ≠ s.entitlementSnapshotSupply := by omega
  have hfresh : holder ∉ payments.map Prod.fst := by
    intro hmem
    rw [(h.flags holder).mpr hmem] at hunclaimed
    exact nomatch hunclaimed
  have hsnapshot : snapshotUnits s' = snapshotUnits s := funext hsame.units
  have hnames : (payments ++ [(holder, amount)]).map Prod.fst = payments.map Prod.fst ++ [holder] :=
    List.map_append
  refine ⟨?_, fun account => ?_, fun account hmem => ?_, ?_, ?_, fun hnot payment hmem => ?_,
    fun hall => ?_⟩
  · rw [hnames, ← List.concat_eq_append]
    exact h.once.concat hfresh
  · rw [hnames, hflags, List.mem_append, List.mem_singleton]
    by_cases hsame : account = holder
    · simp [hsame]
    · rw [Function.update_of_ne hsame, h.flags account]
      exact ⟨.inl, fun hor => hor.resolve_right hsame⟩
  · rw [hnames] at hmem
    rw [hsame.units]
    rcases List.mem_append.mp hmem with hmem | hmem
    · exact h.held account hmem
    · rw [List.mem_singleton.mp hmem]
      exact hpos
  · rw [hnames, hsnapshot, List.map_append, List.sum_append, ← h.units, hunits]
    simp
  · rw [List.map_append, List.sum_append, ← h.total, htotal]
    simp
  · rw [hunits, hsame.supply] at hnot
    rw [hsame.share]
    rcases List.mem_append.mp hmem with hmem | hmem
    · exact h.shares hmore payment hmem
    · rw [List.mem_singleton.mp hmem]
      exact hpart hnot
  · rw [hunits, hsame.supply] at hall
    have hsupply : 0 < s.entitlementSnapshotSupply := by omega
    obtain ⟨remainder, hamount, hsmall⟩ :=
      h.remainder hsupply hmore hunclaimed hpos hall (hlast hall)
    rw [hsame.share, hsame.holders, hsame.allocated, htotal]
    refine ⟨hlast hall, payments, holder, remainder, ?_, h.shares hmore, hsmall⟩
    rw [hamount]

end

section

variable {W : Type} {crypto : Crypto} {env : Externals W} {terms : Terms} {token : Settlement}
variable {events : List (Event W)} {event : Event W} {start c c' : Chain W} {msg : Msg}

theorem bondPayment_claim {amount : ℕ} (hexec : exec crypto env terms c (.call msg .claimBond) =
      .ok c') (hpaid : ∃ after, claimBondBody env terms c msg = .ok (amount, after)) :
    bondPayment env terms c (.call msg .claimBond) = [(msg.sender, amount)] := by
  obtain ⟨⟨paid, c₁⟩, hclaim, rfl⟩ := map_ok_iff.mp
    (show Prod.snd <$> claimBond env terms c msg = .ok c' from hexec)
  have hbody := hclaim
  simp only [claimBond, bind_ok_iff, pure_ok_iff] at hbody
  obtain ⟨⟨amount', c₂⟩, hbody, c₃, -, heq⟩ := hbody
  obtain ⟨after, hpaid⟩ := hpaid
  obtain ⟨rfl, -⟩ := Prod.mk.inj (Except.ok.inj (hbody.symm.trans hpaid))
  obtain ⟨rfl, -⟩ := Prod.mk.inj heq
  simp only [bondPayment, hclaim]

theorem bondPayment_other (hother : ∀ msg, event ≠ .call msg .claimBond) :
    bondPayment env terms c event = [] := by
  cases event with
  | call msg entry =>
      cases entry with
      | claimBond => exact absurd rfl (hother msg)
      | _ => rfl
  | donate | outside => rfl

/-- Events that leave the entitlement and its claims alone. -/
structure EntitlementKept (d d' : Docket) : Prop where
  state : d'.protectionState = .entitled ↔ d.protectionState = .entitled
  allocated : d'.entitlementAllocated = d.entitlementAllocated
  claimed : d'.entitlementClaimed = d.entitlementClaimed
  claimedUnits : d'.entitlementClaimedUnits = d.entitlementClaimedUnits
  sequence : d'.entitlementSnapshotSequence = d.entitlementSnapshotSequence
  supply : d'.entitlementSnapshotSupply = d.entitlementSnapshotSupply
  flags : d'.bondClaimedBy = d.bondClaimedBy

/-- Every event other than a finalization and a claim. -/
theorem DocketStep.entitlementKept {d : Docket} (hstep : DocketStep crypto env terms c event d)
    (hfinalize : ∀ msg, event ≠ .call msg .finalizeConflict)
    (hclaim : ∀ msg, event ≠ .call msg .claimBond) : EntitlementKept c.vault.docket d := by
  cases hstep with
  | finalize => exact absurd rfl (hfinalize _)
  | claim => exact absurd rfl (hclaim _)
  | authorize | quiet => exact ⟨.rfl, rfl, rfl, rfl, rfl, rfl, rfl⟩
  | activate hstate | commit hstate | reveal hstate | expire hstate | cure hstate
  | release hstate =>
      refine ⟨⟨(fun hother => nomatch hother), fun hother => ?_⟩, rfl, rfl, rfl, rfl, rfl, rfl⟩
      exact nomatch hstate.symm.trans hother

/-- The payments a run has made, in an entitled vault and in any other. -/
def PaidOut (s : VaultState) (payments : List (Address × ℕ)) : Prop :=
  (s.protectionState = .entitled → Distributed s payments ∧ 0 < s.entitlementSnapshotSupply) ∧
    (s.protectionState ≠ .entitled → payments = [] ∧ ∀ holder, s.bondClaimedBy holder = false)

/-- The snapshot of an entitlement does not move with the units. -/
theorem Reaches.snapshotUnits_kept (hreach : Reaches crypto env terms token events c)
    (hexec : exec crypto env terms c event = .ok c')
    (hentitled : c.vault.protectionState = .entitled)
    (hsequence : c'.vault.entitlementSnapshotSequence = c.vault.entitlementSnapshotSequence)
    (holder : Address) : snapshotUnits c'.vault holder = snapshotUnits c.vault holder := by
  obtain ⟨hunits, hfaithful⟩ := hreach.faithful
  obtain ⟨-, hreads⟩ := hfaithful.reads_kept (exec_moves hunits hexec)
  have hpast := (hreach.entitled_snapshot hentitled).1
  rw [snapshotUnits, hsequence, (hreads _ hpast).2.1 holder]
  rfl

/-- **One more event.** -/
theorem PaidOut.exec {payments : List (Address × ℕ)}
    (hreach : Reaches crypto env terms token events c) (h : PaidOut c.vault payments)
    (hexec : exec crypto env terms c event = .ok c') :
    PaidOut c'.vault (payments ++ bondPayment env terms c event) := by
  have hstep := (exec_docket hexec).step
  generalize hd : c'.vault.docket = d at hstep
  by_cases hclaims : ∃ msg, event = .call msg .claimBond
  · obtain ⟨msg, rfl⟩ := hclaims
    cases hstep with
    | release _ hentry => rcases hentry with hentry | ⟨units, hentry⟩ <;> exact nomatch hentry
    | quiet hquiet => exact absurd trivial hquiet
    | @claim _ units amount hstate hunclaimed hunits hpos hrole hheld hamount hpaid =>
        rw [bondPayment_claim hexec hpaid]
        have hentitled : c'.vault.protectionState = .entitled :=
          (congrArg Docket.protectionState hd).trans hstate
        obtain ⟨hdistributed, hsupply⟩ := h.1 hstate
        obtain ⟨-, hreads, hsum⟩ := hreach.entitled_snapshot hstate
        obtain rfl := Except.ok.inj (hunits.symm.trans (hreads msg.sender))
        obtain ⟨hlast, hpart⟩ := bondAmount_ok hamount
        have hsame : SameClaims c.vault c'.vault :=
          ⟨congrArg Docket.entitlementAllocated hd, congrArg Docket.entitlementSnapshotSupply hd,
            hreach.snapshotUnits_kept hexec hstate
              (congrArg Docket.entitlementSnapshotSequence hd)⟩
        refine ⟨fun _ => ⟨?_, ?_⟩, fun hother => absurd hentitled hother⟩
        · exact hdistributed.claim hsum hunclaimed (Nat.pos_of_ne_zero hpos) hlast hpart hsame
            (congrArg Docket.bondClaimedBy hd) (congrArg Docket.entitlementClaimedUnits hd)
            (congrArg Docket.entitlementClaimed hd)
        · rw [hsame.supply]
          exact hsupply
  · have hother : ∀ msg, event ≠ .call msg .claimBond := fun msg heq => hclaims ⟨msg, heq⟩
    rw [bondPayment_other hother, List.append_nil]
    by_cases hfinal : ∃ msg, event = .call msg .finalizeConflict
    · obtain ⟨msg, rfl⟩ := hfinal
      cases hstep with
      | release _ hentry => rcases hentry with hentry | ⟨units, hentry⟩ <;> exact nomatch hentry
      | quiet hquiet => exact absurd trivial hquiet
      | finalize hstate =>
          obtain ⟨-, -, hcoupled⟩ := hreach.coupled
          have hnot : c.vault.protectionState ≠ .entitled := by rw [hstate]; decide
          obtain ⟨rfl, hflags⟩ := h.2 hnot
          obtain ⟨hclaimed, hunits⟩ := hreach.claimsOrdered.fresh hnot
          have hsupply : 0 < c'.vault.entitlementSnapshotSupply := by
            rw [show c'.vault.entitlementSnapshotSupply = c.vault.pendingConflict.snapshotSupply
              from congrArg Docket.entitlementSnapshotSupply hd]
            exact hcoupled.pending (.inr hstate)
          refine ⟨fun _ => ⟨.none (fun holder => ?_) ?_ ?_ hsupply, hsupply⟩, fun hne => ?_⟩
          · exact (congrFun (congrArg Docket.bondClaimedBy hd) holder).trans (hflags holder)
          · exact (congrArg Docket.entitlementClaimed hd).trans hclaimed
          · exact (congrArg Docket.entitlementClaimedUnits hd).trans hunits
          · exact absurd (congrArg Docket.protectionState hd) hne
    · have hkept := hstep.entitlementKept (fun msg heq => hfinal ⟨msg, heq⟩) hother
      rw [← hd] at hkept
      constructor
      · intro hentitled
        have hstate := hkept.state.mp hentitled
        obtain ⟨hdistributed, hsupply⟩ := h.1 hstate
        refine ⟨hdistributed.frame ⟨hkept.allocated, hkept.supply,
          hreach.snapshotUnits_kept hexec hstate hkept.sequence⟩ hkept.claimed hkept.claimedUnits
          hkept.flags, ?_⟩
        rw [show c'.vault.entitlementSnapshotSupply = _ from hkept.supply]
        exact hsupply
      · intro hnot
        obtain ⟨hnone, hflags⟩ := h.2 fun hstate => hnot (hkept.state.mpr hstate)
        refine ⟨hnone, fun holder => ?_⟩
        rw [show c'.vault.bondClaimedBy = c.vault.bondClaimedBy from hkept.flags]
        exact hflags holder

/-- Every run has paid what its snapshot says. -/
theorem Deployed.paidOut (hstart : Deployed env terms token start)
    (hrun : run (exec crypto env terms) start events = .ok c) :
    PaidOut c.vault (bondPayments crypto env terms start events) := by
  refine run_history (P := fun events c =>
    PaidOut c.vault (bondPayments crypto env terms start events)) ?_ ?_ hrun
  · obtain ⟨signer, world, rfl⟩ := hstart.initial
    exact ⟨(fun hentitled => nomatch hentitled), fun _ => ⟨rfl, fun _ => rfl⟩⟩
  · intro before event c₁ c₂ hbefore hpaid hexec
    rw [bondPayments, trace_snoc hbefore hexec]
    exact hpaid.exec (hstart.reaches hbefore) hexec

/-- What a single claim pays, in any entitled state of a run. -/
theorem Distributed.claim_amount {payments : List (Address × ℕ)}
    (hreach : Reaches crypto env terms token events c)
    (h : Distributed c.vault payments) (hsupply : 0 < c.vault.entitlementSnapshotSupply)
    {amount : ℕ} (hclaim : claimBond env terms c msg = .ok (amount, c')) :
    (c.vault.entitlementClaimedUnits + snapshotUnits c.vault msg.sender ≠
        c.vault.entitlementSnapshotSupply → amount = holderShare c.vault msg.sender) ∧
      (c.vault.entitlementClaimedUnits + snapshotUnits c.vault msg.sender =
          c.vault.entitlementSnapshotSupply →
        ∃ remainder, amount = holderShare c.vault msg.sender + remainder ∧
          remainder < (snapshotHolders c.vault).card) := by
  simp only [claimBond, bind_ok_iff, pure_ok_iff] at hclaim
  obtain ⟨⟨_, c₁⟩, hbody, c₂, -, ⟨⟩⟩ := hclaim
  have hstep : DocketStep crypto env terms c (.call msg .claimBond) c₁.vault.docket :=
    (claimBondBody_docket hbody).step
  generalize hd : c₁.vault.docket = d at hstep
  cases hstep with
  | release _ hentry => rcases hentry with hentry | ⟨units, hentry⟩ <;> exact nomatch hentry
  | quiet hquiet => exact absurd trivial hquiet
  | @claim _ units paid hstate hunclaimed hunits hpos hrole hheld hamount hpaid =>
      obtain ⟨after, hpaid⟩ := hpaid
      obtain ⟨rfl, -⟩ := Prod.mk.inj (Except.ok.inj (hbody.symm.trans hpaid))
      obtain ⟨-, hreads, hsum⟩ := hreach.entitled_snapshot hstate
      obtain rfl := Except.ok.inj (hunits.symm.trans (hreads msg.sender))
      obtain ⟨hlast, hpart⟩ := bondAmount_ok hamount
      refine ⟨hpart, fun hall => ?_⟩
      exact h.remainder hsupply (by omega) hunclaimed (Nat.pos_of_ne_zero hpos) hall (hlast hall)

/-- **Bond distribution.** Along every run that is entitled, whatever else
happens between the claims: nobody is paid twice; what is paid never exceeds the
allocation and equals it once every snapshot holder has claimed; a claim pays its
rounded-down share, and the one that completes the snapshot a remainder smaller
than the number of holders on top; and an unclaimed holder's units always still
fit under the snapshot supply. -/
theorem bond_distributed (hstart : Deployed env terms token start)
    (hrun : run (exec crypto env terms) start events = .ok c)
    (hentitled : c.vault.protectionState = .entitled) :
    ((bondPayments crypto env terms start events).map Prod.fst).Nodup ∧
      ((bondPayments crypto env terms start events).map Prod.snd).sum ≤
        c.vault.entitlementAllocated ∧
      ((∀ holder ∈ snapshotHolders c.vault, c.vault.bondClaimedBy holder = true) →
        ((bondPayments crypto env terms start events).map Prod.snd).sum =
          c.vault.entitlementAllocated) ∧
      (∀ msg amount c', claimBond env terms c msg = .ok (amount, c') →
        (c.vault.entitlementClaimedUnits + snapshotUnits c.vault msg.sender ≠
            c.vault.entitlementSnapshotSupply → amount = holderShare c.vault msg.sender) ∧
          (c.vault.entitlementClaimedUnits + snapshotUnits c.vault msg.sender =
              c.vault.entitlementSnapshotSupply →
            ∃ remainder, amount = holderShare c.vault msg.sender + remainder ∧
              remainder < (snapshotHolders c.vault).card)) ∧
      ∀ holder, c.vault.bondClaimedBy holder = false →
        balanceAt c.vault holder c.vault.entitlementSnapshotSequence =
            .ok (snapshotUnits c.vault holder) ∧
          ¬ c.vault.entitlementSnapshotSupply <
            c.vault.entitlementClaimedUnits + snapshotUnits c.vault holder := by
  have hreach := hstart.reaches hrun
  obtain ⟨hdistributed, hsupply⟩ := (hstart.paidOut hrun).1 hentitled
  obtain ⟨-, hreads, hsum⟩ := hreach.entitled_snapshot hentitled
  have htotal := hdistributed.total
  refine ⟨hdistributed.once, ?_, fun hall => ?_, ?_, fun holder hunclaimed => ⟨hreads holder, ?_⟩⟩
  · rw [← htotal]
    exact hreach.claimsOrdered.amount
  · rw [← htotal]
    refine (hdistributed.completed ?_).1
    rw [hdistributed.units, ← hsum]
    refine sum_everyone_eq hdistributed.once fun holder hpos => ?_
    exact (hdistributed.flags holder).mp
      (hall holder (Finset.mem_filter.mpr ⟨Finset.mem_univ _, hpos⟩))
  · exact fun msg amount c' hclaim => hdistributed.claim_amount hreach hsupply hclaim
  · exact not_lt.mpr (hdistributed.fits hsum hunclaimed)

/-- The sample dispute: both holders are paid, the second the remainder. -/
theorem bond_distributed_sample :
    ∃ start c, Deployed Sample.env Sample.terms Sample.token start ∧
      run (exec Sample.hashing Sample.env Sample.terms) start Sample.dispute = .ok c ∧
      c.vault.protectionState = .entitled ∧
      ((bondPayments Sample.hashing Sample.env Sample.terms start Sample.dispute).map
        Prod.fst).Nodup := by
  obtain ⟨c, ⟨world, chainId, now, init, s, hconstruct, hrun⟩, hholds⟩ := Sample.dispute_reaches
  have hstart : Deployed Sample.env Sample.terms Sample.token (deployed s Sample.token world) :=
    ⟨world, chainId, now, init, s, hconstruct, rfl⟩
  have hentitled := (of_decide_eq_true hholds).1
  exact ⟨_, c, hstart, hrun, hentitled, (bond_distributed hstart hrun hentitled).1⟩

end

end Mordant.Vault
