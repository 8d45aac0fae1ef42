/-
# The two lifecycles and the pending record

The protection of a receivable and the receivable itself move on separate
schedules: units can all be redeemed while a conflict is pending, and a default
can be declared only once the reserve is spent.  `Coupled` describes the pairs
of states that occur, read off the books; `PendingFiled` describes the pending
record in each protection state, read off the docket.
-/

import Mordant.Vault.Bond
import Mordant.Vault.Docket

namespace Mordant.Vault

open Evm Foundation

namespace Books

variable {terms : Terms} {b b' : Books}

/-- The pairs of lifecycle states that occur, and the figures that tell them
apart. -/
structure Coupled (b : Books) : Prop where
  issuance : b.protection = .unfunded ↔ b.receivable = .unissued
  defaulted : b.receivable = .defaultOutstanding →
    b.protection = .entitled ∨ b.protection = .released
  exhausted : b.protection ≠ .unfunded → (b.supply = 0 ↔ b.receivable = .redeemed)
  pending : b.protection = .commitPending ∨ b.protection = .conflictConfirmed →
    0 < b.pendingSupply
  entitled : b.protection = .entitled → 0 < b.allocated

theorem Coupled.opening (balance : ℕ) : (Books.opening balance).Coupled where
  issuance := ⟨fun _ => rfl, fun _ => rfl⟩
  defaulted hdefault := nomatch hdefault
  exhausted hfunded := absurd rfl hfunded
  pending hpending := by rcases hpending with hpending | hpending <;> exact nomatch hpending
  entitled hentitled := nomatch hentitled

/-- Steps of a live reserve that leave the receivable and the supply alone. -/
theorem Coupled.frame (h : b.Coupled) (hlive : b.protection ≠ .unfunded)
    (hdefault : b.receivable ≠ .defaultOutstanding) (hlive' : b'.protection ≠ .unfunded)
    (hreceivable : b'.receivable = b.receivable) (hsupply : b'.supply = b.supply)
    (hpending : b'.protection = .commitPending ∨ b'.protection = .conflictConfirmed →
      0 < b'.pendingSupply)
    (hentitled : b'.protection = .entitled → 0 < b'.allocated) : b'.Coupled where
  issuance := by
    rw [hreceivable, ← h.issuance]
    exact ⟨fun hunfunded => absurd hunfunded hlive', fun hunfunded => absurd hunfunded hlive⟩
  defaulted hstate := absurd (hreceivable.symm.trans hstate) hdefault
  exhausted _ := by
    rw [hsupply, hreceivable]
    exact h.exhausted hlive
  pending := hpending
  entitled := hentitled

/-- Units leave: the receivable is retired with the last of them, and an active
reserve may be released. -/
theorem Coupled.exit (h : b.Coupled) {units : ℕ}
    (hstate : b.receivable = .outstanding ∨ b.receivable = .defaultOutstanding)
    (hreceivable : b'.receivable = if b.supply - units = 0 then .redeemed else b.receivable)
    (hprotection : b'.protection = b.protection ∨
      b.protection = .active ∧ b'.protection = .released)
    (hsupply : b'.supply = b.supply - units) (hpending : b'.pendingSupply = b.pendingSupply)
    (hallocated : b'.allocated = b.allocated) : b'.Coupled := by
  have hissued : b.receivable ≠ .unissued := by rcases hstate with h | h <;> rw [h] <;> decide
  have hopen : b.receivable ≠ .redeemed := by rcases hstate with h | h <;> rw [h] <;> decide
  have hlive : b.protection ≠ .unfunded := fun hunfunded => hissued (h.issuance.mp hunfunded)
  have hlive' : b'.protection ≠ .unfunded := by
    rcases hprotection with hsame | ⟨-, hreleased⟩
    · rwa [hsame]
    · rw [hreleased]
      decide
  refine ⟨⟨fun hunfunded => absurd hunfunded hlive', fun hunissued => ?_⟩, fun hdefault => ?_,
    fun _ => ?_, fun hstates => ?_, fun hentitled => ?_⟩
  · rw [hreceivable] at hunissued
    split at hunissued
    · exact nomatch hunissued
    · exact absurd hunissued hissued
  · rw [hreceivable] at hdefault
    split at hdefault
    · exact nomatch hdefault
    · rcases hprotection with hsame | ⟨-, hreleased⟩
      · rw [hsame]
        exact h.defaulted hdefault
      · exact .inr hreleased
  · rw [hsupply, hreceivable]
    split
    · next hempty => exact ⟨fun _ => rfl, fun _ => hempty⟩
    · next hleft => exact ⟨fun hempty => absurd hempty hleft, fun hdone => absurd hdone hopen⟩
  · rw [hpending]
    rcases hprotection with hsame | ⟨-, hreleased⟩
    · exact h.pending (by rwa [hsame] at hstates)
    · rw [hreleased] at hstates
      rcases hstates with hstates | hstates <;> exact nomatch hstates
  · rw [hallocated]
    rcases hprotection with hsame | ⟨-, hreleased⟩
    · exact h.entitled (hsame.symm.trans hentitled)
    · rw [hreleased] at hentitled
      exact nomatch hentitled

/-- Every step of the books keeps the lifecycles coupled. -/
theorem Coupled.step (h : b.Coupled) (hbond : b.BondOrdered terms) (hstep : Step terms b b') :
    b'.Coupled := by
  have hnodefault : b.protection ≠ .entitled → b.protection ≠ .released →
      b.receivable ≠ .defaultOutstanding := by
    intro hentitled hreleased hdefault
    rcases h.defaulted hdefault with hstate | hstate
    · exact hentitled hstate
    · exact hreleased hstate
  cases hstep with
  | idle => exact h
  | activate hstate _ =>
      have hissued : 0 < b.supply + terms.initialUnits := Nat.add_pos_right _ terms.units_pos
      refine ⟨⟨(fun hunfunded => nomatch hunfunded), fun hunissued => nomatch hunissued⟩,
        (fun hdefault => nomatch hdefault), fun _ => ⟨fun hempty => ?_, fun hdone => nomatch hdone⟩,
        fun hpending => ?_, fun hentitled => nomatch hentitled⟩
      · exact absurd hempty hissued.ne'
      · rcases hpending with hpending | hpending <;> exact nomatch hpending
  | commit exposed hstate hpos =>
      exact h.frame (by rw [hstate]; decide)
        (hnodefault (by rw [hstate]; decide) (by rw [hstate]; decide)) (fun hne => nomatch hne)
        rfl rfl (fun _ => hpos) (fun hne => nomatch hne)
  | reveal hstate =>
      exact h.frame (by rw [hstate]; decide)
        (hnodefault (by rw [hstate]; decide) (by rw [hstate]; decide)) (fun hne => nomatch hne)
        rfl rfl (fun _ => h.pending (.inl hstate)) (fun hne => nomatch hne)
  | reopen target hstate =>
      have hlive : b.protection ≠ .unfunded ∧ b.protection ≠ .entitled ∧
          b.protection ≠ .released := by
        rcases hstate with hstate | hstate <;> rw [hstate] <;> decide
      refine h.frame hlive.1 (hnodefault hlive.2.1 hlive.2.2) (fun hne => nomatch hne) rfl rfl
        (fun hpending => ?_) (fun hne => nomatch hne)
      rcases hpending with hpending | hpending <;> exact nomatch hpending
  | finalize hstate =>
      obtain ⟨⟨-, hfrozen, -, -⟩, -⟩ := hbond.inState hstate
      refine h.frame (by rw [hstate]; decide)
        (hnodefault (by rw [hstate]; decide) (by rw [hstate]; decide)) (fun hne => nomatch hne)
        rfl rfl (fun hpending => ?_) (fun _ => ?_)
      · rcases hpending with hpending | hpending <;> exact nomatch hpending
      · change 0 < b.pendingBond
        rw [hfrozen]
        exact ceilShare_pos terms.bond_pos (h.pending (.inr hstate))
  | claimBond | fund | claimCredit =>
      exact ⟨h.issuance, h.defaulted, h.exhausted, h.pending, h.entitled⟩
  | redeem units amount remaining target hstate hexit =>
      refine h.exit hstate rfl ?_ rfl rfl rfl
      rw [redeem_protection]
      split
      · next hlast => exact .inr ⟨hlast.1, rfl⟩
      · exact .inl rfl
  | close hstate =>
      refine ⟨⟨(fun hunfunded => nomatch hunfunded), fun hunissued => ?_⟩, fun _ => .inr rfl,
        fun _ => ?_, fun hpending => ?_, fun hentitled => nomatch hentitled⟩
      · change (if b.supply ≠ 0 then ReceivableState.defaultOutstanding else .redeemed) = .unissued
          at hunissued
        split at hunissued <;> exact nomatch hunissued
      · change b.supply = 0 ↔
          (if b.supply ≠ 0 then ReceivableState.defaultOutstanding else .redeemed) = .redeemed
        by_cases hempty : b.supply = 0
        · rw [if_neg (not_not.mpr hempty)]
          exact ⟨fun _ => rfl, fun _ => hempty⟩
        · rw [if_pos hempty]
          exact ⟨fun hnone => absurd hnone hempty, fun hdone => nomatch hdone⟩
      · rcases hpending with hpending | hpending <;> exact nomatch hpending
  | markDefault hstate hreceivable =>
      have hlive : b.protection ≠ .unfunded := by rw [hstate]; decide
      have hheld : ¬ b.supply = 0 := fun hempty =>
        nomatch hreceivable.symm.trans ((h.exhausted hlive).mp hempty)
      exact ⟨⟨fun hunfunded => absurd hunfunded hlive, fun hunissued => nomatch hunissued⟩,
        fun _ => .inl hstate,
        fun _ => ⟨fun hempty => absurd hempty hheld, fun hdone => nomatch hdone⟩,
        h.pending, h.entitled⟩
  | handOver units amount remaining hstate hexit =>
      exact h.exit (.inr hstate) rfl (.inl rfl) rfl rfl rfl

/-- A released reserve stays released. -/
theorem Step.released (hstep : Step terms b b') (hstate : b.protection = .released) :
    b'.protection = .released := by
  cases hstep with
  | idle | claimBond | fund | claimCredit | markDefault | handOver => exact hstate
  | close => rfl
  | activate hother | commit _ hother | reveal hother | finalize hother =>
      rw [hstate] at hother
      exact nomatch hother
  | reopen target hother =>
      rcases hother with hother | hother <;> rw [hstate] at hother <;> exact nomatch hother
  | redeem units amount remaining target =>
      rw [redeem_protection, if_neg (by rw [hstate]; exact fun hlast => nomatch hlast.1), hstate]

/-- An issued receivable stays issued. -/
theorem Step.issued (hstep : Step terms b b') (hstate : b.receivable ≠ .unissued) :
    b'.receivable ≠ .unissued := by
  cases hstep with
  | idle | commit | reveal | reopen | finalize | claimBond | fund | claimCredit => exact hstate
  | activate | markDefault => exact fun hne => nomatch hne
  | redeem units amount remaining target | handOver units amount remaining =>
      change (if b.supply - units = 0 then ReceivableState.redeemed else b.receivable) ≠ .unissued
      split
      · decide
      · exact hstate
  | close =>
      change (if b.supply ≠ 0 then ReceivableState.defaultOutstanding else .redeemed) ≠ .unissued
      split <;> decide

end Books

/-! ## The pending record -/

/-- The pending record in each protection state. -/
structure PendingFiled (d : Docket) : Prop where
  idle : d.protectionState ≠ .commitPending → d.protectionState ≠ .conflictConfirmed →
    d.pendingConflict = {}
  committed : d.protectionState = .commitPending →
    d.pendingConflict.conflictingPledgeDigest = 0 ∧ d.pendingConflict.conflictSigner = 0 ∧
      d.pendingConflict.cureDeadline = 0
  confirmed : d.protectionState = .conflictConfirmed →
    d.pendingConflict.conflictingPledgeDigest ≠ 0 ∧ d.pendingConflict.conflictSigner ≠ 0 ∧
      d.pendingConflict.cureDeadline ≠ 0

section

variable {W : Type} {crypto : Crypto} {env : Externals W} {terms : Terms} {token : Settlement}
variable {events : List (Event W)} {c c' : Chain W} {d : Docket}

/-- The pledges a run revealed hash to something. A digest of zero would be a
preimage of zero under the hash. -/
def RevealsHash (crypto : Crypto) (terms : Terms) (events : List (Event W)) : Prop :=
  ∀ msg pledge signature salt, .call msg (.revealConflict pledge signature salt) ∈ events →
    hashPledge crypto terms pledge ≠ 0

/-- An event that leaves the pending record and the protection state alone. -/
theorem PendingFiled.frame {d' : Docket} (h : PendingFiled d)
    (hstate : d'.protectionState = d.protectionState)
    (hpending : d'.pendingConflict = d.pendingConflict) : PendingFiled d' := by
  obtain ⟨hidle, hcommitted, hconfirmed⟩ := h
  exact ⟨by rwa [hstate, hpending], by rwa [hstate, hpending], by rwa [hstate, hpending]⟩

/-- A state outside both pending ones has an empty record. -/
theorem PendingFiled.empty (h : PendingFiled d) {state : ProtectionState}
    (hstate : d.protectionState = state) (hcommit : state ≠ .commitPending)
    (hconfirm : state ≠ .conflictConfirmed) : d.pendingConflict = {} :=
  h.idle (by rwa [hstate]) (by rwa [hstate])

/-- An event that ends outside both pending states with an empty record. -/
theorem PendingFiled.cleared (hpending : d.pendingConflict = {}) {state : ProtectionState}
    (hstate : d.protectionState = state) (hcommit : state ≠ .commitPending)
    (hconfirm : state ≠ .conflictConfirmed) :
    PendingFiled d where
  idle _ _ := hpending
  committed hother := absurd (hstate.symm.trans hother) hcommit
  confirmed hother := absurd (hstate.symm.trans hother) hconfirm

theorem PendingFiled.step {event : Event W} (htimed : terms.Timed) (h : PendingFiled c.vault.docket)
    (hhash : RevealsHash crypto terms [event])
    (hstep : DocketStep crypto env terms c event d) : PendingFiled d := by
  cases hstep with
  | activate hstate =>
      exact .cleared (h.empty hstate (by decide) (by decide)) rfl (fun hne => nomatch hne)
        (fun hne => nomatch hne)
  | authorize => exact h.frame rfl rfl
  | commit =>
      exact ⟨fun hne => absurd rfl hne, fun _ => ⟨rfl, rfl, rfl⟩, fun hother => nomatch hother⟩
  | @reveal msg pledge signature salt hstate _ _ haccepted =>
      refine ⟨fun _ hne => absurd rfl hne, (fun hother => nomatch hother), fun _ => ⟨?_, ?_, ?_⟩⟩
      · exact hhash msg pledge signature salt List.mem_cons_self
      · exact Crypto.ecdsaRecover_ne_zero haccepted.signed
      · exact (Nat.add_pos_right _ htimed.cure_pos).ne'
  | expire | cure | finalize =>
      exact .cleared rfl rfl (fun hne => nomatch hne) (fun hne => nomatch hne)
  | claim => exact h.frame rfl rfl
  | release hstate =>
      exact .cleared (h.empty hstate (by decide) (by decide)) rfl (fun hne => nomatch hne)
        (fun hne => nomatch hne)
  | quiet => exact h

theorem Reaches.pendingFiled (hreach : Reaches crypto env terms token events c)
    (hhash : RevealsHash crypto terms events) : PendingFiled c.vault.docket := by
  refine hreach.history (P := fun events c => RevealsHash crypto terms events →
    PendingFiled c.vault.docket) ?_ ?_ hhash
  · exact fun signer world _ =>
      .cleared rfl rfl (fun hne => nomatch hne) (fun hne => nomatch hne)
  · intro before event c₁ c₂ hbefore hfiled hexec hhash
    refine (hfiled ?_).step hbefore.timed ?_ (exec_docket hexec).step
    · exact fun msg pledge signature salt hmem =>
        hhash msg pledge signature salt (List.mem_append_left _ hmem)
    · exact fun msg pledge signature salt hmem =>
        hhash msg pledge signature salt (List.mem_append_right _ hmem)

/-- Every reachable chain has its lifecycles coupled. -/
theorem Reaches.coupled (hreach : Reaches crypto env terms token events c) :
    UnitsConsistent c.vault ∧ (books terms c).BondOrdered terms ∧ (books terms c).Coupled :=
  hreach.books_invariant (P := fun b => b.BondOrdered terms ∧ b.Coupled)
    ⟨Books.BondOrdered.opening terms _, Books.Coupled.opening _⟩
    (fun _ _ h hstep => ⟨h.1.step hstep, h.2.step h.1 hstep⟩)
    (fun _ _ _ _ _ h => ⟨⟨h.1.supply, h.1.bond⟩,
      ⟨h.2.issuance, h.2.defaulted, h.2.exhausted, h.2.pending, h.2.entitled⟩⟩)

/-- The lifecycles, the supply, the pending record and the entitlement of a
vault, in its own terms. -/
structure LifecycleCoupled (s : VaultState) : Prop where
  issuance : s.protectionState = .unfunded ↔ s.receivableState = .unissued
  defaulted : s.receivableState = .defaultOutstanding →
    s.protectionState = .entitled ∨ s.protectionState = .released
  exhausted : s.protectionState ≠ .unfunded →
    (s.totalSupply = 0 ↔ s.receivableState = .redeemed)
  idle : s.protectionState ≠ .commitPending → s.protectionState ≠ .conflictConfirmed →
    s.pendingConflict = {}
  digest : s.pendingConflict.conflictingPledgeDigest ≠ 0 ↔ s.protectionState = .conflictConfirmed
  signer : s.pendingConflict.conflictSigner ≠ 0 ↔ s.protectionState = .conflictConfirmed
  cure : s.pendingConflict.cureDeadline ≠ 0 ↔ s.protectionState = .conflictConfirmed
  entitlement : 0 < s.entitlementAllocated ↔ s.protectionState = .entitled

/-- The states no event leaves, and those no event returns to. -/
structure LifecycleForward (s s' : VaultState) : Prop where
  entitled : s.protectionState = .entitled → s'.protectionState = .entitled
  released : s.protectionState = .released → s'.protectionState = .released
  funded : s.protectionState ≠ .unfunded → s'.protectionState ≠ .unfunded
  issued : s.receivableState ≠ .unissued → s'.receivableState ≠ .unissued

theorem exec_forward (hunits : UnitsConsistent c.vault) {event : Event W}
    (h : exec crypto env terms c event = .ok c') : LifecycleForward c.vault c'.vault := by
  rcases exec_cases hunits h with hrefines | hvault
  · have hstep := hrefines.step
    exact ⟨fun hstate => (hstep.entitled hstate).1, hstep.released, hstep.funded, hstep.issued⟩
  · rw [hvault]
    exact ⟨id, id, id, id⟩

/-- A field of the pending record that only a reveal sets. -/
theorem PendingFiled.nonzero_iff (h : PendingFiled d) {α : Type} [Zero α]
    (field : PendingConflict → α) (hempty : field {} = 0)
    (hcommitted : d.protectionState = .commitPending → field d.pendingConflict = 0)
    (hconfirmed : d.protectionState = .conflictConfirmed → field d.pendingConflict ≠ 0) :
    field d.pendingConflict ≠ 0 ↔ d.protectionState = .conflictConfirmed := by
  refine ⟨fun hne => ?_, hconfirmed⟩
  by_contra hother
  by_cases hcommit : d.protectionState = .commitPending
  · exact hne (hcommitted hcommit)
  · rw [h.idle hcommit hother] at hne
    exact hne hempty

/-- **Lifecycle coupling.** In every reachable state the two lifecycles, the
supply, the pending record and the entitlement agree, and no event leaves
`Entitled` or `Released` or returns to `Unfunded` or `Unissued`. -/
theorem lifecycle_coupled (hreach : Reaches crypto env terms token events c)
    (hhash : RevealsHash crypto terms events) :
    LifecycleCoupled c.vault ∧
      ∀ event c', exec crypto env terms c event = .ok c' → LifecycleForward c.vault c'.vault := by
  obtain ⟨hunits, hbond, hcoupled⟩ := hreach.coupled
  have hfiled := hreach.pendingFiled hhash
  refine ⟨?_, fun event c' hexec => exec_forward hunits hexec⟩
  exact
    { issuance := hcoupled.issuance
      defaulted := hcoupled.defaulted
      exhausted := hcoupled.exhausted
      idle := hfiled.idle
      digest := hfiled.nonzero_iff PendingConflict.conflictingPledgeDigest rfl
        (fun hstate => (hfiled.committed hstate).1) (fun hstate => (hfiled.confirmed hstate).1)
      signer := hfiled.nonzero_iff PendingConflict.conflictSigner rfl
        (fun hstate => (hfiled.committed hstate).2.1) (fun hstate => (hfiled.confirmed hstate).2.1)
      cure := hfiled.nonzero_iff PendingConflict.cureDeadline rfl
        (fun hstate => (hfiled.committed hstate).2.2) (fun hstate => (hfiled.confirmed hstate).2.2)
      entitlement := by
        refine ⟨fun hpos => ?_, hcoupled.entitled⟩
        by_contra hother
        exact hpos.ne' (hbond.unallocated hother) }

/-- The sample dispute reveals a pledge and ends in an entitlement. -/
theorem lifecycle_coupled_sample :
    ∃ c, Reaches Sample.hashing Sample.env Sample.terms Sample.token Sample.dispute c ∧
      LifecycleCoupled c.vault := by
  obtain ⟨c, hreach, -⟩ := Sample.dispute_reaches
  have hhash : RevealsHash Sample.hashing Sample.terms Sample.dispute := by
    intro msg pledge signature salt hmem
    have hreveal : msg = ⟨0x21, 10, 4⟩ ∧ pledge = Sample.rival ∧ signature = Sample.signature ∧
        salt = 7 := by simpa [Sample.dispute] using hmem
    rw [hreveal.2.1]
    decide +kernel
  exact ⟨c, hreach, (lifecycle_coupled hreach hhash).1⟩

end

end Mordant.Vault
