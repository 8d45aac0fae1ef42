/-
# Face value over partial exits

Units leave against cash or against the custody asset, each exit for the
rounded-down share of the face value and the last one for the remainder.  What
has been paid out is therefore at most the share of the units already gone, and
reaches the face value exactly with the last unit.  The escrow never exceeds
what can still be owed: a default exit lowers that, and the excess goes back to
the buyer.
-/

import Mordant.Vault.Bond

namespace Mordant.Vault

open Evm Foundation

namespace Books

variable {terms : Terms} {b b' : Books} {units amount remaining : ℕ}

/-- Face value that has left the vault, in cash or as custody asset. -/
def gone (b : Books) : ℕ := b.redeemedFace + b.releasedFace

/-- The face-value figures of a vault with units issued. -/
structure FaceIssued (terms : Terms) (b : Books) : Prop where
  supply : b.supply ≤ terms.initialUnits
  custody : b.custody = b.supply
  escrow : b.gone + b.escrow ≤ terms.faceValue
  prorata : 0 < b.supply →
    b.gone ≤ floorShare terms.faceValue (terms.initialUnits - b.supply) terms.initialUnits
  complete : b.supply = 0 → b.gone = terms.faceValue

/-- Nothing has happened before activation; afterwards the figures are in
order. -/
structure FaceOrdered (terms : Terms) (b : Books) : Prop where
  unissued : b.protection = .unfunded →
    b.supply = 0 ∧ b.gone = 0 ∧ b.escrow = 0 ∧ b.receivable = .unissued
  issued : b.protection ≠ .unfunded → b.FaceIssued terms

theorem FaceOrdered.opening (terms : Terms) (balance : ℕ) :
    (Books.opening balance).FaceOrdered terms :=
  ⟨fun _ => ⟨rfl, rfl, rfl, rfl⟩, fun hfunded => absurd rfl hfunded⟩

/-- A live receivable belongs to an issued vault. -/
theorem FaceOrdered.live (h : b.FaceOrdered terms)
    (hstate : b.receivable = .outstanding ∨ b.receivable = .defaultOutstanding) :
    b.protection ≠ .unfunded := by
  intro hunfunded
  obtain ⟨-, -, -, hunissued⟩ := h.unissued hunfunded
  rcases hstate with hstate | hstate <;> rw [hunissued] at hstate <;> exact nomatch hstate

/-- An exit's face value never exceeds the remaining liability. -/
theorem FaceIssued.share_le (h : b.FaceIssued terms) (hpos : 0 < units) (hheld : units ≤ b.supply)
    (hshare : b.FaceShare terms units amount) : b.gone + amount ≤ terms.faceValue := by
  by_cases hall : units = b.supply
  · exact (hshare.last hall).le
  · have hrange := h.supply
    have hexit := floorShare_exit (k := units) (h.prorata (by omega))
    rw [hshare.part hall]
    exact hexit.trans (floorShare_le terms.units_pos (by omega))

/-- **One exit.** Whatever else the call does, once the exit's units and face
value are out of the books and the escrow is trimmed to the remaining
liability, the figures are in order again. -/
theorem FaceIssued.exit (h : b.FaceIssued terms) (hexit : b.Exit terms units amount)
    (hremaining : b.gone + amount + remaining = terms.faceValue)
    (hsupply : b'.supply = b.supply - units) (hcustody : b'.custody = b.custody - units)
    (hgone : b'.gone = b.gone + amount) (hescrow : b'.escrow ≤ remaining) :
    b'.FaceIssued terms where
  supply := by
    rw [hsupply]
    exact (Nat.sub_le _ _).trans h.supply
  custody := by rw [hsupply, hcustody, h.custody]
  escrow := by omega
  prorata hleft := by
    have hpos := hexit.pos
    have hheld := hexit.held
    have hrange := h.supply
    have hpart : units ≠ b.supply := by omega
    have hshare := floorShare_exit (k := units) (h.prorata (by omega))
    rw [hgone, hexit.share.part hpart, hsupply,
      show terms.initialUnits - (b.supply - units) = terms.initialUnits - b.supply + units by omega]
    exact hshare
  complete hnone := by
    have hheld := hexit.held
    have hlast : units = b.supply := by omega
    rw [hgone]
    exact hexit.share.last hlast

/-- Steps of a funded vault that leave the face-value figures alone. -/
theorem FaceOrdered.frame (h : b.FaceOrdered terms) (hbefore : b.protection ≠ .unfunded)
    (hafter : b'.protection ≠ .unfunded) (hsupply : b'.supply = b.supply)
    (hcustody : b'.custody = b.custody) (hgone : b'.gone = b.gone)
    (hescrow : b'.escrow = b.escrow) : b'.FaceOrdered terms := by
  have hissued := h.issued hbefore
  refine ⟨fun hunfunded => absurd hunfunded hafter, fun _ => ⟨?_, ?_, ?_, ?_, ?_⟩⟩
  · rw [hsupply]
    exact hissued.supply
  · rw [hsupply, hcustody]
    exact hissued.custody
  · rw [hgone, hescrow]
    exact hissued.escrow
  · rw [hsupply, hgone]
    exact hissued.prorata
  · rw [hsupply, hgone]
    exact hissued.complete

theorem FaceOrdered.activate (h : b.FaceOrdered terms) (hstate : b.protection = .unfunded) :
    (b.activated terms).FaceOrdered terms := by
  obtain ⟨hsupply, hgone, hescrow, -⟩ := h.unissued hstate
  have hpos := terms.units_pos
  have hissued : (b.activated terms).supply = terms.initialUnits := by
    simp only [activated]
    omega
  have hface : (b.activated terms).gone = 0 := hgone
  refine ⟨fun hunfunded => ?_,
    fun _ => ⟨hissued.le, hissued.symm, ?_, fun _ => ?_, fun hnone => ?_⟩⟩
  · cases hunfunded
  · rw [hface]
    change 0 + b.escrow ≤ terms.faceValue
    omega
  · rw [hface]
    exact Nat.zero_le _
  · omega

/-- Every step of the books keeps the face-value figures in order. -/
theorem FaceOrdered.step (h : b.FaceOrdered terms) (hstep : Step terms b b') :
    b'.FaceOrdered terms := by
  have hfunded := hstep.funded
  cases hstep with
  | idle => exact h
  | activate hstate _ => exact h.activate hstate
  | commit _ hstate | reveal hstate | finalize hstate | close hstate | claimBond _ _ hstate
  | markDefault hstate =>
      have hbefore : b.protection ≠ .unfunded := by rw [hstate]; decide
      exact h.frame hbefore (hfunded hbefore) rfl rfl rfl rfl
  | reopen target hstate =>
      have hbefore : b.protection ≠ .unfunded := by
        rcases hstate with hstate | hstate <;> rw [hstate] <;> decide
      exact h.frame hbefore (hfunded hbefore) rfl rfl rfl rfl
  | fund amount hstate hroom =>
      have hbefore := h.live hstate
      have hissued := h.issued hbefore
      refine ⟨fun hunfunded => absurd hunfunded hbefore, fun _ => ?_⟩
      refine ⟨hissued.supply, hissued.custody, ?_, hissued.prorata, hissued.complete⟩
      change b.redeemedFace + b.releasedFace + (b.escrow + amount) ≤ terms.faceValue
      omega
  | claimCredit =>
      exact ⟨fun hunfunded => h.unissued hunfunded, fun hbefore =>
        ⟨(h.issued hbefore).supply, (h.issued hbefore).custody, (h.issued hbefore).escrow,
          (h.issued hbefore).prorata, (h.issued hbefore).complete⟩⟩
  | redeem units amount remaining target hstate hexit hescrow _ hremaining =>
      have hbefore := h.live hstate
      refine ⟨fun hunfunded => absurd hunfunded (hfunded hbefore), fun _ => ?_⟩
      refine (h.issued hbefore).exit hexit hremaining rfl rfl ?_ (Nat.min_le_right _ _)
      exact Nat.add_right_comm _ _ _
  | handOver units amount remaining hstate hexit hremaining =>
      have hbefore := h.live (.inr hstate)
      refine ⟨fun hunfunded => absurd hunfunded (hfunded hbefore), fun _ => ?_⟩
      refine (h.issued hbefore).exit hexit hremaining rfl rfl ?_ (Nat.min_le_right _ _)
      exact (Nat.add_assoc _ _ _).symm

end Books

section

variable {W : Type} {crypto : Crypto} {env : Externals W} {terms : Terms} {token : Settlement}
variable {events : List (Event W)} {c c' : Chain W} {msg : Msg}

/-- The face-value figures, in the vault's own terms. -/
structure FaceAccounting (terms : Terms) (s : VaultState) : Prop where
  covered : s.redeemedFace + s.cvaReleasedFace + s.redemptionEscrow ≤ terms.faceValue
  prorata : 0 < s.totalSupply → s.redeemedFace + s.cvaReleasedFace ≤
    terms.faceValue * (terms.initialUnits - s.totalSupply) / terms.initialUnits
  complete : s.redeemedFace + s.cvaReleasedFace = terms.faceValue ↔ s.totalSupply = 0

theorem faceAccounting_of_books (hface : (books terms c).FaceIssued terms) :
    FaceAccounting terms c.vault where
  covered := hface.escrow
  prorata := hface.prorata
  complete := by
    refine ⟨fun hall => ?_, hface.complete⟩
    by_contra hsupply
    have hpos : 0 < c.vault.totalSupply := Nat.pos_of_ne_zero hsupply
    have hunits := terms.units_pos
    have hpaid : c.vault.redeemedFace + c.vault.cvaReleasedFace ≤ _ := hface.prorata hpos
    have hshort : floorShare terms.faceValue (terms.initialUnits - c.vault.totalSupply)
        terms.initialUnits < terms.faceValue :=
      floorShare_lt (lt_of_lt_of_le hunits terms.units_le_face) (by omega)
    exact absurd (hpaid.trans_lt hshort) (by rw [hall]; exact lt_irrefl _)

/-- Every reachable chain has its face-value figures in order. -/
theorem Reaches.faceOrdered (hreach : Reaches crypto env terms token events c) :
    UnitsConsistent c.vault ∧ (books terms c).FaceOrdered terms :=
  hreach.books_invariant (P := fun b => b.FaceOrdered terms) (Books.FaceOrdered.opening terms _)
    (fun _ _ hface hstep => hface.step hstep)
    (fun _ _ _ _ _ hface => ⟨hface.unissued, fun hfunded =>
      ⟨(hface.issued hfunded).supply, (hface.issued hfunded).custody,
        (hface.issued hfunded).escrow, (hface.issued hfunded).prorata,
        (hface.issued hfunded).complete⟩⟩)

/-- `_faceAmount` returns for every exit the supply allows. -/
theorem faceAmount_ok (hface : (books terms c).FaceIssued terms) {units : ℕ}
    (hheld : units ≤ c.vault.totalSupply) :
    ∃ amount, faceAmount terms c.vault units c.vault.totalSupply = .ok amount := by
  unfold faceAmount
  by_cases hall : units = c.vault.totalSupply
  · rw [if_pos hall]
    have hescrow := hface.escrow
    simp only [Books.gone, books, booksOf] at hescrow
    refine ⟨terms.faceValue - (c.vault.redeemedFace + c.vault.cvaReleasedFace), ?_⟩
    rw [remainingLiability_ok_iff]
    omega
  · rw [if_neg hall]
    have hrange : c.vault.totalSupply ≤ terms.initialUnits := hface.supply
    have hshare : floorShare terms.faceValue units terms.initialUnits ≤ terms.faceValue :=
      floorShare_le terms.units_pos (hheld.trans hrange)
    refine ⟨floorShare terms.faceValue units terms.initialUnits, ?_⟩
    rw [mulDiv_ok_iff]
    exact ⟨⟨terms.units_pos.ne', hshare.trans_lt terms.face_lt⟩, rfl⟩

/-- The liability left after an exit is what the refund computes. -/
theorem remainingLiability_exit (hface : (books terms c).FaceIssued terms) {units amount : ℕ}
    (hexit : (books terms c).Exit terms units amount)
    (hgone : (books terms c').gone = (books terms c).gone + amount) :
    ∃ remaining, remainingLiability terms c'.vault = .ok remaining := by
  have hbound := hface.share_le hexit.pos hexit.held hexit.share
  rw [← hgone] at hbound
  refine ⟨terms.faceValue - (books terms c').gone, ?_⟩
  rw [remainingLiability_ok_iff]
  simp only [Books.gone, books, booksOf] at hbound ⊢
  omega

/-- The liability that remains is what the code computes. -/
theorem remainingLiability_ok (hface : FaceAccounting terms c.vault) :
    ∃ remaining, remainingLiability terms c.vault = .ok remaining ∧
      c.vault.redemptionEscrow ≤ remaining := by
  have hcovered := hface.covered
  refine ⟨terms.faceValue - (c.vault.redeemedFace + c.vault.cvaReleasedFace), ?_, by omega⟩
  rw [remainingLiability_ok_iff]
  omega

/-- **Face-value accounting.** In every state reached after activation the three
laws hold; the subtractions of `fundRedemption` and `_faceAmount` and those of
`_refundExcessRedemptionEscrow`, on the storage `redeem` and `releaseDefaultCva`
hand to it, are covered; and an escrow that covers the whole remaining liability
passes the escrow check of every redemption a holder can ask for. -/
theorem face_accounting (hreach : Reaches crypto env terms token events c)
    (hactivated : ∃ event ∈ events, event.IsActivation) :
    FaceAccounting terms c.vault ∧
      (∃ remaining unfunded, remainingLiability terms c.vault = .ok remaining ∧
        (checkedSub remaining c.vault.redemptionEscrow : Except VaultError ℕ) = .ok unfunded) ∧
      (∀ units, units ≤ c.vault.totalSupply →
        ∃ amount, faceAmount terms c.vault units c.vault.totalSupply = .ok amount) ∧
      (∀ msg units amount c', redeemPaid env terms c msg units = .ok (amount, c') →
        ∃ remaining, remainingLiability terms c'.vault = .ok remaining) ∧
      (∀ msg units c', defaultCvaReleased env terms c msg units = .ok c' →
        ∃ remaining, remainingLiability terms c'.vault = .ok remaining) ∧
      (terms.faceValue - c.vault.redeemedFace - c.vault.cvaReleasedFace ≤
          c.vault.redemptionEscrow →
        ∀ holder units, 0 < units → units ≤ c.vault.balanceOf holder →
          ∃ amount, faceAmount terms c.vault units c.vault.totalSupply = .ok amount ∧
            ¬ (c.vault.redemptionEscrow < amount ∨ c.vault.cvaAccounted < units)) := by
  obtain ⟨hunits, hordered⟩ := hreach.faceOrdered
  have hface := hordered.issued (hreach.activated hactivated)
  have haccounting := faceAccounting_of_books hface
  refine ⟨haccounting, ?_, ?_, ?_, ?_, ?_⟩
  · obtain ⟨remaining, hremaining, hescrow⟩ := remainingLiability_ok haccounting
    exact ⟨remaining, _, hremaining, checkedSub_ok_iff.mpr ⟨hescrow, rfl⟩⟩
  · exact fun units hheld => faceAmount_ok hface hheld
  · intro msg units amount c' hpaid
    have heffect := redeemPaid_ok hunits hpaid
    refine remainingLiability_exit hface heffect.exit ?_
    rw [heffect.figures]
    exact Nat.add_right_comm _ _ _
  · intro msg units c' hreleased
    obtain ⟨amount, heffect⟩ := defaultCvaReleased_ok hunits hreleased
    refine remainingLiability_exit hface heffect.exit ?_
    rw [heffect.figures]
    exact (Nat.add_assoc _ _ _).symm
  · intro hcovered holder units hpos hheld
    have hsupply := le_sum c.vault.balanceOf holder
    rw [hunits.total] at hsupply
    obtain ⟨amount, hamount⟩ := faceAmount_ok hface (hheld.trans hsupply)
    have hbound : c.vault.redeemedFace + c.vault.cvaReleasedFace + amount ≤ terms.faceValue :=
      hface.share_le hpos (hheld.trans hsupply) (faceAmount_share hamount)
    have hcustody : c.vault.cvaAccounted = c.vault.totalSupply := hface.custody
    exact ⟨amount, hamount, by omega⟩

/-- The sample run has redeemed three of its ten units. -/
theorem face_accounting_sample :
    ∃ c, Reaches Sample.crypto Sample.env Sample.terms Sample.token Sample.events c ∧
      FaceAccounting Sample.terms c.vault := by
  obtain ⟨c, hreach⟩ := Sample.reaches
  exact ⟨c, hreach, (face_accounting hreach Sample.activates).1⟩

end

end Mordant.Vault
