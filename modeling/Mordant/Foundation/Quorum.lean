/-
# Quorums

Members of a party of `n` sign, each under a name.  Two lists of names that have more than `n`
entries together share a member.

What members contribute is added up one by one.  Where the sum does not depend on order and
grouping, neither does its failure, and the total is the same whoever came first.
-/

import Mathlib.Data.Fintype.Card

namespace Mordant.Foundation

section

variable {n : ℕ} {α : Type} {name : Fin n → α} {signers others : List α}

/-- The members that a list names. -/
theorem length_le_card_filter [DecidableEq α] (hnodup : signers.Nodup)
    (hnamed : ∀ a ∈ signers, ∃ i, name i = a) :
    signers.length ≤ (Finset.univ.filter fun i => name i ∈ signers).card := by
  have hsub : signers.toFinset ⊆ (Finset.univ.filter fun i => name i ∈ signers).image name := by
    intro a ha
    have ha := List.mem_toFinset.mp ha
    obtain ⟨i, rfl⟩ := hnamed a ha
    exact Finset.mem_image_of_mem _ (Finset.mem_filter.mpr ⟨Finset.mem_univ _, ha⟩)
  calc signers.length
    _ = signers.toFinset.card := (List.toFinset_card_of_nodup hnodup).symm
    _ ≤ _ := Finset.card_le_card hsub
    _ ≤ _ := Finset.card_image_le

/-- Two quorums meet. -/
theorem exists_common_signer (hnodup : signers.Nodup) (hnodup' : others.Nodup)
    (hnamed : ∀ a ∈ signers, ∃ i, name i = a) (hnamed' : ∀ a ∈ others, ∃ i, name i = a)
    (hmany : n < signers.length + others.length) :
    ∃ i, name i ∈ signers ∧ name i ∈ others := by
  classical
  have hfirst := length_le_card_filter hnodup hnamed
  have hsecond := length_le_card_filter hnodup' hnamed'
  have hcard : (Finset.univ : Finset (Fin n)).card <
      (Finset.univ.filter fun i => name i ∈ signers).card +
        (Finset.univ.filter fun i => name i ∈ others).card := by
    rw [Finset.card_univ, Fintype.card_fin]
    omega
  obtain ⟨i, hi⟩ := Finset.inter_nonempty_of_card_lt_card_add_card (Finset.filter_subset _ _)
    (Finset.filter_subset _ _) hcard
  obtain ⟨hi, hi'⟩ := Finset.mem_inter.mp hi
  exact ⟨i, (Finset.mem_filter.mp hi).2, (Finset.mem_filter.mp hi').2⟩

end

/-! ## Contributions -/

section

variable {α : Type} {add : α → α → Option α}

/-- A sum that may fail, and does not depend on order or grouping. -/
structure Additive (add : α → α → Option α) : Prop where
  comm : ∀ a b, add a b = add b a
  assoc : ∀ a b c, (add a b).bind (add · c) = (add b c).bind (add a ·)

/-- The sum so far with one more contribution, if there is one. -/
def contribute (add : α → α → Option α) (total part : Option α) : Option α :=
  part.bind fun a => total.bind (add a)

theorem Additive.add_comm_right (h : Additive add) (total a b : α) :
    (add a total).bind (add b) = (add b total).bind (add a) := by
  calc (add a total).bind (add b)
    _ = (add a total).bind (add · b) := by simp only [h.comm b]
    _ = (add total b).bind (add a) := h.assoc a total b
    _ = (add b total).bind (add a) := by rw [h.comm total b]

theorem Additive.rightCommutative (h : Additive add) : RightCommutative (contribute add) where
  right_comm total first second := by
    cases first with
    | none => cases second <;> rfl
    | some a =>
        cases second with
        | none => rfl
        | some b =>
            cases total with
            | none => rfl
            | some t => exact h.add_comm_right t a b

/-- The total of some contributions does not depend on their order. -/
theorem Additive.foldl_perm (h : Additive add) {parts others : List (Option α)}
    (hperm : parts.Perm others) (total : Option α) :
    parts.foldl (contribute add) total = others.foldl (contribute add) total := by
  have := h.rightCommutative
  exact hperm.foldl_eq total

/-- No total comes of a failure. -/
theorem foldl_contribute_none (parts : List (Option α)) :
    parts.foldl (contribute add) none = none := by
  induction parts with
  | nil => rfl
  | cons part parts ih =>
      rw [List.foldl_cons]
      cases part with
      | none => exact ih
      | some a => exact ih

end

end Mordant.Foundation
