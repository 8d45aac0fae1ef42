/-
# Slot vectors

A batched plaintext is two rows of `m` slots over the integers modulo `T`.
Addition and multiplication act slot by slot; a column rotation shifts both rows
cyclically; a mask keeps listed slots and clears the rest.  Slots are numbered
row by row, so slot `i` is column `i mod m` of row `i / m`.

Columns are indexed by the integers modulo `m`, which makes a rotation a
translation.  The lemmas translate back to slot numbers.
-/

import Mathlib.Data.ZMod.Basic
import Mordant.Foundation.Call

namespace Mordant.Foundation

variable {m T : ℕ}

/-- Two rows of `m` slots with values modulo `T`. -/
abbrev Slots (m T : ℕ) := Fin 2 → ZMod m → ZMod T

namespace Slots

/-- The row of a slot number. -/
def row (m i : ℕ) : Fin 2 := Fin.ofNat 2 (i / m)

/-- The value in slot `i`, for `i < 2 * m`. -/
def get (v : Slots m T) (i : ℕ) : ZMod T := v (row m i) i

/-- A vector from its slot values. -/
def ofSlots (m T : ℕ) (values : ℕ → ℕ) : Slots m T := fun r column =>
  ((values (r.val * m + column.val) : ℕ) : ZMod T)

/-- Cyclic rotation of both rows by `k` columns to the left. -/
def rotate (v : Slots m T) (k : ℤ) : Slots m T := fun r column => v r (column + k)

/-- Subtract a constant from every slot. -/
def subConst (v : Slots m T) (constant : ZMod T) : Slots m T := fun r column =>
  v r column - constant

/-- The 0/1 vector of listed slots. -/
def indicator (m T : ℕ) (slots : List ℕ) : Slots m T := fun r column =>
  if slots.any fun slot => row m slot = r ∧ (slot : ZMod m) = column then 1 else 0

/-- Keep the listed slots and clear the others. -/
def mask (v : Slots m T) (slots : List ℕ) : Slots m T := v * indicator m T slots

/-- The canonical representatives, slot by slot. -/
def decode (v : Slots m T) : List ℕ := (List.range (2 * m)).map fun i => (v.get i).val

theorem get_add (v w : Slots m T) (i : ℕ) : (v + w).get i = v.get i + w.get i := rfl

theorem get_sub (v w : Slots m T) (i : ℕ) : (v - w).get i = v.get i - w.get i := rfl

theorem get_mul (v w : Slots m T) (i : ℕ) : (v * w).get i = v.get i * w.get i := rfl

theorem get_subConst (v : Slots m T) (constant : ZMod T) (i : ℕ) :
    (v.subConst constant).get i = v.get i - constant := rfl

variable {i : ℕ} {v : Slots m T}

theorem row_of_lt (h : i < m) : row m i = 0 := by
  rw [row, Nat.div_eq_of_lt h]
  rfl

/-- Slot numbers identify slots. -/
theorem slot_inj {j : ℕ} (hi : i < 2 * m) (hj : j < 2 * m) (hrow : row m i = row m j)
    (hcolumn : (i : ZMod m) = (j : ZMod m)) : i = j := by
  have hm : 0 < m := by omega
  have hdi : i / m < 2 := (Nat.div_lt_iff_lt_mul hm).mpr hi
  have hdj : j / m < 2 := (Nat.div_lt_iff_lt_mul hm).mpr hj
  have hdiv : i / m = j / m := by
    have hval := congrArg Fin.val hrow
    simp only [row, Fin.val_ofNat, Nat.mod_eq_of_lt hdi, Nat.mod_eq_of_lt hdj] at hval
    exact hval
  have hmod : i % m = j % m := (ZMod.natCast_eq_natCast_iff' i j m).mp hcolumn
  rw [← Nat.div_add_mod i m, ← Nat.div_add_mod j m, hdiv, hmod]

/-- Vectors that agree in every slot are equal. -/
theorem ext_get {w : Slots m T} (hm : 0 < m) (h : ∀ i < 2 * m, v.get i = w.get i) : v = w := by
  have : NeZero m := ⟨hm.ne'⟩
  funext r column
  have hcolumn := ZMod.val_lt column
  have hrow : row m (r.val * m + column.val) = r := by
    rw [row, Nat.add_comm, Nat.add_mul_div_right _ _ hm, Nat.div_eq_of_lt hcolumn, Nat.zero_add]
    exact Fin.ofNat_val_eq_self r
  have hslot : ((r.val * m + column.val : ℕ) : ZMod m) = column := by
    rw [Nat.cast_add, Nat.cast_mul, ZMod.natCast_self, mul_zero, zero_add,
      ZMod.natCast_zmod_val]
  have hlt : r.val * m + column.val < 2 * m := by
    have hr : r.val * m ≤ 1 * m := Nat.mul_le_mul_right m (Nat.lt_succ_iff.mp r.isLt)
    omega
  have hget := h _ hlt
  rwa [get, get, hrow, hslot] at hget

theorem get_ofSlots {values : ℕ → ℕ} (hi : i < 2 * m) :
    (ofSlots m T values).get i = ((values i : ℕ) : ZMod T) := by
  have hm : 0 < m := by omega
  have hdiv : i / m < 2 := (Nat.div_lt_iff_lt_mul hm).mpr hi
  have hrow : (row m i).val = i / m := by
    rw [row, Fin.val_ofNat, Nat.mod_eq_of_lt hdiv]
  have hcolumn : (i : ZMod m).val = i % m := ZMod.val_natCast m i
  rw [get, ofSlots, hrow, hcolumn, Nat.mul_comm, Nat.div_add_mod]

/-- A rotation that stays inside the first row reads the slot `k` further on. -/
theorem get_rotate {k : ℕ} (h : i + k < m) :
    (v.rotate k).get i = v.get (i + k) := by
  rw [get, get, row_of_lt h, row_of_lt (Nat.lt_of_le_of_lt (Nat.le_add_right i k) h), rotate]
  push_cast
  rfl

/-- A backward rotation reads the slot `k` before. -/
theorem get_rotate_neg {k : ℕ} (hk : k ≤ i) (h : i < m) :
    (v.rotate (-(k : ℤ))).get i = v.get (i - k) := by
  rw [get, get, row_of_lt h, row_of_lt (Nat.lt_of_le_of_lt (Nat.sub_le i k) h), rotate,
    Nat.cast_sub hk]
  push_cast
  rw [sub_eq_add_neg]

/-- A backward rotation past the start of the row reads from its end. -/
theorem get_rotate_wrap {k : ℕ} (hk : i < k) (h : k ≤ m) :
    (v.rotate (-(k : ℤ))).get i = v.get (m + i - k) := by
  rw [get, get, row_of_lt (hk.trans_le h), row_of_lt (by omega), rotate,
    Nat.cast_sub (by omega : k ≤ m + i)]
  push_cast
  rw [ZMod.natCast_self, zero_add, sub_eq_add_neg]

/-- Masking keeps the listed slots and clears the others. -/
theorem get_mask {slots : List ℕ} (hslots : ∀ slot ∈ slots, slot < 2 * m) (hi : i < 2 * m) :
    (v.mask slots).get i = if i ∈ slots then v.get i else 0 := by
  have hany : (slots.any fun slot => row m slot = row m i ∧ (slot : ZMod m) = (i : ZMod m)) =
      decide (i ∈ slots) := by
    by_cases hmem : i ∈ slots
    · rw [decide_eq_true hmem, List.any_eq_true]
      exact ⟨i, hmem, decide_eq_true ⟨rfl, rfl⟩⟩
    · rw [decide_eq_false hmem, List.any_eq_false]
      intro slot hslot hsame
      obtain ⟨hrow, hcolumn⟩ := of_decide_eq_true hsame
      exact hmem (slot_inj (hslots slot hslot) hi hrow hcolumn ▸ hslot)
  rw [mask, get_mul]
  change v.get i * (if (slots.any fun slot =>
    row m slot = row m i ∧ (slot : ZMod m) = (i : ZMod m)) then 1 else 0) = _
  rw [hany]
  by_cases hmem : i ∈ slots
  · simp [hmem]
  · simp [hmem]

end Slots

end Mordant.Foundation
