/-
# Pro-rata shares, rounded down and rounded up

An amount `total` is spread over `parts` equal parts.  Redeeming `k` parts pays
the floor of its share; securing `k` parts reserves the ceiling.  Partial floors
never overtake the floor of the parts already gone, whatever the order and the
sizes of the pieces; the floors of pieces that make up the whole fall short of it
by less than one a piece; and a ceiling reserve is monotone and exact at both
ends.
-/

import Mathlib.Algebra.Order.BigOperators.Group.List
import Mathlib.Algebra.Order.Floor.Div
import Mathlib.Tactic.Ring
import Mathlib.Tactic.Linarith

namespace Mordant.Foundation

/-- The share of `k` of `parts` parts of `total`, rounded down. -/
def floorShare (total k parts : ℕ) : ℕ := total * k / parts

/-- The share of `k` of `parts` parts of `total`, rounded up: the quotient, and
one more when the division leaves a remainder. -/
def ceilShare (total k parts : ℕ) : ℕ :=
  total * k / parts + if total * k % parts ≠ 0 then 1 else 0

section

variable {total parts : ℕ}

theorem floorShare_add_le (j k : ℕ) :
    floorShare total j parts + floorShare total k parts ≤ floorShare total (j + k) parts := by
  unfold floorShare
  rw [Nat.mul_add]
  exact Nat.div_add_div_le_add_div

theorem floorShare_mono {j k : ℕ} (h : j ≤ k) :
    floorShare total j parts ≤ floorShare total k parts :=
  Nat.div_le_div_right (Nat.mul_le_mul_left _ h)

theorem floorShare_all (hparts : 0 < parts) : floorShare total parts parts = total :=
  Nat.mul_div_cancel _ hparts

theorem floorShare_le (hparts : 0 < parts) {k : ℕ} (h : k ≤ parts) :
    floorShare total k parts ≤ total :=
  (floorShare_mono h).trans_eq (floorShare_all hparts)

/-- Any proper part leaves something of a positive amount behind. -/
theorem floorShare_lt (htotal : 0 < total) {k : ℕ} (h : k < parts) :
    floorShare total k parts < total := by
  have hparts : 0 < parts := lt_of_le_of_lt (Nat.zero_le k) h
  rw [floorShare, Nat.div_lt_iff_lt_mul hparts]
  exact (Nat.mul_lt_mul_left htotal).mpr h

/-- **Partial exits.** If what was paid so far is at most the floor of the parts
already gone, paying the floor for `k` more parts keeps it so. -/
theorem floorShare_exit {paid gone k : ℕ} (hpaid : paid ≤ floorShare total gone parts) :
    paid + floorShare total k parts ≤ floorShare total (gone + k) parts :=
  le_trans (Nat.add_le_add_right hpaid _) (floorShare_add_le gone k)

/-- Euclidean division, summed over the pieces. -/
theorem sum_floorShare_mod (total parts : ℕ) (pieces : List ℕ) :
    parts * (pieces.map fun k => floorShare total k parts).sum +
      (pieces.map fun k => total * k % parts).sum = total * pieces.sum := by
  induction pieces with
  | nil => simp
  | cons k pieces ih =>
      simp only [List.map_cons, List.sum_cons, Nat.mul_add]
      have hpiece := Nat.div_add_mod (total * k) parts
      simp only [floorShare] at ih ⊢
      omega

/-- Floors of pieces that fit never overtake the amount. -/
theorem sum_floorShare_le (total : ℕ) (hparts : 0 < parts) {pieces : List ℕ}
    (hfit : pieces.sum ≤ parts) :
    (pieces.map fun k => floorShare total k parts).sum ≤ total := by
  have hsplit := sum_floorShare_mod total parts pieces
  refine Nat.le_of_mul_le_mul_left ?_ hparts
  calc parts * (pieces.map fun k => floorShare total k parts).sum
      ≤ total * pieces.sum := Nat.le.intro hsplit
    _ ≤ total * parts := Nat.mul_le_mul_left _ hfit
    _ = parts * total := Nat.mul_comm _ _

/-- Floors of pieces that make up the whole fall short of the amount by less
than one for each piece. -/
theorem lt_sum_floorShare_add (total : ℕ) (hparts : 0 < parts) {pieces : List ℕ}
    (hall : pieces.sum = parts) :
    total < (pieces.map fun k => floorShare total k parts).sum + pieces.length := by
  have hsplit := sum_floorShare_mod total parts pieces
  have hne : pieces ≠ [] := by
    rintro rfl
    exact hparts.ne hall
  have hremainders : (pieces.map fun k => total * k % parts).sum < parts * pieces.length := by
    have hlt := List.sum_lt_sum_of_ne_nil hne (fun k => total * k % parts) (fun _ => parts)
      (fun k _ => Nat.mod_lt _ hparts)
    rwa [List.map_const', List.sum_replicate, smul_eq_mul, Nat.mul_comm] at hlt
  refine Nat.lt_of_mul_lt_mul_left (a := parts) ?_
  calc parts * total = total * pieces.sum := by rw [hall, Nat.mul_comm]
    _ = parts * (pieces.map fun k => floorShare total k parts).sum +
          (pieces.map fun k => total * k % parts).sum := hsplit.symm
    _ < parts * (pieces.map fun k => floorShare total k parts).sum + parts * pieces.length :=
        Nat.add_lt_add_left hremainders _
    _ = parts * ((pieces.map fun k => floorShare total k parts).sum + pieces.length) :=
        (Nat.mul_add _ _ _).symm

end

section

variable {total parts : ℕ}

theorem ceilShare_all (hparts : 0 < parts) : ceilShare total parts parts = total := by
  simp [ceilShare, Nat.mul_div_cancel _ hparts]

@[simp]
theorem ceilShare_zero : ceilShare total 0 parts = 0 := by
  simp [ceilShare]

/-- A positive part of a positive amount rounds up to something. -/
theorem ceilShare_pos {k : ℕ} (htotal : 0 < total) (hk : 0 < k) : 0 < ceilShare total k parts := by
  unfold ceilShare
  have hsplit := Nat.div_add_mod (total * k) parts
  have hpos : 0 < total * k := Nat.mul_pos htotal hk
  by_cases hrem : total * k % parts ≠ 0
  · rw [if_pos hrem]
    exact Nat.succ_pos _
  · rw [if_neg hrem, Nat.add_zero]
    refine Nat.pos_of_ne_zero fun hzero => ?_
    rw [hzero, Nat.mul_zero] at hsplit
    omega

/-- The rounded-up share is the ceiling quotient. -/
theorem ceilShare_eq (hparts : 0 < parts) (k : ℕ) :
    ceilShare total k parts = (total * k + parts - 1) / parts := by
  unfold ceilShare
  have hsplit := Nat.div_add_mod (total * k) parts
  set q := total * k / parts
  set r := total * k % parts
  have hr : r < parts := Nat.mod_lt _ hparts
  by_cases hzero : r = 0
  · rw [if_neg (not_not.mpr hzero), ← hsplit, hzero]
    rw [show parts * q + 0 + parts - 1 = (parts - 1) + parts * q by omega,
      Nat.add_mul_div_left _ _ hparts, Nat.div_eq_of_lt (by omega)]
    omega
  · rw [if_pos hzero, ← hsplit]
    rw [show parts * q + r + parts - 1 = (r - 1) + parts * (q + 1) by
        rw [Nat.mul_add, Nat.mul_one]; omega,
      Nat.add_mul_div_left _ _ hparts, Nat.div_eq_of_lt (by omega)]
    omega

theorem ceilShare_mono (hparts : 0 < parts) {j k : ℕ} (h : j ≤ k) :
    ceilShare total j parts ≤ ceilShare total k parts := by
  rw [ceilShare_eq hparts, ceilShare_eq hparts]
  have hmul : total * j ≤ total * k := Nat.mul_le_mul_left _ h
  exact Nat.div_le_div_right (by omega)

theorem ceilShare_le (hparts : 0 < parts) {k : ℕ} (h : k ≤ parts) :
    ceilShare total k parts ≤ total :=
  (ceilShare_mono hparts h).trans_eq (ceilShare_all hparts)

end

end Mordant.Foundation
