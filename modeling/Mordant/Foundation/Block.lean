/-
# Blocks of bits, most significant first

A sequence of bits read from a starting position has the value its bits spell,
most significant first.  Two adjacent blocks compare as one: by the upper block,
and by the lower one when the upper ones agree.  That recurrence is what a
logarithmic comparator computes, so its specification is the value itself.

The last section is the loop such a comparator runs in: a counter doubles until
it reaches a power of two.
-/

import Mathlib.Tactic.Ring
import Mordant.Foundation.Call

namespace Mordant.Foundation

/-- The number spelled by `n` bits from position `start`. -/
def blockValue (bits : ℕ → Bool) (start : ℕ) : ℕ → ℕ
  | 0 => 0
  | n + 1 => 2 * blockValue bits start n + (bits (start + n)).toNat

/-- The left block is smaller than the right one. -/
def blockLess (left right : ℕ → Bool) (start n : ℕ) : Bool :=
  decide (blockValue left start n < blockValue right start n)

/-- The two blocks are equal. -/
def blockEqual (left right : ℕ → Bool) (start n : ℕ) : Bool :=
  decide (blockValue left start n = blockValue right start n)

section

variable (bits left right : ℕ → Bool) (start : ℕ)

theorem blockValue_lt (n : ℕ) : blockValue bits start n < 2 ^ n := by
  induction n with
  | zero => exact Nat.one_pos
  | succ n ih =>
      have hbit := Bool.toNat_le (bits (start + n))
      rw [blockValue, Nat.pow_succ]
      omega

/-- A value depends on the bits of its block only. -/
theorem blockValue_congr {f g : ℕ → Bool} {s t n : ℕ} (h : ∀ i < n, f (s + i) = g (t + i)) :
    blockValue f s n = blockValue g t n := by
  induction n with
  | zero => rfl
  | succ n ih =>
      rw [blockValue, blockValue, ih fun i hi => h i (Nat.lt_succ_of_lt hi),
        h n (Nat.lt_succ_self n)]

/-- The top bits of a machine word spell its leading digits. -/
theorem blockValue_getMsbD {w : ℕ} (x : BitVec w) {n : ℕ} (hn : n ≤ w) :
    blockValue x.getMsbD 0 n = x.toNat / 2 ^ (w - n) := by
  induction n with
  | zero =>
      rw [blockValue, Nat.sub_zero, Nat.div_eq_of_lt x.isLt]
  | succ n ih =>
      have hbit : (x.getMsbD (0 + n)).toNat = x.toNat / 2 ^ (w - (n + 1)) % 2 := by
        rw [Nat.zero_add, BitVec.getMsbD_eq_getLsbD, decide_eq_true (show n < w from hn),
          Bool.true_and, BitVec.getLsbD, Nat.toNat_testBit,
          show w - 1 - n = w - (n + 1) by omega]
      have hdiv : x.toNat / 2 ^ (w - n) = x.toNat / 2 ^ (w - (n + 1)) / 2 := by
        rw [Nat.div_div_eq_div_mul, ← Nat.pow_succ, show (w - (n + 1)).succ = w - n by omega]
      rw [blockValue, ih (Nat.le_of_succ_le hn), hbit, hdiv]
      omega

/-- An upper and a lower block make one. -/
theorem blockValue_add (a b : ℕ) :
    blockValue bits start (a + b) =
      blockValue bits start a * 2 ^ b + blockValue bits (start + a) b := by
  induction b with
  | zero => simp [blockValue]
  | succ b ih =>
      rw [← Nat.add_assoc, blockValue, ih, blockValue, Nat.pow_succ, Nat.add_assoc start a b]
      ring

/-- Splitting two numbers at the same digit compares the upper parts first. -/
theorem split_lt_iff {x y u v w : ℕ} (hu : u < w) (hv : v < w) :
    x * w + u < y * w + v ↔ x < y ∨ x = y ∧ u < v := by
  constructor
  · intro hlt
    rcases Nat.lt_trichotomy x y with hxy | rfl | hyx
    · exact .inl hxy
    · exact .inr ⟨rfl, by omega⟩
    · have hle : (y + 1) * w ≤ x * w := Nat.mul_le_mul_right w hyx
      rw [Nat.add_mul] at hle
      omega
  · rintro (hxy | ⟨rfl, huv⟩)
    · have hle : (x + 1) * w ≤ y * w := Nat.mul_le_mul_right w hxy
      rw [Nat.add_mul] at hle
      omega
    · omega

theorem split_eq_iff {x y u v w : ℕ} (hu : u < w) (hv : v < w) :
    x * w + u = y * w + v ↔ x = y ∧ u = v := by
  constructor
  · intro heq
    have hxy : x = y := by
      rcases Nat.lt_trichotomy x y with hxy | hxy | hyx
      · exact absurd heq ((split_lt_iff hu hv).mpr (.inl hxy)).ne
      · exact hxy
      · exact absurd heq.symm ((split_lt_iff hv hu).mpr (.inl hyx)).ne
    subst hxy
    exact ⟨rfl, by omega⟩
  · rintro ⟨rfl, rfl⟩
    rfl

/-- **Comparator recurrence.** -/
theorem blockLess_add (a b : ℕ) :
    blockLess left right start (a + b) =
      (blockLess left right start a ||
        blockEqual left right start a && blockLess left right (start + a) b) := by
  have hiff := split_lt_iff (x := blockValue left start a) (y := blockValue right start a)
    (blockValue_lt left (start + a) b) (blockValue_lt right (start + a) b)
  rw [← blockValue_add, ← blockValue_add] at hiff
  simp only [blockLess, blockEqual, hiff, Bool.decide_or, Bool.decide_and]

theorem blockEqual_add (a b : ℕ) :
    blockEqual left right start (a + b) =
      (blockEqual left right start a && blockEqual left right (start + a) b) := by
  have hiff := split_eq_iff (x := blockValue left start a) (y := blockValue right start a)
    (blockValue_lt left (start + a) b) (blockValue_lt right (start + a) b)
  rw [← blockValue_add, ← blockValue_add] at hiff
  simp only [blockEqual, hiff, Bool.decide_and]

theorem blockLess_one : blockLess left right start 1 = (!left start && right start) := by
  cases hl : left start <;> cases hr : right start <;> simp [blockLess, blockValue, hl, hr]

theorem blockEqual_one : blockEqual left right start 1 = (left start == right start) := by
  cases hl : left start <;> cases hr : right start <;> simp [blockEqual, blockValue, hl, hr]

/-- A block is never both smaller and equal. -/
theorem blockLess_and_blockEqual (n : ℕ) :
    (blockLess left right start n && blockEqual left right start n) = false := by
  simp only [blockLess, blockEqual, Bool.and_eq_false_iff, decide_eq_false_iff_not]
  omega

variable {left right start}

/-- Equal blocks have equal bits. -/
theorem blockEqual_iff {n : ℕ} :
    blockEqual left right start n = true ↔ ∀ i < n, left (start + i) = right (start + i) := by
  induction n with
  | zero => simp [blockEqual, blockValue]
  | succ n ih =>
      rw [blockEqual_add, Bool.and_eq_true, ih, blockEqual_one, beq_iff_eq]
      constructor
      · rintro ⟨hbelow, hlast⟩ i hi
        rcases Nat.lt_succ_iff_lt_or_eq.mp hi with hlt | rfl
        · exact hbelow i hlt
        · exact hlast
      · intro hall
        exact ⟨fun i hi => hall i (Nat.lt_succ_of_lt hi), hall n (Nat.lt_succ_self n)⟩

end

/-! ## Bits as ring elements -/

section

variable {R : Type} [CommRing R]

/-- The ring element of a bit. -/
def bit (R : Type) [CommRing R] (b : Bool) : R := if b then 1 else 0

theorem bit_true : bit R true = 1 := rfl

theorem bit_false : bit R false = 0 := rfl

theorem bit_mul (a b : Bool) : bit R a * bit R b = bit R (a && b) := by
  cases a <;> cases b <;> simp [bit]

/-- Disjoint bits add up to their disjunction. -/
theorem bit_add {a b : Bool} (hdisjoint : (a && b) = false) :
    bit R a + bit R b = bit R (a || b) := by
  cases a <;> cases b <;> simp [bit] at hdisjoint ⊢

theorem bit_less (a b : Bool) : bit R b - bit R a * bit R b = bit R (!a && b) := by
  cases a <;> cases b <;> simp [bit]

theorem bit_equal (a b : Bool) :
    (bit R a + bit R b - 1) * (bit R a + bit R b - 1) = bit R (a == b) := by
  cases a <;> cases b <;> simp [bit]

end

/-! ## Doubling loops -/

section

variable {ε σ : Type}

/-- `for stride := s; stride < bound; stride *= 2`, with fuel. -/
def doubling (bound : ℕ) (body : ℕ → σ → Except ε σ) : ℕ → ℕ → σ → Except ε σ
  | 0, _, s => pure s
  | fuel + 1, stride, s =>
    if stride < bound then do
      let s ← body stride s
      doubling bound body fuel (stride * 2) s
    else pure s

/-- **Loop rule.** If the body at stride `2 ^ k` takes what holds at level `k` to
level `k + 1`, the loop reaches the last level; a bound of fuel that covers the
levels is enough. -/
theorem doubling_spec {body : ℕ → σ → Except ε σ} {P : ℕ → σ → Prop} (levels fuel : ℕ)
    (hbody : ∀ k s, k < levels → P k s → ∃ s', body (2 ^ k) s = .ok s' ∧ P (k + 1) s')
    {k : ℕ} {s : σ} (hfuel : levels < fuel + k) (hk : k ≤ levels) (hs : P k s) :
    ∃ s', doubling (2 ^ levels) body fuel (2 ^ k) s = .ok s' ∧ P levels s' := by
  induction fuel generalizing k s with
  | zero => omega
  | succ fuel ih =>
      rw [doubling]
      by_cases hlast : k = levels
      · subst hlast
        rw [if_neg (lt_irrefl _)]
        exact ⟨s, rfl, hs⟩
      · have hlt : k < levels := Nat.lt_of_le_of_ne hk hlast
        rw [if_pos (Nat.pow_lt_pow_right (by decide) hlt)]
        obtain ⟨s₁, hs₁, hnext⟩ := hbody k s hlt hs
        obtain ⟨s', hs', hdone⟩ := ih (by omega) hlt hnext
        refine ⟨s', ?_, hdone⟩
        rw [hs₁]
        rw [Nat.pow_succ] at hs'
        exact hs'

end

end Mordant.Foundation
