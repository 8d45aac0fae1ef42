/-
# What the gadgets compute

Each gadget has one lemma.  It says that the gadget returns on every input, what
the result is off slot 0 where the circuit relies on it, and, for inputs that
carry bits, what slot 0 holds.  The two loops share their invariant: at stride
`2 ^ k` a slot divisible by the stride holds what the two blocks of that width
that start there come to.  Nothing is claimed about the other slots; the masks
make them irrelevant.
-/

import Mathlib.Algebra.BigOperators.Intervals
import Mordant.Circuit.Policy

namespace Mordant.Circuit

open Foundation
open Slots (get_mul get_add get_mask get_rotate)

variable {m T : ℕ}

/-- The first `n` slots hold bits. -/
def Carries (v : Slots m T) (bits : ℕ → Bool) (n : ℕ) : Prop :=
  ∀ i < n, v.get i = bit (ZMod T) (bits i)

/-- The next group still fits. -/
theorem group_le {width bound i : ℕ} (hbound : width ∣ bound) (hi : width ∣ i) (hlt : i < bound) :
    i + width ≤ bound := by
  have hle : width ≤ bound - i := Nat.le_of_dvd (by omega) (Nat.dvd_sub hbound hi)
  omega

/-- Squaring `left + right - 1` tests two bits for equality. -/
theorem equalBase_get {left right : Slots m T} {l r : Bool} {i : ℕ}
    (hleft : left.get i = bit (ZMod T) l) (hright : right.get i = bit (ZMod T) r) :
    (mulBoolean ((left + right).subConst 1) ((left + right).subConst 1)).get i =
      bit (ZMod T) (l == r) := by
  rw [mulBoolean, get_mul, Slots.get_subConst, get_add, hleft, hright, bit_equal]

/-- Masking down to one slot. -/
theorem keepOne_ok {slot : ℕ} (hslot : slot < 2 * m) (v : Slots m T) :
    ∃ w, keepSlots v [slot] = .ok w ∧ w.get slot = v.get slot ∧
      ∀ i, i ≠ slot → i < 2 * m → w.get i = 0 := by
  have hslots : ∀ i ∈ [slot], i < 2 * m := by
    intro i hi
    rw [List.mem_singleton] at hi
    omega
  refine ⟨v.mask [slot], keepSlots_ok hslots, ?_, fun i hne hi => ?_⟩
  · rw [get_mask hslots hslot, if_pos (by simp)]
  · rw [get_mask hslots hi, if_neg (by simpa using hne)]

section

/-- One level multiplies each group's first slot by the first slot of its lower half. -/
theorem equalLevel_get (hm : 512 ≤ m) {k : ℕ} (hk : k < 8) (equal : Slots m T) :
    ∃ equal', equalLevel (2 ^ k) equal = .ok equal' ∧
      ∀ i < obligationBits, 2 ^ (k + 1) ∣ i →
        i + 2 ^ k < obligationBits ∧ equal'.get i = equal.get i * equal.get (i + 2 ^ k) := by
  have hstep : 0 < 2 * 2 ^ k := Nat.mul_pos (by decide) (Nat.two_pow_pos k)
  have hslots : ∀ slot ∈ steps obligationBits (2 * 2 ^ k), slot < 2 * m := by
    intro slot hslot
    have hlt := ((mem_steps hstep).mp hslot).1
    simp only [obligationBits] at hlt
    omega
  refine ⟨_, keepSlots_ok hslots, ?_⟩
  intro i hi hdvd
  have hwidth : 2 ^ (k + 1) = 2 ^ k + 2 ^ k := by rw [Nat.pow_succ]; omega
  have hdvd' : 2 * 2 ^ k ∣ i := by rwa [← Nat.pow_succ']
  have hfits : i + 2 ^ (k + 1) ≤ 256 :=
    group_le (Nat.pow_dvd_pow 2 (show k + 1 ≤ 8 from hk)) hdvd hi
  have hpos := Nat.two_pow_pos k
  have hmem : i ∈ steps obligationBits (2 * 2 ^ k) := (mem_steps hstep).mpr ⟨hi, hdvd'⟩
  have hrotate : (equal.rotate ((2 ^ k : ℕ) : ℤ)).get i = equal.get (i + 2 ^ k) :=
    get_rotate (by omega)
  refine ⟨by simp only [obligationBits]; omega, ?_⟩
  rw [get_mask hslots (by omega), if_pos hmem, mulBoolean, get_mul, hrotate]

/-- What the comparison multiplies up, before squaring. -/
def agreement (left right : Slots m T) (i : ℕ) : ZMod T := left.get i + right.get i - 1

theorem agreement_sq {left right : Slots m T} {i : ℕ} : agreement left right i ^ 2 =
    (mulBoolean ((left + right).subConst 1) ((left + right).subConst 1)).get i := by
  rw [mulBoolean, Slots.get_mul, Slots.get_subConst, Slots.get_add, sq]
  rfl

/-- At level `k`, the product over the block of width `2 ^ k`. -/
def ProductAt (left right : Slots m T) (k : ℕ) (equal : Slots m T) : Prop :=
  ∀ i < obligationBits, 2 ^ k ∣ i →
    equal.get i = ∏ j ∈ Finset.range (2 ^ k), agreement left right (i + j) ^ 2

theorem productLevel_ok (hm : 512 ≤ m) {left right : Slots m T} {k : ℕ} (hk : k < 8)
    {equal : Slots m T} (h : ProductAt left right k equal) :
    ∃ equal', equalLevel (2 ^ k) equal = .ok equal' ∧ ProductAt left right (k + 1) equal' := by
  obtain ⟨equal', hequal', hget⟩ := equalLevel_get hm hk equal
  refine ⟨equal', hequal', ?_⟩
  intro i hi hdvd
  have hhalf : 2 ^ k ∣ i := (Nat.pow_dvd_pow 2 (Nat.le_succ k)).trans hdvd
  obtain ⟨hfits, hmul⟩ := hget i hi hdvd
  rw [hmul, h i hi hhalf, h (i + 2 ^ k) hfits (hhalf.add (dvd_refl _)), Nat.pow_succ,
    Nat.mul_two, Finset.prod_range_add]
  simp only [Nat.add_assoc]

/-- **`equal256` on any vectors.** Slot 0 holds the square of the product. -/
theorem equal256_product (hm : 512 ≤ m) (left right : Slots m T) :
    ∃ equal, equal256 left right = .ok equal ∧ (∀ i, i ≠ 0 → i < 2 * m → equal.get i = 0) ∧
      equal.get 0 = (∏ i ∈ Finset.range 256, agreement left right i) ^ 2 := by
  obtain ⟨start, hstart, hget, -⟩ := keepRange_ok
    (v := mulBoolean ((left + right).subConst 1) ((left + right).subConst 1))
    (show 0 + obligationBits ≤ 2 * m by simp only [obligationBits]; omega)
  have hbase : ProductAt left right 0 start := by
    intro i hi _
    rw [hget i (Nat.zero_le _) (by omega), Nat.pow_zero, Finset.prod_range_one, Nat.add_zero,
      agreement_sq]
  obtain ⟨reduced, hreduced, hlast⟩ := doubling_spec 8 obligationBits
    (fun k equal hk h => productLevel_ok hm hk h) (by decide) (Nat.zero_le _) hbase
  obtain ⟨equal, hequal, hfirst, hrest⟩ := keepOne_ok (by omega : 0 < 2 * m) reduced
  refine ⟨equal, ?_, hrest, ?_⟩
  · simp only [equal256, bind_ok_iff]
    exact ⟨start, hstart, reduced, hreduced, hequal⟩
  · rw [hfirst, hlast 0 (by decide) (dvd_zero _), ← Finset.prod_pow]
    simp only [Nat.zero_add]
    rfl

/-- Where the slots hold bits, the product says whether they are the same. -/
theorem prod_agreement {left right : Slots m T} {l r : ℕ → Bool} {n : ℕ}
    (hl : Carries left l n) (hr : Carries right r n) :
    ∏ i ∈ Finset.range n, agreement left right i ^ 2 = bit (ZMod T) (blockEqual l r 0 n) := by
  induction n with
  | zero =>
      rw [Finset.prod_range_zero, blockEqual_iff.mpr fun i hi => absurd hi (Nat.not_lt_zero i),
        bit_true]
  | succ n ih =>
      have hlast := equalBase_get (hl n (Nat.lt_succ_self n)) (hr n (Nat.lt_succ_self n))
      rw [Finset.prod_range_succ, ih (fun i hi => hl i (Nat.lt_succ_of_lt hi))
        (fun i hi => hr i (Nat.lt_succ_of_lt hi)), agreement_sq, hlast, bit_mul, blockEqual_add,
        blockEqual_one, Nat.zero_add]

/-- **`equal256`.** It returns on every input, clears every slot but the first,
and there tests the 256 bits for equality. -/
theorem equal256_ok (hm : 512 ≤ m) (left right : Slots m T) :
    ∃ equal, equal256 left right = .ok equal ∧
      (∀ i, i ≠ 0 → i < 2 * m → equal.get i = 0) ∧
      ∀ l r, Carries left l obligationBits → Carries right r obligationBits →
        equal.get 0 = bit (ZMod T) (blockEqual l r 0 obligationBits) := by
  obtain ⟨equal, hequal, hzero, hfirst⟩ := equal256_product hm left right
  refine ⟨equal, hequal, hzero, fun l r hl hr => ?_⟩
  rw [hfirst, ← Finset.prod_pow]
  exact prod_agreement hl hr

end

section

/-- At level `k`, the comparison of the blocks of width `2 ^ k`. -/
def ComparedAt (left right : Slots m T) (k : ℕ) (pair : Slots m T × Slots m T) : Prop :=
  ∀ l r, Carries left l 128 → Carries right r 128 → ∀ i < 128, 2 ^ k ∣ i →
    pair.1.get i = bit (ZMod T) (blockLess l r i (2 ^ k)) ∧
      pair.2.get i = bit (ZMod T) (blockEqual l r i (2 ^ k))

theorem compareLevel_ok (hm : 512 ≤ m) {left right : Slots m T} {k : ℕ} (hk : k < 6)
    {pair : Slots m T × Slots m T} (h : ComparedAt left right k pair) :
    ∃ pair', compareLevel (2 ^ k) pair = .ok pair' ∧ ComparedAt left right (k + 1) pair' := by
  obtain ⟨less, equal⟩ := pair
  have hwidth : 0 < 2 ^ k * 2 := Nat.mul_pos (Nat.two_pow_pos k) (by decide)
  have hblock : 2 ^ k * 2 ∣ 64 := Nat.pow_dvd_pow 2 (show k + 1 ≤ 6 from hk)
  have hslots : ∀ slot ∈ blockStarts 2 (2 ^ k * 2), slot < 2 * m := by
    intro slot hslot
    have hlt := ((mem_blockStarts hwidth hblock).mp hslot).1
    omega
  have hlevel : compareLevel (2 ^ k) (less, equal) =
      .ok ((less + mulBoolean equal (less.rotate ((2 ^ k : ℕ) : ℤ))).mask
          (blockStarts 2 (2 ^ k * 2)),
        (mulBoolean equal (equal.rotate ((2 ^ k : ℕ) : ℤ))).mask (blockStarts 2 (2 ^ k * 2))) := by
    simp only [compareLevel, keepSlots_ok hslots]
    rfl
  refine ⟨_, hlevel, ?_⟩
  intro l r hl hr i hi hdvd
  have hhalf : 2 ^ k ∣ i := (Nat.pow_dvd_pow 2 (Nat.le_succ k)).trans hdvd
  have hfits : i + 2 ^ (k + 1) ≤ 128 :=
    group_le (Nat.pow_dvd_pow 2 (show k + 1 ≤ 7 by omega)) hdvd hi
  have hsplit : 2 ^ (k + 1) = 2 ^ k + 2 ^ k := by rw [Nat.pow_succ]; omega
  have hpos := Nat.two_pow_pos k
  obtain ⟨hless, hequal⟩ := h l r hl hr i hi hhalf
  obtain ⟨hlowerLess, hlowerEqual⟩ := h l r hl hr (i + 2 ^ k) (by omega)
    (hhalf.add (dvd_refl _))
  have hmem : i ∈ blockStarts 2 (2 ^ k * 2) := (mem_blockStarts hwidth hblock).mpr ⟨hi, hdvd⟩
  have hrotate : ∀ v : Slots m T, (v.rotate ((2 ^ k : ℕ) : ℤ)).get i = v.get (i + 2 ^ k) :=
    fun v => get_rotate (by omega)
  -- the upper block decides, or it is equal and the lower one does
  have hdisjoint : (blockLess l r i (2 ^ k) &&
      (blockEqual l r i (2 ^ k) && blockLess l r (i + 2 ^ k) (2 ^ k))) = false := by
    rw [← Bool.and_assoc, blockLess_and_blockEqual, Bool.false_and]
  constructor
  · rw [get_mask hslots (by omega), if_pos hmem, get_add, mulBoolean, get_mul,
      hrotate, hless, hequal, hlowerLess, bit_mul, bit_add hdisjoint, hsplit, blockLess_add]
  · rw [get_mask hslots (by omega), if_pos hmem, mulBoolean, get_mul, hrotate,
      hequal, hlowerEqual, bit_mul, hsplit, blockEqual_add]

/-- **`compareTwoBlocks`.** It returns on every input; on two pairs of 64-bit
blocks it compares both, into slots 0 and 64. -/
theorem compareTwoBlocks_ok (hm : 512 ≤ m) (left right : Slots m T) :
    ∃ less equal, compareTwoBlocks left right = .ok (less, equal) ∧
      ∀ l r, Carries left l 128 → Carries right r 128 →
        less.get 0 = bit (ZMod T) (blockLess l r 0 64) ∧
          less.get 64 = bit (ZMod T) (blockLess l r 64 64) := by
  have hrange : 0 + 2 * uint64Bits ≤ 2 * m := by simp only [uint64Bits]; omega
  obtain ⟨less, hless, hlessGet, -⟩ := keepRange_ok (v := right - mulBoolean left right) hrange
  obtain ⟨equal, hequal, hequalGet, -⟩ := keepRange_ok
    (v := mulBoolean ((left + right).subConst 1) ((left + right).subConst 1)) hrange
  have hbase : ComparedAt left right 0 (less, equal) := by
    intro l r hl hr i hi _
    have hin : i < 0 + 2 * uint64Bits := by simp only [uint64Bits]; omega
    refine ⟨?_, ?_⟩
    · rw [hlessGet i (Nat.zero_le _) hin, Slots.get_sub, mulBoolean, get_mul, hl i hi,
        hr i hi, bit_less, Nat.pow_zero, blockLess_one]
    · rw [hequalGet i (Nat.zero_le _) hin, equalBase_get (hl i hi) (hr i hi), Nat.pow_zero,
        blockEqual_one]
  obtain ⟨⟨less', equal'⟩, hloop, hlast⟩ := doubling_spec 6 uint64Bits
    (fun k pair hk h => compareLevel_ok hm hk h) (by decide) (Nat.zero_le _) hbase
  refine ⟨less', equal', ?_, fun l r hl hr => ?_⟩
  · simp only [compareTwoBlocks, bind_ok_iff]
    exact ⟨less, hless, equal, hequal, hloop⟩
  · exact ⟨(hlast l r hl hr 0 (by decide) (dvd_zero _)).1,
      (hlast l r hl hr 64 (by decide) (dvd_refl _)).1⟩

end

section

/-- **`comparisonLayout`.** Side by side, the left operands are `A.from` and
`B.from`, the right ones `B.until` and `A.until`. -/
theorem comparisonLayout_ok (hm : 512 ≤ m) (a b : Slots m T) :
    ∃ left right, comparisonLayout a b = .ok (left, right) ∧
      ∀ p q, Carries a p 128 → Carries b q 128 →
        Carries left (fun i => if i < 64 then p i else q (i - 64)) 128 ∧
          Carries right (fun i => if i < 64 then q (i + 64) else p i) 128 := by
  have hlow : fromStart + uint64Bits ≤ 2 * m := by simp only [fromStart, uint64Bits]; omega
  have hhigh : untilStart + uint64Bits ≤ 2 * m := by simp only [untilStart, uint64Bits]; omega
  obtain ⟨aFrom, haFrom, haFromIn, haFromOut⟩ := keepRange_ok (v := a) hlow
  obtain ⟨bFrom, hbFrom, hbFromIn, hbFromOut⟩ := keepRange_ok (v := b) hlow
  obtain ⟨bUntil, hbUntil, hbUntilIn, hbUntilOut⟩ := keepRange_ok (v := b) hhigh
  obtain ⟨aUntil, haUntil, haUntilIn, haUntilOut⟩ := keepRange_ok (v := a) hhigh
  simp only [fromStart, uint64Bits] at haFromIn haFromOut hbFromIn hbFromOut
  simp only [untilStart, uint64Bits] at hbUntilIn hbUntilOut haUntilIn haUntilOut
  refine ⟨aFrom + bFrom.rotate (-64), bUntil.rotate 64 + aUntil, ?_, fun p q hp hq => ⟨?_, ?_⟩⟩
  · simp only [comparisonLayout, bind_ok_iff]
    exact ⟨aFrom, haFrom, bFrom, hbFrom, bUntil, hbUntil, aUntil, haUntil, rfl⟩
  · intro i hi
    change _ = bit (ZMod T) (if i < 64 then p i else q (i - 64))
    by_cases hblock : i < 64
    · -- the second operand wraps to the end of the row, which is empty
      have hsecond : (bFrom.rotate (-((64 : ℕ) : ℤ))).get i = 0 :=
        (Slots.get_rotate_wrap hblock (by omega)).trans (hbFromOut _ (by omega) (by omega))
      rw [get_add, haFromIn i (Nat.zero_le _) (by omega), hp i hi, if_pos hblock]
      exact (congrArg (bit (ZMod T) (p i) + ·) hsecond).trans (add_zero _)
    · have hsecond : (bFrom.rotate (-((64 : ℕ) : ℤ))).get i = bit (ZMod T) (q (i - 64)) :=
        ((Slots.get_rotate_neg (by omega) (by omega)).trans
          (hbFromIn _ (Nat.zero_le _) (by omega))).trans (hq (i - 64) (by omega))
      rw [get_add, haFromOut i (by omega) (by omega), zero_add, if_neg hblock]
      exact hsecond
  · intro i hi
    change _ = bit (ZMod T) (if i < 64 then q (i + 64) else p i)
    have hahead : (bUntil.rotate ((64 : ℕ) : ℤ)).get i = bUntil.get (i + 64) :=
      get_rotate (by omega)
    by_cases hblock : i < 64
    · rw [get_add, haUntilOut i (by omega) (by omega), add_zero, if_pos hblock]
      exact (hahead.trans (hbUntilIn _ (by omega) (by omega))).trans (hq (i + 64) (by omega))
    · have hfirst : (bUntil.rotate ((64 : ℕ) : ℤ)).get i = 0 :=
        hahead.trans (hbUntilOut _ (by omega) (by omega))
      rw [get_add, haUntilIn i (by omega) (by omega), hp i hi, if_neg hblock]
      exact (congrArg (· + bit (ZMod T) (p i)) hfirst).trans (zero_add _)

/-- **The window test.** Slot 0 holds whether each side starts before the other
ends. -/
theorem windowOverlap_ok (hm : 512 ≤ m) (a b : Slots m T) :
    ∃ overlap, windowOverlap a b = .ok overlap ∧
      ∀ p q, Carries a p 128 → Carries b q 128 →
        overlap.get 0 = bit (ZMod T)
          (decide (blockValue p 0 64 < blockValue q 64 64) &&
            decide (blockValue q 0 64 < blockValue p 64 64)) := by
  obtain ⟨left, right, hlayout, hcarries⟩ := comparisonLayout_ok hm a b
  obtain ⟨less, equal, hcompare, hless⟩ := compareTwoBlocks_ok hm left right
  obtain ⟨first, hfirst, hfirstGet, -⟩ := keepOne_ok (by omega : 0 < 2 * m) less
  obtain ⟨second, hsecond, hsecondGet, -⟩ := keepOne_ok (by omega : 0 < 2 * m) (less.rotate 64)
  refine ⟨mulBoolean first second, ?_, fun p q hp hq => ?_⟩
  · simp only [windowOverlap, bind_ok_iff]
    exact ⟨(left, right), hlayout, (less, equal), hcompare, first, hfirst, second, hsecond, rfl⟩
  · obtain ⟨hleft, hright⟩ := hcarries p q hp hq
    obtain ⟨hlow, hhigh⟩ := hless _ _ hleft hright
    have hrotate : (less.rotate ((64 : ℕ) : ℤ)).get 0 = less.get (0 + 64) :=
      get_rotate (by omega)
    have hother : second.get 0 = less.get 64 := hsecondGet.trans hrotate
    rw [mulBoolean, get_mul, hfirstGet, hother, hlow, hhigh, bit_mul]
    simp only [blockLess]
    have hpFrom : blockValue (fun i => if i < 64 then p i else q (i - 64)) 0 64 =
        blockValue p 0 64 := blockValue_congr fun i hi => if_pos (by omega)
    have hqUntil : blockValue (fun i => if i < 64 then q (i + 64) else p i) 0 64 =
        blockValue q 64 64 := blockValue_congr fun i hi => by
      rw [if_pos (by omega), Nat.zero_add, Nat.add_comm]
    have hqFrom : blockValue (fun i => if i < 64 then p i else q (i - 64)) 64 64 =
        blockValue q 0 64 := blockValue_congr fun i hi => by
      rw [if_neg (by omega), Nat.zero_add, Nat.add_sub_cancel_left]
    have hpUntil : blockValue (fun i => if i < 64 then q (i + 64) else p i) 64 64 =
        blockValue p 64 64 := blockValue_congr fun i hi => if_neg (by omega)
    rw [hpFrom, hqUntil, hqFrom, hpUntil]

/-- **The flag test.** Slot 0 holds the product of the two flags. -/
theorem bothExclusive_ok (hm : 512 ≤ m) (a b : Slots m T) :
    ∃ flags, bothExclusive a b = .ok flags ∧
      flags.get 0 = a.get exclusiveSlot * b.get exclusiveSlot := by
  have hslot : exclusiveSlot < 2 * m := by simp only [exclusiveSlot]; omega
  obtain ⟨product, hproduct, hproductGet, -⟩ := keepOne_ok hslot (mulBoolean a b)
  obtain ⟨flags, hflags, hflagsGet, -⟩ := keepOne_ok (by omega : 0 < 2 * m)
    (product.rotate exclusiveSlot)
  refine ⟨flags, ?_, ?_⟩
  · simp only [bothExclusive, bind_ok_iff]
    exact ⟨product, hproduct, hflags⟩
  · have hrotate : (product.rotate (exclusiveSlot : ℤ)).get 0 =
        product.get (0 + exclusiveSlot) := get_rotate (by simp only [exclusiveSlot]; omega)
    rw [hflagsGet, hrotate, Nat.zero_add, hproductGet, mulBoolean, get_mul]

end

end Mordant.Circuit
