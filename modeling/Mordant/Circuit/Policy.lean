/-
# The policy circuit

`RecomputeCircuitV5` and the gadgets it is built from, on slot vectors.  The
evaluator's additions, products and rotations cannot fail here; the one check
the circuit makes itself is that a mask's slots are in range.  The loops double
their stride as the source does; a group of slots is reduced into its first one
and every other slot is cleared at each level.
-/

import Mordant.Circuit.Pledge

namespace Mordant.Circuit

open Foundation

variable {m T : ℕ}

/-- `mulBoolean`: a relinearised product, rescaled. -/
def mulBoolean (left right : Slots m T) : Slots m T := left * right

def keepSlots (v : Slots m T) (slots : List ℕ) : Except CircuitError (Slots m T) := do
  revertIf (∃ slot ∈ slots, 2 * m ≤ slot) .maskSlotOutOfRange
  pure (v.mask slots)

def keepRange (v : Slots m T) (start width : ℕ) : Except CircuitError (Slots m T) :=
  keepSlots v ((List.range width).map fun i => start + i)

/-- `comparisonLayout`: the two left operands `A.from | B.from` and the two right
operands `B.until | A.until`, side by side. -/
def comparisonLayout (a b : Slots m T) : Except CircuitError (Slots m T × Slots m T) := do
  let aFrom ← keepRange a fromStart uint64Bits
  let bFrom ← keepRange b fromStart uint64Bits
  let bFrom := bFrom.rotate (-64)
  let left := aFrom + bFrom
  let bUntil ← keepRange b untilStart uint64Bits
  let bUntil := bUntil.rotate 64
  let aUntil ← keepRange a untilStart uint64Bits
  let right := bUntil + aUntil
  pure (left, right)

/-- The slots `0, step, 2 * step, …` below `bound`, as the source's counting loops
list them. -/
def steps (bound step : ℕ) : List ℕ :=
  (List.range ((bound + step - 1) / step)).map fun i => i * step

/-- `blockStarts`: the first slot of every group, block by block. -/
def blockStarts (blocks groupWidth : ℕ) : List ℕ :=
  (List.range blocks).flatMap fun block =>
    (steps uint64Bits groupWidth).map fun offset => block * uint64Bits + offset

/-- One level of `compareTwoBlocks`. -/
def compareLevel (stride : ℕ) (pair : Slots m T × Slots m T) :
    Except CircuitError (Slots m T × Slots m T) := do
  let (less, equal) := pair
  let lowerLess := less.rotate stride
  let lowerEqual := equal.rotate stride
  let continuedLess := mulBoolean equal lowerLess
  let less := less + continuedLess
  let equal := mulBoolean equal lowerEqual
  let starts := blockStarts 2 (stride * 2)
  let less ← keepSlots less starts
  let equal ← keepSlots equal starts
  pure (less, equal)

def compareTwoBlocks (left right : Slots m T) :
    Except CircuitError (Slots m T × Slots m T) := do
  let product := mulBoolean left right
  let less := right - product
  let equalBase := (left + right).subConst 1
  let equal := mulBoolean equalBase equalBase
  let less ← keepRange less 0 (2 * uint64Bits)
  let equal ← keepRange equal 0 (2 * uint64Bits)
  doubling uint64Bits compareLevel uint64Bits 1 (less, equal)

/-- One level of `equal256`. -/
def equalLevel (stride : ℕ) (equal : Slots m T) : Except CircuitError (Slots m T) :=
  keepSlots (mulBoolean equal (equal.rotate stride)) (steps obligationBits (2 * stride))

def equal256 (left right : Slots m T) : Except CircuitError (Slots m T) := do
  let equalBase := (left + right).subConst 1
  let equal := mulBoolean equalBase equalBase
  let equal ← keepRange equal 0 obligationBits
  let equal ← doubling obligationBits equalLevel obligationBits 1 equal
  keepSlots equal [0]

/-- `CircuitInputsV5`. A ciphertext may be missing. -/
structure CircuitInputsV5 (m T : ℕ) where
  policyBitsA : Option (Slots m T)
  policyBitsB : Option (Slots m T)
  currencyBitsA : Option (Slots m T)
  currencyBitsB : Option (Slots m T)
  receivableIDsA : Option (Slots m T)
  receivableIDsB : Option (Slots m T)

structure CircuitOutputsV5 (m T : ℕ) where
  sameEconomicAsset : Slots m T
  policyConflict : Slots m T

/-- The six vectors of inputs that pass `validate`. -/
structure ValidInputs (m T : ℕ) where
  policyA : Slots m T
  policyB : Slots m T
  currencyA : Slots m T
  currencyB : Slots m T
  receivableA : Slots m T
  receivableB : Slots m T

/-- `CircuitInputsV5.validate`, in the fixed order of `ordered`. -/
def CircuitInputsV5.validate (inputs : CircuitInputsV5 m T) :
    Except CircuitError (ValidInputs m T) := do
  let policyA ← require (.malformedInput 0) inputs.policyBitsA
  let policyB ← require (.malformedInput 1) inputs.policyBitsB
  let currencyA ← require (.malformedInput 2) inputs.currencyBitsA
  let currencyB ← require (.malformedInput 3) inputs.currencyBitsB
  let receivableA ← require (.malformedInput 4) inputs.receivableIDsA
  let receivableB ← require (.malformedInput 5) inputs.receivableIDsB
  pure ⟨policyA, policyB, currencyA, currencyB, receivableA, receivableB⟩

/-- The overlap of the two windows, in slot 0. -/
def windowOverlap (policyA policyB : Slots m T) : Except CircuitError (Slots m T) := do
  let (left, right) ← comparisonLayout policyA policyB
  let (less, _) ← compareTwoBlocks left right
  let aFromBeforeBUntil ← keepSlots less [0]
  let bFromBeforeAUntil := less.rotate 64
  let bFromBeforeAUntil ← keepSlots bFromBeforeAUntil [0]
  pure (mulBoolean aFromBeforeBUntil bFromBeforeAUntil)

/-- Both exclusivity flags, in slot 0. -/
def bothExclusive (policyA policyB : Slots m T) : Except CircuitError (Slots m T) := do
  let flagsProduct := mulBoolean policyA policyB
  let flagsProduct ← keepSlots flagsProduct [exclusiveSlot]
  let allFlags := flagsProduct.rotate exclusiveSlot
  keepSlots allFlags [0]

def recomputeCircuitV5 (inputs : CircuitInputsV5 m T) :
    Except CircuitError (CircuitOutputsV5 m T) := do
  let valid ← inputs.validate
  let overlap ← windowOverlap valid.policyA valid.policyB
  let allFlags ← bothExclusive valid.policyA valid.policyB
  let currencyEqual ← equal256 valid.currencyA valid.currencyB
  let identityEqual ← equal256 valid.receivableA valid.receivableB
  let overlapAndFlags := mulBoolean overlap allFlags
  let currencyAndIdentity := mulBoolean currencyEqual identityEqual
  let conflict := mulBoolean overlapAndFlags currencyAndIdentity
  pure ⟨identityEqual, conflict⟩

/-- The loop of `requireCanonicalReleaseVector` over the slots after the first. -/
def requireZeros (index : ℕ) : List ℕ → Except CircuitError Unit
  | [] => pure ()
  | value :: rest => do
    revertIf (value ≠ 0) (.releaseSlotsNotCanonical (some (index, value)))
    requireZeros (index + 1) rest

def requireCanonicalReleaseVector : List ℕ → Except CircuitError Unit
  | [] => .error (.releaseSlotsNotCanonical none)
  | first :: rest => do
    revertIf (1 < first) (.releaseSlotsNotCanonical (some (0, first)))
    requireZeros 1 rest

/-- The Boolean a canonical vector releases: `decoded[0] == 1`. -/
def releasedBit (decoded : List ℕ) : Bool := decoded.headD 0 == 1

/-! ## Masks -/

/-- A mask in range never fails. -/
theorem keepSlots_ok {v : Slots m T} {slots : List ℕ} (hslots : ∀ slot ∈ slots, slot < 2 * m) :
    keepSlots v slots = .ok (v.mask slots) := by
  unfold keepSlots
  rw [revertIf_bind_ok_iff]
  refine ⟨?_, rfl⟩
  rintro ⟨slot, hmem, hout⟩
  exact absurd (hslots slot hmem) (not_lt.mpr hout)

theorem mem_range_shift {start width i : ℕ} :
    i ∈ (List.range width).map (fun i => start + i) ↔ start ≤ i ∧ i < start + width := by
  simp only [List.mem_map, List.mem_range]
  constructor
  · rintro ⟨j, hj, rfl⟩
    omega
  · rintro ⟨hstart, hend⟩
    exact ⟨i - start, by omega, by omega⟩

/-- `keepRange` keeps a window and clears the rest. -/
theorem keepRange_ok {v : Slots m T} {start width : ℕ} (h : start + width ≤ 2 * m) :
    ∃ w, keepRange v start width = .ok w ∧
      (∀ i, start ≤ i → i < start + width → w.get i = v.get i) ∧
      ∀ i < 2 * m, i < start ∨ start + width ≤ i → w.get i = 0 := by
  have hslots : ∀ slot ∈ (List.range width).map (fun i => start + i), slot < 2 * m := by
    intro slot hslot
    have := mem_range_shift.mp hslot
    omega
  refine ⟨_, keepSlots_ok hslots, fun i hstart hend => ?_, fun i hi hout => ?_⟩
  · rw [Slots.get_mask hslots (by omega), if_pos (mem_range_shift.mpr ⟨hstart, hend⟩)]
  · rw [Slots.get_mask hslots hi, if_neg]
    intro hmem
    have := mem_range_shift.mp hmem
    omega

theorem mem_steps {bound step i : ℕ} (hstep : 0 < step) :
    i ∈ steps bound step ↔ i < bound ∧ step ∣ i := by
  simp only [steps, List.mem_map, List.mem_range]
  constructor
  · rintro ⟨j, hj, rfl⟩
    refine ⟨?_, Nat.dvd_mul_left step j⟩
    have hle : (j + 1) * step ≤ bound + step - 1 := (Nat.le_div_iff_mul_le hstep).mp hj
    rw [Nat.add_mul] at hle
    omega
  · rintro ⟨hlt, j, rfl⟩
    refine ⟨j, (Nat.le_div_iff_mul_le hstep).mpr ?_, Nat.mul_comm _ _⟩
    rw [Nat.succ_mul, Nat.mul_comm j]
    omega

/-- When the group width divides the block width, the starts of two blocks are
the multiples of the width. -/
theorem mem_blockStarts {width i : ℕ} (hwidth : 0 < width) (hdvd : width ∣ 64) :
    i ∈ blockStarts 2 width ↔ i < 128 ∧ width ∣ i := by
  simp only [blockStarts, List.mem_flatMap, List.mem_range, List.mem_map, mem_steps hwidth,
    uint64Bits]
  constructor
  · rintro ⟨block, hblock, offset, ⟨hoffset, hdiv⟩, rfl⟩
    exact ⟨by omega, (hdvd.mul_left block).add hdiv⟩
  · rintro ⟨hlt, hdiv⟩
    refine ⟨i / 64, by omega, i % 64, ⟨Nat.mod_lt _ (by decide), ?_⟩, Nat.div_add_mod' i 64⟩
    exact (Nat.dvd_mod_iff hdvd).mpr hdiv

end Mordant.Circuit
