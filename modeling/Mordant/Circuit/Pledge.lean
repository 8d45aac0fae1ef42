/-
# Pledges as slot vectors

A client packs a pledge into bit vectors, most significant bit first: the two
times and the exclusivity flag into one vector, each identifier into one of its
own.  Encryption is the identity here: a ciphertext is the slot vector it
decrypts to.
-/

import Mathlib.Data.List.GetD
import Mordant.Foundation.Block
import Mordant.Foundation.Slots

namespace Mordant.Circuit

open Foundation
open Function (update)

/-- Errors of the client and of the circuit. -/
inductive CircuitError
  | invalidPlaintext
  | malformedInput (index : ℕ)
  | maskSlotOutOfRange
  | releaseSlotsNotCanonical (slot : Option (ℕ × ℕ))
  deriving DecidableEq, Repr

/-- `[32]byte`. -/
abbrev Digest := Vector (BitVec 8) 32

def fromStart : ℕ := 0
def untilStart : ℕ := 64
def exclusiveSlot : ℕ := 128
def uint64Bits : ℕ := 64
def obligationBits : ℕ := 256

/-- How the receivable's identity is compared. -/
inductive IdentityMode
  | publicCommitment | fullFHE256 | other (name : String)
  deriving DecidableEq

/-- What a client encrypts. -/
structure PlainPledge where
  activeFrom : BitVec 64
  activeUntil : BitVec 64
  amount : Vector (BitVec 64) 4
  currency : Digest
  obligationID : Digest
  receivableID : Digest
  exclusive : Bool
  receivableCommitment : Digest
  authorizationCommitment : Digest
  privateMetadataCommitment : Digest

/-- The encrypted payload. -/
structure CipherPledge (m T : ℕ) where
  receivableCommitment : Digest
  authorizationCommitment : Digest
  privateMetadataCommitment : Digest
  policyBits : Slots m T
  currencyBits : Slots m T
  amountBits : Slots m T
  obligationIDBits : Slots m T
  /-- Present only under full-FHE identity. -/
  receivableIDBits : Option (Slots m T)

def writeUint64Bits (dst : ℕ → ℕ) (start : ℕ) (value : BitVec 64) : ℕ → ℕ :=
  (List.range uint64Bits).foldl (fun dst i =>
    update dst (start + i) ((value >>> (uint64Bits - 1 - i)) &&& 1).toNat) dst

/-- The inner loop of `writeBytesBits`. -/
def writeByteBits (dst : ℕ → ℕ) (start : ℕ) (value : BitVec 8) : ℕ → ℕ :=
  (List.range 8).foldl (fun dst bit =>
    update dst (start + bit) ((value >>> (7 - bit)) &&& 1).toNat) dst

def writeBytesBits (dst : ℕ → ℕ) (start : ℕ) : List (BitVec 8) → ℕ → ℕ
  | [] => dst
  | b :: rest => writeBytesBits (writeByteBits dst start b) (start + 8) rest

def writeUint256Bits (dst : ℕ → ℕ) (start : ℕ) : List (BitVec 64) → ℕ → ℕ
  | [] => dst
  | word :: rest => writeUint256Bits (writeUint64Bits dst start word) (start + uint64Bits) rest

def validatePlainPledge (p : PlainPledge) (mode : IdentityMode) : Except CircuitError Unit := do
  let zero : Digest := Vector.replicate 32 0
  revertIf (p.activeUntil ≤ p.activeFrom ∨ p.amount = Vector.replicate 4 0 ∨ p.currency = zero ∨
    p.obligationID = zero ∨ p.receivableID = zero ∨ p.authorizationCommitment = zero ∨
    p.privateMetadataCommitment = zero) .invalidPlaintext
  revertIf (mode = .publicCommitment ∧ p.receivableCommitment = zero) .invalidPlaintext
  revertIf (mode = .fullFHE256 ∧ p.receivableCommitment ≠ zero) .invalidPlaintext

/-- The slot values of the policy vector. -/
def policyValues (p : PlainPledge) : ℕ → ℕ :=
  update
    (writeUint64Bits (writeUint64Bits (fun _ => 0) fromStart p.activeFrom) untilStart
      p.activeUntil)
    exclusiveSlot p.exclusive.toNat

def encryptPledgeForMode (m T : ℕ) (p : PlainPledge) (mode : IdentityMode) :
    Except CircuitError (CipherPledge m T) := do
  validatePlainPledge p mode
  revertIf (mode ≠ .publicCommitment ∧ mode ≠ .fullFHE256) .invalidPlaintext
  let encryptVector := Slots.ofSlots m T
  pure
    { receivableCommitment := p.receivableCommitment
      authorizationCommitment := p.authorizationCommitment
      privateMetadataCommitment := p.privateMetadataCommitment
      policyBits := encryptVector (policyValues p)
      currencyBits := encryptVector (writeBytesBits (fun _ => 0) 0 p.currency.toList)
      amountBits := encryptVector (writeUint256Bits (fun _ => 0) 0 p.amount.toList)
      obligationIDBits := encryptVector (writeBytesBits (fun _ => 0) 0 p.obligationID.toList)
      receivableIDBits :=
        if mode = .fullFHE256 then
          some (encryptVector (writeBytesBits (fun _ => 0) 0 p.receivableID.toList))
        else none }

/-! ## What the loops wrote -/

/-- A loop of single writes at consecutive positions. -/
theorem foldl_update_range (f : ℕ → ℕ) (dst : ℕ → ℕ) (start n : ℕ) :
    (List.range n).foldl (fun dst i => update dst (start + i) (f i)) dst =
      fun j => if start ≤ j ∧ j < start + n then f (j - start) else dst j := by
  induction n with
  | zero =>
      funext j
      rw [if_neg (by omega)]
      rfl
  | succ n ih =>
      rw [List.range_succ, List.foldl_append, ih, List.foldl_cons, List.foldl_nil]
      funext j
      by_cases hj : j = start + n
      · subst hj
        rw [if_pos (by omega), Nat.add_sub_cancel_left, Function.update_self]
      · rw [Function.update_of_ne hj]
        by_cases hin : start ≤ j ∧ j < start + n
        · rw [if_pos hin, if_pos (by omega)]
        · rw [if_neg hin, if_neg (by omega)]

/-- Shifting bit `i` from the top to the bottom and masking it. -/
theorem shifted_bit {w : ℕ} (value : BitVec w) (hw : 0 < w) {i : ℕ} (hi : i < w) :
    ((value >>> (w - 1 - i)) &&& 1).toNat = (value.getMsbD i).toNat := by
  have hone : (1 : BitVec w).toNat = 1 := by
    simp [Nat.mod_eq_of_lt (Nat.one_lt_two_pow hw.ne')]
  rw [BitVec.toNat_and, hone, BitVec.toNat_ushiftRight, Nat.and_one_is_mod,
    Nat.shiftRight_eq_div_pow, BitVec.getMsbD_eq_getLsbD, decide_eq_true hi, Bool.true_and,
    BitVec.getLsbD, Nat.toNat_testBit]

/-- Writing the bits of a value one by one, from the top. -/
theorem writeBits_apply {w : ℕ} (dst : ℕ → ℕ) (start : ℕ) (value : BitVec w) (j : ℕ) :
    (List.range w).foldl (fun dst i =>
        update dst (start + i) ((value >>> (w - 1 - i)) &&& 1).toNat) dst j =
      if start ≤ j ∧ j < start + w then (value.getMsbD (j - start)).toNat else dst j := by
  rw [foldl_update_range]
  by_cases hin : start ≤ j ∧ j < start + w
  · have hbit : j - start < w := by omega
    rw [if_pos hin, ← shifted_bit value (by omega) hbit]
    exact if_pos hin
  · rw [if_neg hin]
    exact if_neg hin

theorem writeUint64Bits_apply (dst : ℕ → ℕ) (start : ℕ) (value : BitVec 64) (j : ℕ) :
    writeUint64Bits dst start value j =
      if start ≤ j ∧ j < start + 64 then (value.getMsbD (j - start)).toNat else dst j :=
  writeBits_apply dst start value j

theorem writeByteBits_apply (dst : ℕ → ℕ) (start : ℕ) (value : BitVec 8) (j : ℕ) :
    writeByteBits dst start value j =
      if start ≤ j ∧ j < start + 8 then (value.getMsbD (j - start)).toNat else dst j :=
  writeBits_apply dst start value j

/-- Bit `j` of a byte string, most significant first. -/
def byteBit (bytes : List (BitVec 8)) (j : ℕ) : Bool := (bytes.getD (j / 8) 0).getMsbD (j % 8)

theorem writeBytesBits_apply (bytes : List (BitVec 8)) (dst : ℕ → ℕ) (start j : ℕ) :
    writeBytesBits dst start bytes j =
      if start ≤ j ∧ j < start + 8 * bytes.length then (byteBit bytes (j - start)).toNat
      else dst j := by
  induction bytes generalizing dst start with
  | nil => rw [writeBytesBits, if_neg (by simp only [List.length_nil]; omega)]
  | cons b rest ih =>
      rw [writeBytesBits, ih, writeByteBits_apply, List.length_cons]
      by_cases hrest : start + 8 ≤ j ∧ j < start + 8 + 8 * rest.length
      · rw [if_pos hrest, if_pos (by omega)]
        have hsplit : j - start = (j - (start + 8)) + 8 := by omega
        rw [byteBit, byteBit, hsplit, Nat.add_div_right _ (by decide), Nat.add_mod_right,
          List.getD_cons_succ]
      · rw [if_neg hrest]
        by_cases hfirst : start ≤ j ∧ j < start + 8
        · rw [if_pos hfirst, if_pos (by omega)]
          rw [byteBit, Nat.div_eq_of_lt (by omega), Nat.mod_eq_of_lt (by omega),
            List.getD_cons_zero]
        · rw [if_neg hfirst, if_neg (by omega)]

/-- Two digests are equal when all their bits are. -/
theorem digest_eq_iff {a b : Digest} :
    a = b ↔ ∀ j < 256, byteBit a.toList j = byteBit b.toList j := by
  constructor
  · rintro rfl j -
    rfl
  · intro hbits
    apply Vector.ext
    intro i hi
    apply BitVec.eq_of_getMsbD_eq
    intro k hk
    have hbit := hbits (8 * i + k) (by omega)
    rw [byteBit, byteBit, Nat.mul_add_div (by decide), Nat.div_eq_of_lt hk, Nat.add_zero,
      Nat.mul_add_mod, Nat.mod_eq_of_lt hk, List.getD_eq_getElem _ _ (by simpa using hi),
      List.getD_eq_getElem _ _ (by simpa using hi)] at hbit
    simpa using hbit

end Mordant.Circuit
