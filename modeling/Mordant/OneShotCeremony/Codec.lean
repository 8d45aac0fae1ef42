/-
# Canonical texts

Everything that the operators exchange and keep is written as words of a fixed width and as
parts behind their length, and is accepted only if it is written again as the text that was
read.  A part that is not too long is read back.
-/

import Mordant.Foundation.Codec
import Mordant.OneShotCeremony.Context

namespace Mordant.OneShotCeremony

open Evm Foundation
open ThresholdNet (uint32Bytes readUint32 reads_uint32)

def maxCanonicalField : ℕ := 2 ^ 30

/-- `decoder.field`. -/
def readField : Reader UInt8 Bytes := do
  let size ← readUint32
  .failIf (maxCanonicalField < size.toNat)
  .take size.toNat

def readUint16 : Reader UInt8 (BitVec 16) :=
  .field 2 fun bytes => BitVec.ofNat 16 (bytes.foldl (fun acc b => acc * 256 + b.toNat) 0)

/-- A field that has to be a certain one. -/
def readMagic (magic : Bytes) : Reader UInt8 Unit := do
  let value ← readField
  .failIf (value ≠ magic)

/-- Values behind their count, which has bounds. -/
def readMany {α : Type} (fewest most : ℕ) (x : Reader UInt8 α) : Reader UInt8 (List α) := do
  let count ← readUint32
  .failIf (count.toNat < fewest ∨ most < count.toNat)
  x.replicate count.toNat

/-- A part that a field can hold. -/
def Short (value : Bytes) : Prop := value.length < maxCanonicalField

instance (value : Bytes) : Decidable (Short value) := inferInstanceAs (Decidable (_ < _))

section

variable {α : Type} {x : Reader UInt8 α} {value : Bytes} {values : List α} {fewest most : ℕ}

theorem toNat_ofNat_lt {n : ℕ} (h : n < 2 ^ 32) : (BitVec.ofNat 32 n).toNat = n := by
  rw [BitVec.toNat_ofNat, Nat.mod_eq_of_lt h]

theorem reads_field_bytes (h : Short value) : Reads readField (fieldBytes value) value := by
  rw [Short, maxCanonicalField] at h
  have hsize := toNat_ofNat_lt (n := value.length) (by omega)
  refine (reads_uint32 _).bind (.unless ?_ (reads_take hsize.symm))
  rw [hsize, maxCanonicalField]
  omega

theorem length_uint16Bytes (word : BitVec 16) : (uint16Bytes word).length = 2 := rfl

theorem reads_uint16 (word : BitVec 16) : Reads readUint16 (uint16Bytes word) word := by
  refine reads_field rfl (BitVec.eq_of_toNat_eq ?_)
  have hword := word.isLt
  simp only [uint16Bytes, List.foldl_cons, List.foldl_nil, UInt8.toNat_ofNat',
    BitVec.toNat_ofNat]
  omega

theorem reads_magic (h : Short value) : Reads (readMagic value) (fieldBytes value) () := by
  intro rest
  exact reader_bind_iff.mpr ⟨value, rest, reads_field_bytes h rest,
    failIf_reader_iff.mpr ⟨not_not.mpr rfl, rfl⟩⟩

theorem reads_many {write : α → Bytes} (hfewest : fewest ≤ values.length)
    (hmost : values.length ≤ most) (hbound : most < 2 ^ 32)
    (h : ∀ a ∈ values, Reads x (write a) a) :
    Reads (readMany fewest most x)
      (uint32Bytes (BitVec.ofNat 32 values.length) ++ values.flatMap write) values := by
  have hcount := toNat_ofNat_lt (hmost.trans_lt hbound)
  refine (reads_uint32 _).bind (.unless ?_ ?_)
  · rw [hcount]
    omega
  · rw [hcount]
    exact reads_replicate h

end

end Mordant.OneShotCeremony
