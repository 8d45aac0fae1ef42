/-
# Fields of a message

The fields that messages are made of are read exactly as they are written: words and bytes, a
signature, and a part behind its length.
-/

import Mordant.Evm.BigEndian
import Mordant.ThresholdNet.Wire

namespace Mordant.ThresholdNet

open Evm Foundation
open Coalition (Digest Word64 uint64Bytes)

section

variable {text rest : Bytes}

theorem exactly_digest : Exactly readDigest (fun _ => True) wordBytes :=
  exactly_word (by norm_num)

theorem exactly_uint64 : Exactly readUint64 (fun _ => True) uint64Bytes :=
  exactly_word (by norm_num)

theorem exactly_uint32 : Exactly readUint32 (fun _ => True) uint32Bytes :=
  exactly_word (by norm_num)

theorem exactly_byte : Exactly readByte (fun _ => True) fun byte => [byte] := by
  refine .field (fun _ => rfl) (fun _ => rfl) fun text htext => ?_
  obtain ⟨byte, rfl⟩ := List.length_eq_one_iff.mp htext
  rfl

theorem copy_val (signature : Signature) : Signature.copy signature.1 = signature := by
  apply Subtype.ext
  show (signature.1 ++ List.replicate 64 0).take 64 = signature.1
  rw [List.take_append_of_le_length signature.2.ge, List.take_of_length_le signature.2.le]

theorem exactly_signature : Exactly readSignature (fun _ => True) Subtype.val := by
  refine .field (fun signature => signature.2) copy_val fun text htext => ?_
  exact congrArg Subtype.val (copy_val ⟨text, htext⟩)

theorem readDigest_iff {word : Digest} :
    readDigest text = some (word, rest) ↔ text = wordBytes word ++ rest := by
  rw [exactly_digest, true_and]

theorem readUint64_iff {word : Word64} :
    readUint64 text = some (word, rest) ↔ text = uint64Bytes word ++ rest := by
  rw [exactly_uint64, true_and]

theorem readUint32_iff {word : BitVec 32} :
    readUint32 text = some (word, rest) ↔ text = uint32Bytes word ++ rest := by
  rw [exactly_uint32, true_and]

theorem readByte_iff {byte : UInt8} :
    readByte text = some (byte, rest) ↔ text = byte :: rest := by
  rw [exactly_byte, true_and, List.singleton_append]

theorem readSignature_iff {signature : Signature} :
    readSignature text = some (signature, rest) ↔ text = signature.1 ++ rest := by
  rw [exactly_signature, true_and]

/-- The length that stands before a part is the length of the part. -/
theorem eq_ofNat_length {size : BitVec 32} {part : Bytes} (h : part.length = size.toNat) :
    size = BitVec.ofNat 32 part.length := by
  rw [h, BitVec.ofNat_toNat, BitVec.setWidth_eq]

theorem toNat_eq_zero {size : BitVec 32} : size = 0 ↔ size.toNat = 0 := by
  rw [BitVec.toNat_eq]
  rfl

/-! ## Parts behind their length -/

/-- A part behind its length, which has a bound and is not zero. -/
def readSized (maximum : ℕ) : Reader UInt8 Bytes := do
  let size ← readUint32
  .failIf (size = 0 ∨ maximum < size.toNat)
  .take size.toNat

def sizedBytes (part : Bytes) : Bytes := uint32Bytes (BitVec.ofNat 32 part.length) ++ part

theorem exactly_sized {maximum : ℕ} (hmaximum : maximum < 2 ^ 32) :
    Exactly (readSized maximum) (fun part => part.length ≠ 0 ∧ part.length ≤ maximum)
      sizedBytes := by
  intro text part rest
  simp only [readSized, reader_bind_iff, readUint32_iff, failIf_reader_iff, take_iff, not_or,
    not_lt, sizedBytes, List.append_assoc]
  constructor
  · rintro ⟨size, _, rfl, _, _, ⟨⟨hsize, hmax⟩, rfl⟩, hlength, rfl⟩
    rw [toNat_eq_zero.not, ← hlength] at hsize
    rw [← hlength] at hmax
    rw [eq_ofNat_length hlength]
    exact ⟨⟨hsize, hmax⟩, rfl⟩
  · rintro ⟨⟨hsize, hmax⟩, rfl⟩
    have hlength := toNat_ofNat_length hmax hmaximum
    refine ⟨_, _, rfl, (), _, ⟨⟨?_, ?_⟩, rfl⟩, hlength.symm, rfl⟩
    · rw [toNat_eq_zero.not, hlength]
      exact hsize
    · rw [hlength]
      exact hmax

end

end Mordant.ThresholdNet
