/-
# Words on the wire

A word is written as its bytes, the most significant first, and is read back from as many.
Every text of that length is the text of one word, so reading words loses nothing.
-/

import Mordant.Evm.Abi
import Mordant.Foundation.Codec

namespace Mordant.Evm

open Foundation

/-- The number that some bytes spell. -/
def bigEndianValue (bytes : Bytes) : ℕ := bytes.foldl (fun acc b => acc * 256 + b.toNat) 0

/-- The last `n` bytes of a number. -/
def bigEndianBytes (n value : ℕ) : Bytes :=
  (List.range n).map fun i => UInt8.ofNat (value / 256 ^ (n - 1 - i))

theorem length_bigEndianBytes (n value : ℕ) : (bigEndianBytes n value).length = n := by
  rw [bigEndianBytes, List.length_map, List.length_range]

theorem bigEndianValue_concat (bytes : Bytes) (b : UInt8) :
    bigEndianValue (bytes ++ [b]) = bigEndianValue bytes * 256 + b.toNat := by
  rw [bigEndianValue, List.foldl_append]
  rfl

theorem bigEndianValue_lt (bytes : Bytes) : bigEndianValue bytes < 256 ^ bytes.length := by
  induction bytes using List.reverseRecOn with
  | nil => exact Nat.one_pos
  | append_singleton bytes b ih =>
      have hb := b.toNat_lt
      rw [bigEndianValue_concat, List.length_append, List.length_singleton, Nat.pow_succ]
      omega

theorem bigEndianBytes_succ (n value : ℕ) :
    bigEndianBytes (n + 1) value = bigEndianBytes n (value / 256) ++ [UInt8.ofNat value] := by
  rw [bigEndianBytes, List.range_succ, List.map_append, List.map_singleton, Nat.add_sub_cancel,
    Nat.sub_self, Nat.pow_zero, Nat.div_one]
  congr 1
  apply List.map_congr_left
  intro i hi
  have hi := List.mem_range.mp hi
  rw [Nat.div_div_eq_div_mul, ← Nat.pow_succ', show n - i = (n - 1 - i).succ by omega]

/-- Bytes are the digits of what they spell. -/
theorem bigEndianBytes_value (bytes : Bytes) :
    bigEndianBytes bytes.length (bigEndianValue bytes) = bytes := by
  induction bytes using List.reverseRecOn with
  | nil => rfl
  | append_singleton bytes b ih =>
      have hb := b.toNat_lt
      rw [List.length_append, List.length_singleton, bigEndianBytes_succ, bigEndianValue_concat,
        show (bigEndianValue bytes * 256 + b.toNat) / 256 = bigEndianValue bytes by omega, ih]
      congr 2
      apply UInt8.toNat_inj.mp
      rw [UInt8.toNat_ofNat']
      omega

/-- Bytes spell the number whose digits they are. -/
theorem bigEndianValue_bytes {n value : ℕ} (h : value < 256 ^ n) :
    bigEndianValue (bigEndianBytes n value) = value := by
  have hdigits := foldl_digits n value 0
  rw [bigEndianValue, bigEndianBytes, hdigits, Nat.zero_mul, Nat.zero_add, Nat.mod_eq_of_lt h]

/-- A word of `n` bytes is read exactly. -/
theorem exactly_word {w n : ℕ} (hw : 2 ^ w = 256 ^ n) :
    Exactly (Reader.field n fun bytes => BitVec.ofNat w (bigEndianValue bytes)) (fun _ => True)
      fun word : BitVec w => bigEndianBytes n word.toNat := by
  refine .field (fun word => length_bigEndianBytes n word.toNat) (ofNat_digits hw)
    fun text hn => ?_
  · have hbound : bigEndianValue text < 2 ^ w := by
      rw [hw, ← hn]
      exact bigEndianValue_lt text
    rw [BitVec.toNat_ofNat, Nat.mod_eq_of_lt hbound, ← hn, bigEndianBytes_value]

end Mordant.Evm
