/-
# Words, encodings and signatures of the virtual machine

Every static Solidity value occupies one 32-byte word of an `abi.encode`d
buffer, so a buffer is the concatenation of the big-endian words of its fields.
Hashing and public-key recovery are the two primitives the contracts call and
do not implement; they are parameters, collected in `Crypto`, and the checks the
contracts place around them are definitions here.
-/

import Mathlib.Data.FinEnum
import Mathlib.Tactic.NormNum
import Mathlib.Tactic.Ring

namespace Mordant.Evm

/-- A 20-byte account address. -/
abbrev Address := BitVec 160

/-- A `bytes32` value, or any other full word. -/
abbrev Bytes32 := BitVec 256

instance lawfulBEq_address : LawfulBEq Address := inferInstance

instance lawfulBEq_bytes32 : LawfulBEq Bytes32 := inferInstance

/-- A `bytes` value. -/
abbrev Bytes := List UInt8

/-- `bytes("...")`. -/
def stringBytes (text : String) : Bytes := text.toUTF8.data.toList

/-- The 32 big-endian bytes of a word. -/
def wordBytes (word : Bytes32) : Bytes :=
  (List.range 32).map fun i => UInt8.ofNat (word.toNat / 256 ^ (31 - i))

/-- Read a big-endian word from a byte string. -/
def wordOfBytes (bytes : Bytes) : Bytes32 :=
  BitVec.ofNat 256 (bytes.foldl (fun acc b => acc * 256 + b.toNat) 0)

theorem length_wordBytes (word : Bytes32) : (wordBytes word).length = 32 := by
  rw [wordBytes, List.length_map, List.length_range]

/-- Reading the big-endian digits of a number gives the number back. -/
theorem foldl_digits (n x acc : ℕ) :
    ((List.range n).map fun i => UInt8.ofNat (x / 256 ^ (n - 1 - i))).foldl
        (fun acc b => acc * 256 + b.toNat) acc = acc * 256 ^ n + x % 256 ^ n := by
  induction n generalizing x with
  | zero => simp [Nat.mod_one]
  | succ n ih =>
      have hupper : ((List.range n).map fun i => UInt8.ofNat (x / 256 ^ (n + 1 - 1 - i))) =
          (List.range n).map fun i => UInt8.ofNat (x / 256 / 256 ^ (n - 1 - i)) := by
        apply List.map_congr_left
        intro i hi
        have hi := List.mem_range.mp hi
        rw [Nat.div_div_eq_div_mul, ← Nat.pow_succ', show n + 1 - 1 - i = (n - 1 - i).succ by omega]
      have hlast : (UInt8.ofNat (x / 256 ^ (n + 1 - 1 - n))).toNat = x % 256 := by
        simp
      rw [List.range_succ, List.map_append, List.foldl_append, hupper, ih, List.map_singleton,
        List.foldl_cons, List.foldl_nil, hlast, Nat.pow_succ', Nat.mod_mul]
      ring

theorem ofNat_digits {w n : ℕ} (hw : 2 ^ w = 256 ^ n) (word : BitVec w) :
    BitVec.ofNat w (((List.range n).map fun i => UInt8.ofNat (word.toNat / 256 ^ (n - 1 - i))).foldl
      (fun acc b => acc * 256 + b.toNat) 0) = word := by
  have hbound : word.toNat < 256 ^ n := hw ▸ word.isLt
  apply BitVec.eq_of_toNat_eq
  rw [foldl_digits, Nat.zero_mul, Nat.zero_add, Nat.mod_eq_of_lt hbound, BitVec.toNat_ofNat,
    Nat.mod_eq_of_lt word.isLt]

theorem wordOfBytes_wordBytes (word : Bytes32) : wordOfBytes (wordBytes word) = word :=
  ofNat_digits (n := 32) (by norm_num) word

theorem wordBytes_injective : Function.Injective wordBytes :=
  Function.LeftInverse.injective wordOfBytes_wordBytes

/-- The first word of a buffer, and what follows it, can be read back. -/
theorem wordBytes_append_inj {word word' : Bytes32} {rest rest' : Bytes}
    (h : wordBytes word ++ rest = wordBytes word' ++ rest') : word = word' ∧ rest = rest' := by
  obtain ⟨hword, hrest⟩ :=
    List.append_inj h ((length_wordBytes word).trans (length_wordBytes word').symm)
  refine ⟨?_, hrest⟩
  rw [← wordOfBytes_wordBytes word, hword, wordOfBytes_wordBytes]

/-- `abi.encode` of static values that have already been widened to words. -/
def abiEncode (words : List Bytes32) : Bytes := words.flatMap wordBytes

theorem abiEncode_cons (word : Bytes32) (words : List Bytes32) :
    abiEncode (word :: words) = wordBytes word ++ abiEncode words := rfl

theorem abiEncode_append (words words' : List Bytes32) :
    abiEncode (words ++ words') = abiEncode words ++ abiEncode words' := List.flatMap_append

/-- An encoding determines its words, their number included. -/
theorem abiEncode_injective : Function.Injective abiEncode := by
  intro words words' heq
  have hlonger : ∀ word rest, abiEncode (word :: rest) ≠ [] := by
    intro word rest hnil
    have hlength := congrArg List.length hnil
    rw [abiEncode_cons, List.length_append, length_wordBytes] at hlength
    simp at hlength
  induction words generalizing words' with
  | nil =>
      cases words' with
      | nil => rfl
      | cons word rest => exact absurd heq.symm (hlonger word rest)
  | cons word words ih =>
      cases words' with
      | nil => exact absurd heq (hlonger word words)
      | cons word' words' =>
          rw [abiEncode_cons, abiEncode_cons] at heq
          obtain ⟨rfl, hrest⟩ := wordBytes_append_inj heq
          rw [ih hrest]

/-- A `bytes` value behind the head of a buffer: its length, the bytes, and zeros up
to the end of a word. -/
def bytesTail (data : Bytes) : Bytes :=
  wordBytes (BitVec.ofNat 256 data.length) ++ data ++
    List.replicate ((32 - data.length % 32) % 32) 0

/-- `abi.encode` of static values and one `bytes` value after them, for which the head
has the offset of its tail. -/
def abiEncodeBytes (words : List Bytes32) (data : Bytes) : Bytes :=
  abiEncode (words ++ [BitVec.ofNat 256 (32 * (words.length + 1))]) ++ bytesTail data

/-- Widen an unsigned integer, an address or an enum value to a word. -/
def uintWord (n : ℕ) : Bytes32 := BitVec.ofNat 256 n

def addressWord (account : Address) : Bytes32 := account.setWidth 256

theorem toNat_addressWord (account : Address) : (addressWord account).toNat = account.toNat := by
  rw [addressWord, BitVec.toNat_setWidth, Nat.mod_eq_of_lt (account.isLt.trans (by norm_num))]

/-- An account is read back from its word. -/
theorem setWidth_addressWord (account : Address) :
    (addressWord account).setWidth 160 = account := by
  apply BitVec.eq_of_toNat_eq
  rw [BitVec.toNat_setWidth, toNat_addressWord, Nat.mod_eq_of_lt account.isLt]

theorem addressWord_injective : Function.Injective addressWord :=
  Function.LeftInverse.injective setWidth_addressWord

/-- Widening an integer that fits loses nothing. -/
theorem uintWord_toNat_injective {width : ℕ} (hwidth : width ≤ 256) :
    Function.Injective fun x : BitVec width => uintWord x.toNat := by
  intro x y heq
  apply BitVec.eq_of_toNat_eq
  have hnat := congrArg BitVec.toNat heq
  have hfits : ∀ z : BitVec width, z.toNat < 2 ^ 256 := fun z =>
    z.isLt.trans_le (Nat.pow_le_pow_right (by decide) hwidth)
  simpa only [uintWord, BitVec.toNat_ofNat, Nat.mod_eq_of_lt (hfits x),
    Nat.mod_eq_of_lt (hfits y)] using hnat

def boolWord (b : Bool) : Bytes32 := if b then 1 else 0

/-- A `bytes3` value, which stands at the front of its word. -/
def bytes3Word (code : BitVec 24) : Bytes32 := code.setWidth 256 <<< 232

/-- `abi.encodePacked("\x19\x01", domainSeparator, structHash)`. -/
def typedDataText (separator structHash : Bytes32) : Bytes :=
  [0x19, 0x01] ++ wordBytes separator ++ wordBytes structHash

/-- The hash and the recovery precompile. `ecrecover` returns the zero address
on a signature that recovers to nobody. -/
structure Crypto where
  keccak256 : Bytes → Bytes32
  ecrecover : Bytes32 → ℕ → Bytes32 → Bytes32 → Address

namespace Crypto

variable (crypto : Crypto)

/-- `keccak256(bytes("..."))`. -/
def keccakText (text : String) : Bytes32 := crypto.keccak256 (stringBytes text)

/-- `keccak256(abi.encode(...))`. -/
def hashWords (words : List Bytes32) : Bytes32 := crypto.keccak256 (abiEncode words)

/-- The EIP-712 domain separator over name, version, chain and contract. -/
def domainSeparator (name version : String) (chainId : ℕ) (contract : Address) : Bytes32 :=
  crypto.hashWords
    [crypto.keccakText
      "EIP712Domain(string name,string version,uint256 chainId,address verifyingContract)",
      crypto.keccakText name, crypto.keccakText version, uintWord chainId, addressWord contract]

/-- The hash of typed data. -/
def typedDataHash (separator structHash : Bytes32) : Bytes32 :=
  crypto.keccak256 (typedDataText separator structHash)

/-- The packed bytes of typed data determine both hashes. -/
theorem typedData_inj {separator separator' structHash structHash' : Bytes32}
    (h : typedDataText separator structHash = typedDataText separator' structHash') :
    separator = separator' ∧ structHash = structHash' := by
  rw [typedDataText, typedDataText, List.append_assoc, List.append_assoc] at h
  obtain ⟨hseparator, hrest⟩ := wordBytes_append_inj (List.append_cancel_left h)
  have hstruct : wordBytes structHash ++ [] = wordBytes structHash' ++ [] := by
    rw [hrest]
  exact ⟨hseparator, (wordBytes_append_inj hstruct).1⟩

/-- Half the order of the curve; signatures with a larger `s` are malleable. -/
def halfOrder : ℕ := 0x7fffffffffffffffffffffffffffffff5d576e7357a4501ddfe92f46681b20a0

/-- `r`, `s` and `v` of a packed 65-byte signature. -/
def signatureParts (signature : Bytes) : Bytes32 × Bytes32 × ℕ :=
  (wordOfBytes (signature.take 32), wordOfBytes ((signature.drop 32).take 32),
    (signature.getD 64 0).toNat)

/-- The parts that were put together are the parts that are read. -/
theorem signatureParts_append (r s : Bytes32) (v : UInt8) :
    signatureParts (wordBytes r ++ wordBytes s ++ [v]) = (r, s, v.toNat) := by
  have hv : (wordBytes r ++ wordBytes s ++ [v]).getD 64 0 = v := by
    rw [List.getD_eq_getElem?_getD, List.getElem?_append_right (by simp [length_wordBytes])]
    simp [length_wordBytes]
  rw [signatureParts, hv, List.append_assoc, List.take_left' (length_wordBytes _),
    List.drop_left' (length_wordBytes _), List.take_left' (length_wordBytes _),
    wordOfBytes_wordBytes, wordOfBytes_wordBytes]

/-- Recovery as the library routine performs it: 65 bytes, low `s`, and a
signer other than the zero address. -/
def ecdsaRecover (digest : Bytes32) (signature : Bytes) : Option Address :=
  let (r, s, v) := signatureParts signature
  if signature.length ≠ 65 ∨ halfOrder < s.toNat then none
  else
    let signer := crypto.ecrecover digest v r s
    if signer = 0 then none else some signer

/-- Nobody is recovered as the zero address. -/
theorem ecdsaRecover_ne_zero {crypto : Crypto} {digest : Bytes32} {signature : Bytes}
    {signer : Address} (h : crypto.ecdsaRecover digest signature = some signer) : signer ≠ 0 := by
  simp only [ecdsaRecover] at h
  split at h
  · exact nomatch h
  · split at h
    · exact nomatch h
    · next hne =>
        obtain rfl := Option.some.inj h
        exact hne

/-- Recovery as the contracts with their own `_recover` perform it: the same
checks, and `v` must be 27 or 28. -/
def recoverStrict (digest : Bytes32) (signature : Bytes) : Option Address :=
  let (r, s, v) := signatureParts signature
  if signature.length ≠ 65 ∨ halfOrder < s.toNat ∨ (v ≠ 27 ∧ v ≠ 28) then none
  else
    let signer := crypto.ecrecover digest v r s
    if signer = 0 then none else some signer

/-- What is thrown where those checks are followed by OpenZeppelin's `ECDSA.recover`, which
refuses the zero address with an error of its own. -/
def recoveryError {E : Type} (malformed invalid : E) (signature : Bytes) : E :=
  let (_, s, v) := signatureParts signature
  if signature.length ≠ 65 ∨ halfOrder < s.toNat ∨ (v ≠ 27 ∧ v ≠ 28) then malformed else invalid

end Crypto

/-- What a call sees of its caller and of the block it runs in. -/
structure Msg where
  sender : Address
  timestamp : ℕ
  blockNumber : ℕ

/-- The truncating cast `uint64(...)`. -/
def toUint64 (n : ℕ) : ℕ := n % 2 ^ 64

end Mordant.Evm
