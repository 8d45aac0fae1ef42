/-
# Typed structured data

How a wallet hashes a struct it shows to its holder: the text of the type, which names
every member with its type, is hashed first, and the word of each member follows, in the
order of the text.  The number of members is part of what is hashed, so a struct and its
members in groups are never hashed from the same bytes.
-/

import Mordant.Evm.Abi

namespace Mordant.Evm

/-- A member of a struct type. -/
structure Member where
  typeName : String
  name : String
  deriving DecidableEq

/-- `encodeType`, of a struct type none of whose members is a struct. -/
def encodeType (name : String) (members : List Member) : String :=
  name ++ "(" ++ ",".intercalate (members.map fun m => m.typeName ++ " " ++ m.name) ++ ")"

/-- A struct type with values in `α`: its members in order, each with the word it has in
a value. -/
structure StructType (α : Type) where
  name : String
  members : List (Member × (α → Bytes32))

namespace StructType

section

variable {α : Type} (type : StructType α) (crypto : Crypto) (value : α)

/-- The text of the type. -/
def typeText : String := encodeType type.name (type.members.map Prod.fst)

/-- The words of the members, in the order of the type. -/
def words : List Bytes32 := type.members.map fun member => member.2 value

/-- What `hashStruct` hashes. -/
def encoding : Bytes := abiEncode (crypto.keccakText type.typeText :: type.words value)

def hashStruct : Bytes32 := crypto.keccak256 (type.encoding crypto value)

/-- What a wallet signs for a contract. -/
def signingDigest (separator : Bytes32) : Bytes32 :=
  crypto.typedDataHash separator (type.hashStruct crypto value)

end

variable {α : Type} {type : StructType α} {crypto : Crypto} {value : α}

/-- The bytes of a struct tell the words of its members. -/
theorem words_of_encoding {value' : α}
    (h : type.encoding crypto value = type.encoding crypto value') :
    type.words value = type.words value' :=
  (List.cons.inj (abiEncode_injective h)).2

/-- No struct is encoded as a list of words with another number of entries. -/
theorem encoding_ne {words : List Bytes32} (h : words.length ≠ type.members.length + 1) :
    type.encoding crypto value ≠ abiEncode words := by
  intro heq
  have hlength := congrArg List.length (abiEncode_injective heq)
  rw [List.length_cons, StructType.words, List.length_map] at hlength
  exact h hlength.symm

end StructType

/-- Of different structs no digest is the same, for a hash without collisions on the two
texts. -/
theorem typedDataHash_ne {crypto : Crypto} {texts : Set Bytes}
    (hinj : texts.InjOn crypto.keccak256) {separator structHash structHash' : Bytes32}
    (hmem : typedDataText separator structHash ∈ texts)
    (hmem' : typedDataText separator structHash' ∈ texts) (hne : structHash ≠ structHash') :
    crypto.typedDataHash separator structHash ≠ crypto.typedDataHash separator structHash' := by
  intro heq
  exact hne (Crypto.typedData_inj (hinj hmem hmem' heq)).2

/-- A signature from which one signer is recovered for both digests is over one digest. -/
def Crypto.TellsApart (crypto : Crypto) (signature : Bytes) (digest digest' : Bytes32) : Prop :=
  ∀ signer, crypto.recoverStrict digest signature = some signer →
    crypto.recoverStrict digest' signature = some signer → digest = digest'

end Mordant.Evm
