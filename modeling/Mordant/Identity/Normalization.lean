/-
# Canonicalization profiles

`MordantNormalization` turns the printed form of an identifier into the bytes its
registry mandates, one profile for each kind of registry, and hashes them together
with the profile.  Every profile walks over the bytes once and refuses what it does
not know.
-/

import Mordant.Evm.Abi
import Mordant.Foundation.Call
import Mordant.Foundation.Scan

namespace Mordant.Identity

open Evm Foundation

/-- The errors of the library. -/
inductive NormalizationError
  | unsupportedCharacter (position : UInt8)
  | wrongLength (observed expected : ℕ)
  | emptyIdentifier
  | malformedIdentifier
  | unknownProfile (profile : UInt8)
  deriving DecidableEq

namespace Normalization

def profileAlnumUpperFixed : UInt8 := 1
def profileDigitsFixed : UInt8 := 2
def profileVat : UInt8 := 3
def profileHexAddress : UInt8 := 4
def profileInvoiceCaseSensitive : UInt8 := 5
def profileInvoiceCaseInsensitive : UInt8 := 6

def isLossless (profile : UInt8) : Bool :=
  profile = profileAlnumUpperFixed || profile = profileDigitsFixed || profile = profileVat ||
    profile = profileHexAddress || profile = profileInvoiceCaseSensitive

/-- `new bytes(length)`. -/
def newBytes (length : ℕ) : Bytes := List.replicate length 0

/-- The loops cast the position of what they refuse to eight bits. -/
def refusing {α : Type} (loop : Except ℕ α) : Except NormalizationError α :=
  loop.mapError fun i => .unsupportedCharacter (UInt8.ofNat i)

def requirePrintableAscii (raw : Bytes) : Except NormalizationError Unit := do
  revertIf (raw.length = 0) .emptyIdentifier
  refusing (checkAll (fun character => !(character < 0x20 || character > 0x7E)) 0 raw)

/-- What the upper-casing loops write for a letter or a digit. -/
def upperAlnum (character : UInt8) : Option UInt8 :=
  if character ≥ 0x61 ∧ character ≤ 0x7A then some (character - 32)
  else if (character ≥ 0x41 ∧ character ≤ 0x5A) ∨ (character ≥ 0x30 ∧ character ≤ 0x39) then
    some character
  else none

def alnumUpperFixed (raw : Bytes) (fixedLength : ℕ) : Except NormalizationError Bytes := do
  let out ← refusing (fill upperAlnum 0 raw (newBytes raw.length))
  revertIf (fixedLength ≠ 0 ∧ raw.length ≠ fixedLength) (.wrongLength raw.length fixedLength)
  pure out

def digitsFixed (raw : Bytes) (fixedLength : ℕ) : Except NormalizationError Bytes := do
  refusing (checkAll (fun character => !(character < 0x30 || character > 0x39)) 0 raw)
  revertIf (fixedLength ≠ 0 ∧ raw.length ≠ fixedLength) (.wrongLength raw.length fixedLength)
  pure raw

def isUpperAlpha (character : UInt8) : Bool := character ≥ 0x41 && character ≤ 0x5A

/-- The body of the loop of `_vat`, which drops the three separators registries print. -/
def vatStep (character : UInt8) : Scanned UInt8 :=
  if character = 0x20 ∨ character = 0x2E ∨ character = 0x2D then .drop
  else
    match upperAlnum character with
    | some upper => .keep upper
    | none => .refuse

def vat (raw : Bytes) : Except NormalizationError Bytes := do
  let (out, length) ← refusing (compact vatStep 0 raw (newBytes raw.length) 0)
  revertIf (length < 3) .malformedIdentifier
  -- `mstore(out, length)` cuts the buffer
  let out := out.take length
  revertIf (isUpperAlpha (out.getD 0 0) = false ∨ isUpperAlpha (out.getD 1 0) = false)
    .malformedIdentifier
  pure out

/-- What the loop of `_hexAddress` writes for a digit. -/
def lowerHex (character : UInt8) : Option UInt8 :=
  if character ≥ 0x41 ∧ character ≤ 0x46 then some (character + 32)
  else if (character ≥ 0x30 ∧ character ≤ 0x39) ∨ (character ≥ 0x61 ∧ character ≤ 0x66) then
    some character
  else none

def hexAddress (raw : Bytes) : Except NormalizationError Bytes := do
  revertIf (raw.length ≠ 42) (.wrongLength raw.length 42)
  revertIf (raw.getD 0 0 ≠ 0x30 ∨ (raw.getD 1 0 ≠ 0x78 ∧ raw.getD 1 0 ≠ 0x58))
    .malformedIdentifier
  let out := ((newBytes 42).set 0 0x30).set 1 0x78
  refusing (fill lowerHex 2 (raw.drop 2) out)

def caseSensitive (raw : Bytes) : Except NormalizationError Bytes := pure raw

/-- The body of the loop of `_caseInsensitiveAlnum`, which refuses nothing. -/
def caseInsensitiveStep (character : UInt8) : Scanned UInt8 :=
  match upperAlnum character with
  | some upper => .keep upper
  | none => .drop

def caseInsensitiveAlnum (raw : Bytes) : Except NormalizationError Bytes := do
  let (out, length) ← refusing (compact caseInsensitiveStep 0 raw (newBytes raw.length) 0)
  revertIf (length = 0) .emptyIdentifier
  pure (out.take length)

def canonicalBytes (profile : UInt8) (raw : Bytes) (fixedLength : ℕ) :
    Except NormalizationError Bytes := do
  requirePrintableAscii raw
  if profile = profileAlnumUpperFixed then alnumUpperFixed raw fixedLength
  else if profile = profileDigitsFixed then digitsFixed raw fixedLength
  else if profile = profileVat then vat raw
  else if profile = profileHexAddress then hexAddress raw
  else if profile = profileInvoiceCaseSensitive then caseSensitive raw
  else if profile = profileInvoiceCaseInsensitive then caseInsensitiveAlnum raw
  else .error (.unknownProfile profile)

variable (crypto : Crypto)

def normalize (profile : UInt8) (raw : Bytes) (fixedLength : ℕ) :
    Except NormalizationError Bytes32 := do
  let out ← canonicalBytes profile raw fixedLength
  pure (crypto.keccak256 (abiEncodeBytes
    [crypto.keccakText "mordant.normalized-field/2", uintWord profile.toNat] out))

/-- What the loop of `namespace` writes for a letter or a digit. -/
def lowerAlnum (character : UInt8) : Option UInt8 :=
  if character ≥ 0x41 ∧ character ≤ 0x5A then some (character + 32)
  else if (character ≥ 0x61 ∧ character ≤ 0x7A) ∨ (character ≥ 0x30 ∧ character ≤ 0x39) then
    some character
  else none

/-- `namespace`. -/
def namespaceDigest (raw : Bytes) : Except NormalizationError Bytes32 := do
  requirePrintableAscii raw
  let out ← refusing (fill lowerAlnum 0 raw (newBytes raw.length))
  revertIf (raw.length = 0) .emptyIdentifier
  pure (crypto.keccak256 (abiEncodeBytes [crypto.keccakText "mordant.namespace/2"] out))

end Normalization

end Mordant.Identity
