/-
# Canonicalization on the client

The reference implementation for clients has the same profiles, written with patterns
and replacements over text.  It must agree with the contracts byte for byte, because
two platforms that never communicate derive the same identity independently.
-/

import Mordant.Evm.Abi
import Mordant.Foundation.Call
import Mordant.Foundation.Pattern
import Mordant.Foundation.Scan
import Mordant.Script.Unicode

namespace Mordant.Identity

open Evm Foundation Script

/-- What the client throws, which is the message of an `Error`. -/
abbrev Thrown := String

namespace Client

/-! ## Classes of the patterns -/

/-- `[0-9]`. -/
def isDigit (unit : UInt16) : Bool := 0x30 ≤ unit && unit ≤ 0x39

/-- `[A-Z]`. -/
def isUpper (unit : UInt16) : Bool := 0x41 ≤ unit && unit ≤ 0x5A

/-- `[a-z]`. -/
def isLower (unit : UInt16) : Bool := 0x61 ≤ unit && unit ≤ 0x7A

/-- `[0-9A-Za-z]`. -/
def isAlnum (unit : UInt16) : Bool := isDigit unit || isUpper unit || isLower unit

/-- `[A-Z0-9]`. -/
def isUpperAlnum (unit : UInt16) : Bool := isUpper unit || isDigit unit

/-- `[ .-]`. -/
def isSeparator (unit : UInt16) : Bool := unit = 0x20 || unit = 0x2E || unit = 0x2D

/-- `^[0-9A-Za-z]+$`. -/
def alnumPattern : List (Piece UInt16) := [⟨isAlnum, .oneOrMore⟩]

/-- `^[0-9]+$`. -/
def digitsPattern : List (Piece UInt16) := [⟨isDigit, .oneOrMore⟩]

/-- `^[A-Z]{2}[A-Z0-9]+$`, with the number of repetitions in braces. -/
def vatPattern : List (Piece UInt16) := [⟨isUpper, .times 2⟩, ⟨isUpperAlnum, .oneOrMore⟩]

/-- `^0[xX][0-9a-fA-F]{40}$`. -/
def hexPattern : List (Piece UInt16) :=
  [⟨fun unit => unit = 0x30, .times 1⟩, ⟨fun unit => unit = 0x78 || unit = 0x58, .times 1⟩,
    ⟨isHexDigit, .times 40⟩]

/-! ## Profiles -/

def profileAlnumUpperFixed : ℕ := 1
def profileDigitsFixed : ℕ := 2
def profileVat : ℕ := 3
def profileHexAddress : ℕ := 4
def profileInvoiceCaseSensitive : ℕ := 5
def profileInvoiceCaseInsensitive : ℕ := 6

def requirePrintableAscii (value : Text) : Except Thrown Unit := do
  revertIf (value.length = 0) "EMPTY_IDENTIFIER"
  (checkAll (fun code => !(code < 0x20 || code > 0x7E)) 0 value).mapError fun index =>
    "UNSUPPORTED_CHARACTER:" ++ toString index

variable (cases : CaseMapping) (crypto : Crypto)

def canonicalBytes (profile : ℕ) (raw : Text) (fixedLength : ℕ) : Except Thrown Text := do
  requirePrintableAscii raw
  if profile = profileAlnumUpperFixed then do
    revertIf (accepts alnumPattern raw = false) "UNSUPPORTED_CHARACTER"
    revertIf (fixedLength ≠ 0 ∧ raw.length ≠ fixedLength) "WRONG_LENGTH"
    pure (cases.toUpperCase raw)
  else if profile = profileDigitsFixed then do
    revertIf (accepts digitsPattern raw = false) "UNSUPPORTED_CHARACTER"
    revertIf (fixedLength ≠ 0 ∧ raw.length ≠ fixedLength) "WRONG_LENGTH"
    pure raw
  else if profile = profileVat then do
    let stripped := cases.toUpperCase (raw.filter fun unit => !isSeparator unit)
    revertIf (accepts vatPattern stripped = false ∨ stripped.length < 3) "MALFORMED_IDENTIFIER"
    pure stripped
  else if profile = profileHexAddress then do
    revertIf (accepts hexPattern raw = false) "MALFORMED_IDENTIFIER"
    pure (lit "0x" ++ cases.toLowerCase (raw.drop 2))
  else if profile = profileInvoiceCaseSensitive then pure raw
  else if profile = profileInvoiceCaseInsensitive then do
    let filtered := cases.toUpperCase (raw.filter isAlnum)
    revertIf (filtered.length = 0) "EMPTY_IDENTIFIER"
    pure filtered
  else .error ("UNKNOWN_PROFILE:" ++ toString profile)

def normalize (profile : ℕ) (value : Text) (fixedLength : ℕ) : Except Thrown Bytes32 := do
  let canonical ← canonicalBytes cases profile value fixedLength
  pure (crypto.keccak256 (abiEncodeBytes
    [crypto.keccakText "mordant.normalized-field/2", uintWord profile] (encodeUtf8 canonical)))

/-- `namespace`. -/
def namespaceDigest (raw : Text) : Except Thrown Bytes32 := do
  requirePrintableAscii raw
  revertIf (accepts alnumPattern raw = false) "UNSUPPORTED_CHARACTER"
  pure (crypto.keccak256 (abiEncodeBytes [crypto.keccakText "mordant.namespace/2"]
    (encodeUtf8 (cases.toLowerCase raw))))

end Client

end Mordant.Identity
