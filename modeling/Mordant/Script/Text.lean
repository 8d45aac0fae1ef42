/-
# Text of the scripting runtime

Strings are lists of UTF-16 code units, as the runtime counts them.  This module
has the operations on them that the off-chain code is written with: integers
read by `BigInt`, and the text `JSON.stringify` writes for strings and for
objects with a fixed order of keys.

Lower-casing and hashing are the runtime's own and are parameters, collected in
`Runtime`.  Of lower-casing the code relies on one fact, that the prefix of a
hexadecimal string is lower case already.
-/

import Mathlib.Data.Int.Notation
import Mathlib.Data.List.Basic

namespace Mordant.Script

/-- A string, as its UTF-16 code units. -/
abbrev Text := List UInt16

/-- An ASCII literal. -/
def lit (text : String) : Text := text.toUTF8.data.toList.map UInt8.toUInt16

/-- What is true of all units of a literal, which is found by looking at them. -/
theorem forall_of_all {text : Text} {p : UInt16 → Prop} [DecidablePred p]
    (h : text.all (fun unit => decide (p unit)) = true) : ∀ unit ∈ text, p unit :=
  fun unit hunit => of_decide_eq_true (List.all_eq_true.mp h unit hunit)

/-- What the runtime supplies. -/
structure Runtime where
  /-- `toLowerCase`. -/
  toLowerCase : Text → Text
  lower_hex : ∀ text, lit "0x" <+: text → lit "0x" <+: toLowerCase text
  /-- `createHash("sha256").update(text).digest("hex")`. -/
  sha256 : Text → Text

/-- What `Buffer` and the runtime's cryptography supply on top. -/
structure NodeRuntime extends Runtime where
  /-- `Buffer.from(text)`. -/
  utf8 : Text → List UInt8
  /-- `Buffer.from(text, "base64")`. -/
  decodeBase64 : Text → List UInt8
  /-- `toString("base64")`. -/
  encodeBase64 : List UInt8 → Text
  /-- `verify(null, message, key, signature)` for a raw Ed25519 key. -/
  verifyEd25519 : List UInt8 → List UInt8 → List UInt8 → Bool

/-- A string of the type the source writes as 0x followed by any string:
addresses and hexadecimal digests. -/
@[ext]
structure Hex where
  text : Text
  prefixed : lit "0x" <+: text
  deriving DecidableEq

/-! ## Case -/

def lowerUnit (unit : UInt16) : UInt16 := if 65 ≤ unit ∧ unit ≤ 90 then unit + 32 else unit

/-! ## Patterns -/

/-- `[0-9a-f]`. -/
def isLowerHexDigit (unit : UInt16) : Bool := (48 ≤ unit && unit ≤ 57) || (97 ≤ unit && unit ≤ 102)

/-- `[0-9a-fA-F]`. -/
def isHexDigit (unit : UInt16) : Bool := isLowerHexDigit unit || (65 ≤ unit && unit ≤ 70)

/-- A pattern that is a literal followed by a fixed number of digits. -/
def matchesDigits (isDigit : UInt16 → Bool) (head : String) (count : ℕ) (text : Text) : Bool :=
  lit head <+: text && (text.drop (lit head).length).length = count &&
    (text.drop (lit head).length).all isDigit

theorem matchesDigits_prefix {isDigit : UInt16 → Bool} {head : String} {count : ℕ} {text : Text}
    (h : matchesDigits isDigit head count text = true) : lit head <+: text := by
  simp only [matchesDigits, Bool.and_eq_true, decide_eq_true_eq] at h
  exact h.1.1

/-! ## Integers -/

/-- The white space `BigInt` ignores around a number. -/
def isWhiteSpace (unit : UInt16) : Bool :=
  unit ∈ ([9, 10, 11, 12, 13, 32, 0xA0, 0x1680, 0x2028, 0x2029, 0x202F, 0x205F, 0x3000, 0xFEFF] :
    Text) || (0x2000 ≤ unit && unit ≤ 0x200A)

def trim (text : Text) : Text :=
  ((text.dropWhile isWhiteSpace).reverse.dropWhile isWhiteSpace).reverse

/-- The value of a digit in some radix. -/
def digitOf (radix : ℕ) (unit : UInt16) : Option ℕ :=
  let value :=
    if 48 ≤ unit ∧ unit ≤ 57 then unit.toNat - 48
    else if 97 ≤ unit ∧ unit ≤ 122 then unit.toNat - 87
    else if 65 ≤ unit ∧ unit ≤ 90 then unit.toNat - 55
    else radix
  if value < radix then some value else none

/-- One or more digits. -/
def naturalOf (radix : ℕ) (digits : Text) : Option ℕ :=
  if digits = [] then none
  else digits.foldlM (fun acc unit => (digitOf radix unit).map (acc * radix + ·)) 0

/-- `BigInt` of a string, which throws where there is no value: nothing at all is
zero, a sign is for decimals only, and the other radixes have a prefix. -/
def bigInt (text : Text) : Option ℤ :=
  let body := trim text
  if body = [] then some 0
  else if lit "0x" <+: body ∨ lit "0X" <+: body then (naturalOf 16 (body.drop 2)).map Int.ofNat
  else if lit "0o" <+: body ∨ lit "0O" <+: body then (naturalOf 8 (body.drop 2)).map Int.ofNat
  else if lit "0b" <+: body ∨ lit "0B" <+: body then (naturalOf 2 (body.drop 2)).map Int.ofNat
  else if lit "-" <+: body then (naturalOf 10 (body.drop 1)).map fun n => -Int.ofNat n
  else if lit "+" <+: body then (naturalOf 10 (body.drop 1)).map Int.ofNat
  else (naturalOf 10 body).map Int.ofNat

/-- `Buffer.from(text, "hex")`, which stops at the first pair that is no digits. -/
def hexBytes : Text → List UInt8
  | high :: low :: rest =>
      match digitOf 16 high, digitOf 16 low with
      | some h, some l => UInt8.ofNat (16 * h + l) :: hexBytes rest
      | _, _ => []
  | _ => []

/-! ## Written values -/

def isHighSurrogate (unit : UInt16) : Bool := 0xD800 ≤ unit && unit ≤ 0xDBFF
def isLowSurrogate (unit : UInt16) : Bool := 0xDC00 ≤ unit && unit ≤ 0xDFFF

/-- A digit of a unicode escape. -/
def hexDigit (value : ℕ) : UInt16 := UInt16.ofNat (if value < 10 then value + 48 else value + 87)

/-- A unicode escape. -/
def unicodeEscape (unit : UInt16) : Text :=
  lit "\\u" ++ [hexDigit (unit.toNat / 4096), hexDigit (unit.toNat / 256 % 16),
    hexDigit (unit.toNat / 16 % 16), hexDigit (unit.toNat % 16)]

/-- A code unit inside a quoted string, not part of a surrogate pair. -/
def quoteUnit (unit : UInt16) : Text :=
  if unit = 34 then lit "\\\""
  else if unit = 92 then lit "\\\\"
  else if unit = 8 then lit "\\b"
  else if unit = 9 then lit "\\t"
  else if unit = 10 then lit "\\n"
  else if unit = 12 then lit "\\f"
  else if unit = 13 then lit "\\r"
  else if unit < 32 ∨ isHighSurrogate unit ∨ isLowSurrogate unit then unicodeEscape unit
  else [unit]

/-- The inside of a quoted string; a surrogate pair stands for itself. -/
def quoteUnits : Text → Text
  | [] => []
  | [unit] => quoteUnit unit
  | high :: low :: rest =>
      if isHighSurrogate high && isLowSurrogate low then high :: low :: quoteUnits rest
      else quoteUnit high ++ quoteUnits (low :: rest)

/-- `JSON.stringify` of a string. -/
def stringifyText (text : Text) : Text := lit "\"" ++ quoteUnits text ++ lit "\""

/-- `JSON.stringify` of an integer that a number holds exactly. -/
def stringifyInt (n : ℤ) : Text := lit (toString n)

/-- `JSON.stringify` of a Boolean. -/
def stringifyBool (b : Bool) : Text := if b then lit "true" else lit "false"

/-- `JSON.stringify` of an array whose elements are written already. -/
def stringifyArray (elements : List Text) : Text :=
  lit "[" ++ List.intercalate (lit ",") elements ++ lit "]"

/-- `JSON.stringify` of an object whose members are written already. -/
def stringifyObject (members : List (String × Text)) : Text :=
  lit "\x7b" ++ List.intercalate (lit ",") (members.map fun member =>
    stringifyText (lit member.1) ++ lit ":" ++ member.2) ++ lit "\x7d"

end Mordant.Script
