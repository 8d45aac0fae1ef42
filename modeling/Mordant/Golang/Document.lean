/-
# Documents a Go program writes

The encoder writes a document member by member, in the order of the fields.  In a string it
escapes the letters of markup and two line separators, which no reader needs.
-/

import Mathlib.Algebra.Group.Nat.Defs
import Mordant.Script.Unicode

namespace Mordant.Golang

open Script

/-! ## Writing a string -/

/-- The letter after the backslash in a two-letter escape. -/
def jsonShortEscape (c : Char) : Option Char :=
  match c.toNat with
  | 0x22 => some '"'
  | 0x5c => some '\\'
  | 0x08 => some 'b'
  | 0x0c => some 'f'
  | 0x0a => some 'n'
  | 0x0d => some 'r'
  | 0x09 => some 't'
  | _ => none

/-- What is escaped by its number: controls, the letters of markup, line separators. -/
def jsonNumbered (c : Char) : Prop :=
  c.toNat < 0x20 ∨ c.toNat ∈ [0x26, 0x3c, 0x3e, 0x2028, 0x2029]

instance (c : Char) : Decidable (jsonNumbered c) :=
  inferInstanceAs (Decidable (_ ∨ _))

def jsonChar (c : Char) : List Char :=
  match jsonShortEscape c with
  | some letter => ['\\', letter]
  | none =>
    if jsonNumbered c then
      ['\\', 'u', Nat.digitChar (c.toNat / 16 ^ 3 % 16), Nat.digitChar (c.toNat / 16 ^ 2 % 16),
        Nat.digitChar (c.toNat / 16 % 16), Nat.digitChar (c.toNat % 16)]
    else [c]

/-- A string of characters only. -/
def jsonString (text : String) : List Char := '"' :: (text.toList.flatMap jsonChar ++ ['"'])

/-! ## Writing a document -/

def jsonUint (n : ℕ) : List Char := Nat.toDigits 10 n

def jsonBool (b : Bool) : List Char := if b then "true".toList else "false".toList

def jsonObject (members : List (String × List Char)) : List Char :=
  '{' :: [','].intercalate (members.map fun (name, value) => jsonString name ++ ':' :: value) ++
    ['}']

end Mordant.Golang
