/-
# Written documents

`JSON.stringify` of what `JSON.parse` returns.  How a number is written is left to
the runtime; what is needed of it is that different numbers are written
differently, in digits, signs, points and exponents.

A written value ends where it ends whatever follows it, so that what is written
determines what it was written for.
-/

import Mordant.Script.Json

namespace Mordant.Script

/-! ## Quoted strings -/

/-- The value of a digit of a unicode escape. -/
def escapeDigit (unit : UInt16) : ℕ := if unit < 58 then unit.toNat - 48 else unit.toNat - 87

/-- What follows a backslash, apart from a unicode escape. -/
def unescape (unit : UInt16) : UInt16 :=
  if unit = 98 then 8
  else if unit = 116 then 9
  else if unit = 110 then 10
  else if unit = 102 then 12
  else if unit = 114 then 13
  else unit

/-- Reads a string up to its closing quote, and returns what comes after. -/
def readUnits : Text → Text × Text
  | [] => ([], [])
  | 34 :: rest => ([], rest)
  | 92 :: 117 :: a :: b :: c :: d :: rest =>
    let unit := UInt16.ofNat
      (4096 * escapeDigit a + 256 * escapeDigit b + 16 * escapeDigit c + escapeDigit d)
    ((readUnits rest).map (unit :: ·) id)
  | 92 :: unit :: rest => (readUnits rest).map (unescape unit :: ·) id
  | unit :: rest => (readUnits rest).map (unit :: ·) id

section

variable {unit : UInt16} {text rest : Text}

theorem escapeDigit_hexDigit {value : ℕ} (h : value < 16) :
    escapeDigit (hexDigit value) = value := by
  revert value
  decide

theorem readUnits_plain (hquote : unit ≠ 34) (hescape : unit ≠ 92) :
    readUnits (unit :: rest) = (readUnits rest).map (unit :: ·) id := by
  apply readUnits.eq_5
  · intro h
    exact hquote h
  · intro a b c d rest' h
    exact absurd h hescape
  · intro unit' rest' h
    exact absurd h hescape

theorem readUnits_unicodeEscape :
    readUnits (unicodeEscape unit ++ rest) = (readUnits rest).map (unit :: ·) id := by
  have hsize := unit.toNat_lt
  have hhigh : unit.toNat / 4096 < 16 := by omega
  show (readUnits rest).map (UInt16.ofNat (4096 * escapeDigit (hexDigit (unit.toNat / 4096)) +
    256 * escapeDigit (hexDigit (unit.toNat / 256 % 16)) +
    16 * escapeDigit (hexDigit (unit.toNat / 16 % 16)) +
    escapeDigit (hexDigit (unit.toNat % 16))) :: ·) id = _
  rw [escapeDigit_hexDigit hhigh, escapeDigit_hexDigit (Nat.mod_lt _ (by decide)),
    escapeDigit_hexDigit (Nat.mod_lt _ (by decide)),
    escapeDigit_hexDigit (Nat.mod_lt _ (by decide))]
  have hvalue : 4096 * (unit.toNat / 4096) + 256 * (unit.toNat / 256 % 16) +
      16 * (unit.toNat / 16 % 16) + unit.toNat % 16 = unit.toNat := by omega
  rw [hvalue, UInt16.ofNat_toNat]

/-- A unit is read back as itself. -/
theorem readUnits_quoteUnit :
    readUnits (quoteUnit unit ++ rest) = (readUnits rest).map (unit :: ·) id := by
  rw [quoteUnit]
  iterate 7
    split
    · next h =>
        subst h
        rfl
  split
  · exact readUnits_unicodeEscape
  · next hquote hescape _ _ _ _ _ _ => exact readUnits_plain hquote hescape

theorem ne_of_isSurrogate (h : isHighSurrogate unit = true ∨ isLowSurrogate unit = true) :
    unit ≠ 34 ∧ unit ≠ 92 := by
  constructor <;>
  · rintro rfl
    exact absurd h (by decide)

/-- A quoted string is read back as itself, whatever comes after. -/
theorem readUnits_quoteUnits : readUnits (quoteUnits text ++ 34 :: rest) = (text, rest) := by
  induction text using quoteUnits.induct with
  | case1 => rfl
  | case2 unit =>
      rw [quoteUnits, readUnits_quoteUnit, readUnits]
      rfl
  | case3 high low text hpair ih =>
      rw [Bool.and_eq_true] at hpair
      obtain ⟨hhighQuote, hhighEscape⟩ := ne_of_isSurrogate (.inl hpair.1)
      obtain ⟨hlowQuote, hlowEscape⟩ := ne_of_isSurrogate (.inr hpair.2)
      rw [quoteUnits, if_pos (Bool.and_eq_true_iff.mpr hpair), List.cons_append, List.cons_append,
        readUnits_plain hhighQuote hhighEscape, readUnits_plain hlowQuote hlowEscape, ih]
      rfl
  | case4 high low text hpair ih =>
      rw [quoteUnits, if_neg hpair, List.append_assoc, readUnits_quoteUnit, ih]
      rfl

/-- What is quoted determines what it was quoted for, and where it ends. -/
theorem stringifyText_unambiguous {text' rest' : Text}
    (h : stringifyText text ++ rest = stringifyText text' ++ rest') :
    text = text' ∧ rest = rest' := by
  have hread : ∀ text rest, readUnits ((stringifyText text ++ rest).drop 1) = (text, rest) := by
    intro text rest
    rw [stringifyText, List.append_assoc, List.append_assoc]
    exact readUnits_quoteUnits
  have hpair := hread text rest
  rw [h, hread text' rest'] at hpair
  exact ⟨(congrArg Prod.fst hpair).symm, (congrArg Prod.snd hpair).symm⟩

end

/-! ## Documents -/

/-- `JSON.stringify` of an object whose members are written already, by any keys. -/
def stringifyMembers (members : List (Text × Text)) : Text :=
  lit "\x7b" ++ List.intercalate (lit ",") (members.map fun member =>
    stringifyText member.1 ++ lit ":" ++ member.2) ++ lit "\x7d"

section

variable (numberText : ℚ → Text)

mutual

def Json.stringify : Json → Text
  | .null => lit "null"
  | .bool value => stringifyBool value
  | .number (.finite value) => numberText value
  | .number _ => lit "null"
  | .text value => stringifyText value
  | .array elements => stringifyArray (stringifyAll elements)
  | .object members => stringifyMembers (stringifyEach members)

def stringifyAll : List Json → List Text
  | [] => []
  | value :: rest => value.stringify :: stringifyAll rest

def stringifyEach : List (Text × Json) → List (Text × Text)
  | [] => []
  | (key, value) :: rest => (key, value.stringify) :: stringifyEach rest

end

end

mutual

/-- All its numbers are finite. -/
def Json.isFinite : Json → Bool
  | .number (.finite _) => true
  | .number _ => false
  | .array elements => allFinite elements
  | .object members => eachFinite members
  | _ => true

def allFinite : List Json → Bool
  | [] => true
  | value :: rest => value.isFinite && allFinite rest

def eachFinite : List (Text × Json) → Bool
  | [] => true
  | (_, value) :: rest => value.isFinite && eachFinite rest

end

theorem eachFinite_iff {members : List (Text × Json)} :
    eachFinite members = true ↔ ∀ member ∈ members, member.2.isFinite = true := by
  induction members with
  | nil => simp [eachFinite]
  | cons member rest ih => rw [eachFinite, Bool.and_eq_true, ih, List.forall_mem_cons]

/-- The units numbers are written in. -/
def isNumberUnit (unit : UInt16) : Bool :=
  (48 ≤ unit && unit ≤ 57) || unit = 43 || unit = 45 || unit = 46 || unit = 101

/-- What the runtime documents of the numbers it writes. -/
structure NumberTexts (numberText : ℚ → Text) : Prop where
  injective : Function.Injective numberText
  nonempty : ∀ value, numberText value ≠ []
  units : ∀ value, ∀ unit ∈ numberText value, isNumberUnit unit = true

/-! ## One value, one text -/

/-- The kind of value that a unit begins. -/
def kindOfUnit (unit : UInt16) : Option ℕ :=
  if unit = 110 then some 0
  else if unit = 116 then some 1
  else if unit = 102 then some 2
  else if unit = 34 then some 3
  else if unit = 91 then some 4
  else if unit = 123 then some 5
  else if isNumberUnit unit then some 6
  else none

def Json.kind : Json → ℕ
  | .null => 0
  | .bool true => 1
  | .bool false => 2
  | .text _ => 3
  | .array _ => 4
  | .object _ => 5
  | .number _ => 6

/-- No number goes on here. -/
def Stops (rest : Text) : Prop := ∀ unit ∈ rest.head?, isNumberUnit unit = false

/-- The elements after the first, and the closing bracket. -/
def closeElements (close : UInt16) : List Text → Text
  | [] => [close]
  | part :: rest => 44 :: (part ++ closeElements close rest)

section

variable {numberText : ℚ → Text} {value : Json}

theorem intercalate_close {close : UInt16} (part : Text) (parts : List Text) :
    List.intercalate (lit ",") (part :: parts) ++ [close] = part ++ closeElements close parts := by
  induction parts generalizing part with
  | nil => simp [closeElements]
  | cons next parts ih =>
      rw [List.intercalate_cons_cons, List.append_assoc, List.append_assoc, ih]
      rfl

theorem stops_closeElements {close : UInt16} (hclose : isNumberUnit close = false)
    (parts : List Text) (rest : Text) : Stops (closeElements close parts ++ rest) := by
  intro unit hunit
  cases parts with
  | nil =>
      obtain rfl := Option.some.inj hunit
      exact hclose
  | cons part parts =>
      obtain rfl := Option.some.inj hunit
      decide

/-- What follows a number is no part of it. -/
theorem numberUnits_unambiguous {left right rest rest' : Text}
    (hleft : ∀ unit ∈ left, isNumberUnit unit = true)
    (hright : ∀ unit ∈ right, isNumberUnit unit = true) (hrest : Stops rest) (hrest' : Stops rest')
    (h : left ++ rest = right ++ rest') : left = right ∧ rest = rest' := by
  induction left generalizing right with
  | nil =>
      cases right with
      | nil => exact ⟨rfl, h⟩
      | cons unit right =>
          have hstop := hrest unit (by rw [show rest = unit :: (right ++ rest') from h]; rfl)
          exact nomatch (hright unit List.mem_cons_self).symm.trans hstop
  | cons unit left ih =>
      cases right with
      | nil =>
          have hstop := hrest' unit (by rw [show rest' = unit :: (left ++ rest) from h.symm]; rfl)
          exact nomatch (hleft unit List.mem_cons_self).symm.trans hstop
      | cons unit' right =>
          obtain ⟨rfl, htail⟩ := List.cons.inj h
          obtain ⟨rfl, hrests⟩ := ih (fun u hu => hleft u (List.mem_cons_of_mem _ hu))
            (fun u hu => hright u (List.mem_cons_of_mem _ hu)) htail
          exact ⟨rfl, hrests⟩

/-- The first unit of a written value tells its kind. -/
theorem stringify_kind (hnumbers : NumberTexts numberText) (hfinite : value.isFinite = true) :
    ∃ unit rest, value.stringify numberText = unit :: rest ∧ kindOfUnit unit = some value.kind := by
  cases value with
  | null => exact ⟨_, _, rfl, by decide⟩
  | bool value => cases value <;> exact ⟨_, _, rfl, by decide⟩
  | number number =>
      cases number with
      | finite value =>
          obtain ⟨unit, rest, htext⟩ := List.exists_cons_of_ne_nil (hnumbers.nonempty value)
          refine ⟨unit, rest, htext, ?_⟩
          have hunit := hnumbers.units value unit (htext ▸ List.mem_cons_self)
          have hother : ∀ other : UInt16, isNumberUnit other = false → unit ≠ other := by
            rintro other hfalse rfl
            exact nomatch hunit.symm.trans hfalse
          rw [kindOfUnit, if_neg (hother 110 (by decide)), if_neg (hother 116 (by decide)),
            if_neg (hother 102 (by decide)), if_neg (hother 34 (by decide)),
            if_neg (hother 91 (by decide)), if_neg (hother 123 (by decide)), if_pos hunit]
          rfl
      | infinite _ | nan => exact nomatch hfinite
  | text value => exact ⟨34, quoteUnits value ++ lit "\"", rfl, rfl⟩
  | array elements => exact ⟨91, _, rfl, rfl⟩
  | object members => exact ⟨123, _, rfl, rfl⟩

theorem kind_eq_of_stringify (hnumbers : NumberTexts numberText) {other : Json} {rest rest' : Text}
    (hfinite : value.isFinite = true) (hfinite' : other.isFinite = true)
    (h : value.stringify numberText ++ rest = other.stringify numberText ++ rest') :
    value.kind = other.kind := by
  obtain ⟨unit, tail, htext, hkind⟩ := stringify_kind hnumbers hfinite
  obtain ⟨unit', tail', htext', hkind'⟩ := stringify_kind hnumbers hfinite'
  rw [htext, htext'] at h
  obtain ⟨rfl, -⟩ := List.cons.inj h
  exact Option.some.inj (hkind.symm.trans hkind')

/-- A value does not begin with what closes a list of them. -/
theorem stringify_ne_close (hnumbers : NumberTexts numberText) {close : UInt16} {rest rest' : Text}
    (hfinite : value.isFinite = true) (hclose : kindOfUnit close = none) :
    close :: rest ≠ value.stringify numberText ++ rest' := by
  obtain ⟨unit, tail, htext, hkind⟩ := stringify_kind hnumbers hfinite
  rw [htext]
  rintro h
  obtain ⟨rfl, -⟩ := List.cons.inj h
  exact nomatch hclose.symm.trans hkind

theorem stringify_array_cons (value : Json) (elements : List Json) (rest : Text) :
    (Json.array (value :: elements)).stringify numberText ++ rest =
      91 :: (value.stringify numberText ++
        (closeElements 93 (stringifyAll numberText elements) ++ rest)) := by
  show lit "[" ++ List.intercalate _ _ ++ [93] ++ rest = _
  rw [List.append_assoc (lit "["), stringifyAll, intercalate_close, List.append_assoc,
    List.append_assoc]
  rfl

/-- A member as it is written. -/
def writtenMember (member : Text × Text) : Text := stringifyText member.1 ++ lit ":" ++ member.2

theorem stringify_object_cons (key : Text) (value : Json) (members : List (Text × Json))
    (rest : Text) :
    (Json.object ((key, value) :: members)).stringify numberText ++ rest =
      123 :: (stringifyText key ++ 58 :: (value.stringify numberText ++
        (closeElements 125 ((stringifyEach numberText members).map writtenMember) ++ rest))) := by
  show lit "\x7b" ++ List.intercalate _ (_ :: List.map writtenMember _) ++ [125] ++ rest = _
  rw [List.append_assoc (lit "\x7b"), intercalate_close]
  simp only [List.append_assoc]
  rfl

mutual

/-- **What is written determines the value**, and where it ends. -/
theorem Json.stringify_unambiguous (hnumbers : NumberTexts numberText) :
    ∀ (value other : Json) {rest rest' : Text}, value.isFinite = true → other.isFinite = true →
      Stops rest → Stops rest' →
      value.stringify numberText ++ rest = other.stringify numberText ++ rest' →
      value = other ∧ rest = rest'
  | .null, other, rest, rest', hfinite, hfinite', _, _, h => by
      have hkind := kind_eq_of_stringify hnumbers hfinite hfinite' h
      cases other with
      | null => exact ⟨rfl, List.append_cancel_left h⟩
      | bool b => cases b <;> exact nomatch hkind
      | number _ | text _ | array _ | object _ => exact nomatch hkind
  | .bool true, other, rest, rest', hfinite, hfinite', _, _, h => by
      have hkind := kind_eq_of_stringify hnumbers hfinite hfinite' h
      cases other with
      | bool b =>
          cases b with
          | false => exact nomatch hkind
          | true => exact ⟨rfl, List.append_cancel_left h⟩
      | null | number _ | text _ | array _ | object _ => exact nomatch hkind
  | .bool false, other, rest, rest', hfinite, hfinite', _, _, h => by
      have hkind := kind_eq_of_stringify hnumbers hfinite hfinite' h
      cases other with
      | bool b =>
          cases b with
          | false => exact ⟨rfl, List.append_cancel_left h⟩
          | true => exact nomatch hkind
      | null | number _ | text _ | array _ | object _ => exact nomatch hkind
  | .number number, other, rest, rest', hfinite, hfinite', hrest, hrest', h => by
      have hkind := kind_eq_of_stringify hnumbers hfinite hfinite' h
      cases other with
      | number number' =>
          cases number with
          | finite value =>
              cases number' with
              | finite value' =>
                  obtain ⟨htext, hrests⟩ := numberUnits_unambiguous (hnumbers.units value)
                    (hnumbers.units value') hrest hrest' h
                  rw [hnumbers.injective htext]
                  exact ⟨rfl, hrests⟩
              | infinite _ | nan => exact nomatch hfinite'
          | infinite _ | nan => exact nomatch hfinite
      | bool b => cases b <;> exact nomatch hkind
      | null | text _ | array _ | object _ => exact nomatch hkind
  | .text text, other, rest, rest', hfinite, hfinite', _, _, h => by
      have hkind := kind_eq_of_stringify hnumbers hfinite hfinite' h
      cases other with
      | text text' =>
          obtain ⟨rfl, hrests⟩ := stringifyText_unambiguous h
          exact ⟨rfl, hrests⟩
      | bool b => cases b <;> exact nomatch hkind
      | null | number _ | array _ | object _ => exact nomatch hkind
  | .array [], other, rest, rest', hfinite, hfinite', _, _, h => by
      have hkind := kind_eq_of_stringify hnumbers hfinite hfinite' h
      cases other with
      | array elements' =>
          cases elements' with
          | nil => exact ⟨rfl, List.append_cancel_left h⟩
          | cons value' elements' =>
              rw [stringify_array_cons] at h
              simp only [Json.isFinite, allFinite, Bool.and_eq_true] at hfinite'
              exact absurd (List.cons.inj h).2 (stringify_ne_close hnumbers hfinite'.1 rfl)
      | bool b => cases b <;> exact nomatch hkind
      | null | number _ | text _ | object _ => exact nomatch hkind
  | .array (value :: elements), other, rest, rest', hfinite, hfinite', hrest, hrest', h => by
      have hkind := kind_eq_of_stringify hnumbers hfinite hfinite' h
      simp only [Json.isFinite, allFinite, Bool.and_eq_true] at hfinite
      cases other with
      | array elements' =>
          rw [stringify_array_cons] at h
          cases elements' with
          | nil => exact absurd (List.cons.inj h).2.symm (stringify_ne_close hnumbers hfinite.1 rfl)
          | cons value' elements' =>
              simp only [Json.isFinite, allFinite, Bool.and_eq_true] at hfinite'
              rw [stringify_array_cons] at h
              obtain ⟨rfl, htail⟩ := Json.stringify_unambiguous hnumbers value value' hfinite.1
                hfinite'.1 (stops_closeElements rfl _ _) (stops_closeElements rfl _ _)
                (List.cons.inj h).2
              obtain ⟨rfl, hrests⟩ := stringifyAll_unambiguous hnumbers elements elements'
                hfinite.2 hfinite'.2 htail
              exact ⟨rfl, hrests⟩
      | bool b => cases b <;> exact nomatch hkind
      | null | number _ | text _ | object _ => exact nomatch hkind
  | .object [], other, rest, rest', hfinite, hfinite', _, _, h => by
      have hkind := kind_eq_of_stringify hnumbers hfinite hfinite' h
      cases other with
      | object members' =>
          cases members' with
          | nil => exact ⟨rfl, List.append_cancel_left h⟩
          | cons member' members' =>
              rw [stringify_object_cons] at h
              exact absurd (List.cons.inj (List.cons.inj h).2).1 (by decide)
      | bool b => cases b <;> exact nomatch hkind
      | null | number _ | text _ | array _ => exact nomatch hkind
  | .object ((key, value) :: members), other, rest, rest', hfinite, hfinite', hrest, hrest', h => by
      have hkind := kind_eq_of_stringify hnumbers hfinite hfinite' h
      simp only [Json.isFinite, eachFinite, Bool.and_eq_true] at hfinite
      cases other with
      | object members' =>
          rw [stringify_object_cons] at h
          cases members' with
          | nil => exact absurd (List.cons.inj (List.cons.inj h).2).1 (by decide)
          | cons member' members' =>
              simp only [Json.isFinite, eachFinite, Bool.and_eq_true] at hfinite'
              rw [stringify_object_cons] at h
              obtain ⟨hkey, htail⟩ := stringifyText_unambiguous (List.cons.inj h).2
              obtain ⟨hvalue, htail⟩ := Json.stringify_unambiguous hnumbers value member'.2
                hfinite.1 hfinite'.1 (stops_closeElements rfl _ _) (stops_closeElements rfl _ _)
                (List.cons.inj htail).2
              obtain ⟨rfl, hrests⟩ := stringifyEach_unambiguous hnumbers members members'
                hfinite.2 hfinite'.2 htail
              rw [hkey, hvalue]
              exact ⟨rfl, hrests⟩
      | bool b => cases b <;> exact nomatch hkind
      | null | number _ | text _ | array _ => exact nomatch hkind

theorem stringifyAll_unambiguous (hnumbers : NumberTexts numberText) :
    ∀ (values others : List Json) {rest rest' : Text}, allFinite values = true →
      allFinite others = true →
      closeElements 93 (stringifyAll numberText values) ++ rest =
        closeElements 93 (stringifyAll numberText others) ++ rest' →
      values = others ∧ rest = rest'
  | [], [], _, _, _, _, h => ⟨rfl, (List.cons.inj h).2⟩
  | [], _ :: _, _, _, _, _, h => absurd (List.cons.inj h).1 (by decide)
  | _ :: _, [], _, _, _, _, h => absurd (List.cons.inj h).1 (by decide)
  | value :: values, other :: others, rest, rest', hfinite, hfinite', h => by
      simp only [allFinite, Bool.and_eq_true] at hfinite hfinite'
      simp only [stringifyAll, closeElements, List.cons_append, List.append_assoc] at h
      obtain ⟨rfl, htail⟩ := Json.stringify_unambiguous hnumbers value other hfinite.1 hfinite'.1
        (stops_closeElements rfl _ _) (stops_closeElements rfl _ _) (List.cons.inj h).2
      obtain ⟨rfl, hrests⟩ := stringifyAll_unambiguous hnumbers values others hfinite.2
        hfinite'.2 htail
      exact ⟨rfl, hrests⟩

theorem stringifyEach_unambiguous (hnumbers : NumberTexts numberText) :
    ∀ (members others : List (Text × Json)) {rest rest' : Text}, eachFinite members = true →
      eachFinite others = true →
      closeElements 125 ((stringifyEach numberText members).map writtenMember) ++ rest =
        closeElements 125 ((stringifyEach numberText others).map writtenMember) ++ rest' →
      members = others ∧ rest = rest'
  | [], [], _, _, _, _, h => ⟨rfl, (List.cons.inj h).2⟩
  | [], _ :: _, _, _, _, _, h => absurd (List.cons.inj h).1 (by decide)
  | _ :: _, [], _, _, _, _, h => absurd (List.cons.inj h).1 (by decide)
  | (key, value) :: members, (key', value') :: others, rest, rest', hfinite, hfinite', h => by
      simp only [eachFinite, Bool.and_eq_true] at hfinite hfinite'
      simp only [stringifyEach, List.map_cons, writtenMember, closeElements, List.cons_append,
        List.append_assoc] at h
      obtain ⟨rfl, hmember⟩ := stringifyText_unambiguous (List.cons.inj h).2
      obtain ⟨rfl, htail⟩ := Json.stringify_unambiguous hnumbers value value' hfinite.1 hfinite'.1
        (stops_closeElements rfl _ _) (stops_closeElements rfl _ _)
        (List.append_cancel_left hmember)
      obtain ⟨rfl, hrests⟩ := stringifyEach_unambiguous hnumbers members others hfinite.2
        hfinite'.2 htail
      exact ⟨rfl, hrests⟩

end

/-- Finite values that are written alike are the same. -/
theorem Json.stringify_injective (hnumbers : NumberTexts numberText) {other : Json}
    (hfinite : value.isFinite = true) (hfinite' : other.isFinite = true)
    (h : value.stringify numberText = other.stringify numberText) : value = other := by
  have hempty : Stops [] := by
    intro unit hunit
    exact nomatch hunit
  apply (Json.stringify_unambiguous hnumbers value other hfinite hfinite' hempty hempty _).1
  rw [h]

end

end Mordant.Script
