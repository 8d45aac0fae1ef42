/-
# Values of the scripting runtime

What `JSON.parse` returns: numbers, with the values no arithmetic has, and the
documents built from them.  An object is the list of its members in the order
`Object.keys` gives them.
-/

import Mathlib.Data.Rat.Init
import Mordant.Script.Text

namespace Mordant.Script

/-- A number. Both zeros are one value here. -/
inductive Number
  | finite (value : ℚ)
  | infinite (negative : Bool)
  | nan
  deriving DecidableEq

namespace Number

/-- `2^53 - 1`. -/
def maxSafeInteger : ℤ := 9007199254740991

def ofInt (n : ℤ) : Number := .finite n

def isInteger : Number → Bool
  | .finite value => value.den = 1
  | _ => false

def isSafeInteger : Number → Bool
  | .finite value => value.den = 1 && value.num.natAbs ≤ maxSafeInteger.natAbs
  | _ => false

/-- `===`. -/
def strictEq : Number → Number → Bool
  | .nan, _ => false
  | left, right => left = right

/-- `<=`. -/
def le : Number → Number → Bool
  | .finite left, .finite right => left ≤ right
  | .infinite true, right => right ≠ .nan
  | .infinite false, right => right = .infinite false
  | .finite _, right => right = .infinite false
  | .nan, _ => false

/-- `<`. -/
def lt (left right : Number) : Bool := left.le right && !right.le left

theorem ne_nan_of_isSafeInteger {n : Number} (h : n.isSafeInteger = true) : n ≠ .nan := by
  rintro rfl
  exact nomatch h

/-- A number that is one is strictly equal to itself and to nothing else. -/
theorem strictEq_iff {left right : Number} (h : left ≠ .nan) :
    left.strictEq right = true ↔ left = right := by
  cases left with
  | nan => exact absurd rfl h
  | finite value => simp only [strictEq, decide_eq_true_eq]
  | infinite negative => simp only [strictEq, decide_eq_true_eq]

end Number

/-- A document. -/
inductive Json
  | null
  | bool (value : Bool)
  | number (value : Number)
  | text (value : Text)
  | array (elements : List Json)
  | object (members : List (Text × Json))

namespace Json

def isObject : Json → Bool
  | .object _ => true
  | _ => false

def members : Json → List (Text × Json)
  | .object members => members
  | _ => []

/-- `value.name`, where there is such a member. -/
def get (value : Json) (name : String) : Option Json := value.members.lookup (lit name)

/-- `Object.keys(value)`, sorted, are these keys, sorted. -/
def hasExactKeys (value : Json) (expected : List String) : Bool :=
  (value.members.map Prod.fst).isPerm (expected.map lit)

/-- The value with one of its members replaced. -/
def set (value : Json) (name : String) (new : Json) : Json :=
  .object (value.members.map fun member =>
    if member.1 = lit name then (member.1, new) else member)

/-- The value without one of its members. -/
def without (value : Json) (name : String) : Json :=
  .object (value.members.filter fun member => member.1 ≠ lit name)

/-- `value[index]`, of an array or of a string. -/
def element (value : Json) (index : ℕ) : Option Json :=
  match value with
  | .array elements => elements[index]?
  | .text units => units[index]?.map fun unit => .text [unit]
  | _ => none

/-- A string, if it is one. -/
def asText : Json → Option Text
  | .text value => some value
  | _ => none

/-- A number, if it is one. -/
def asNumber : Json → Option Number
  | .number value => some value
  | _ => none

/-! ## Replacing a member -/

section

variable {value new found : Json} {name other : String} {expected : List String}

theorem isObject_iff : value.isObject = true ↔ ∃ members, value = .object members := by
  cases value <;> simp [isObject]

/-- A member that is read is there. -/
theorem mem_of_get (h : value.get name = some found) : (lit name, found) ∈ value.members := by
  rw [get, List.lookup_eq_some_iff] at h
  obtain ⟨before, after, hsplit, -⟩ := h
  rw [hsplit]
  exact List.mem_append_right _ List.mem_cons_self

/-- Where no key is repeated, a member that is there is read. -/
theorem get_of_mem (hnodup : (value.members.map Prod.fst).Nodup)
    (h : (lit name, found) ∈ value.members) : value.get name = some found := by
  obtain ⟨before, after, hsplit⟩ := List.append_of_mem h
  rw [get, List.lookup_eq_some_iff]
  refine ⟨before, after, hsplit, ?_⟩
  intro member hmember
  rw [hsplit, List.map_append, List.map_cons, List.nodup_append] at hnodup
  have hne := hnodup.2.2 _ (List.mem_map_of_mem hmember) _ List.mem_cons_self
  simpa using fun h => hne h.symm

theorem keys_set : (value.set name new).members.map Prod.fst = value.members.map Prod.fst := by
  rw [set, members, List.map_map]
  apply List.map_congr_left
  intro member _
  by_cases h : member.1 = lit name
  · simp [h]
  · simp [h]

theorem hasExactKeys_set :
    (value.set name new).hasExactKeys expected = value.hasExactKeys expected := by
  rw [hasExactKeys, keys_set, hasExactKeys]

theorem get_set_of_ne (h : lit other ≠ lit name) :
    (value.set name new).get other = value.get other := by
  show (value.members.map _).lookup (lit other) = value.members.lookup (lit other)
  induction value.members with
  | nil => rfl
  | cons member rest ih =>
      obtain ⟨key, old⟩ := member
      by_cases hname : key = lit name
      · subst hname
        rw [List.map_cons, if_pos rfl, List.lookup_cons, List.lookup_cons, ih,
          beq_false_of_ne h]
      · rw [List.map_cons, if_neg hname, List.lookup_cons, List.lookup_cons, ih]

theorem get_set_self (h : value.get name = some found) :
    (value.set name new).get name = some new := by
  show (value.members.map _).lookup (lit name) = some new
  change value.members.lookup (lit name) = some found at h
  induction hmembers : value.members generalizing value with
  | nil =>
      rw [hmembers] at h
      exact nomatch h
  | cons member rest ih =>
      obtain ⟨key, old⟩ := member
      rw [List.map_cons]
      by_cases hname : key = lit name
      · subst hname
        rw [if_pos rfl, List.lookup_cons_self]
      · rw [hmembers, List.lookup_cons, beq_false_of_ne fun h => hname h.symm] at h
        rw [if_neg hname, List.lookup_cons, beq_false_of_ne fun h => hname h.symm]
        exact @ih (.object rest) h rfl

/-- A member that is dropped may have been replaced before. -/
theorem without_set_self : (value.set name new).without name = value.without name := by
  show object ((value.members.map _).filter _) = object (value.members.filter _)
  congr 1
  induction value.members with
  | nil => rfl
  | cons member rest ih =>
      rw [List.map_cons]
      by_cases h : member.1 = lit name
      · rw [if_pos h, List.filter_cons_of_neg (by simp [h]), List.filter_cons_of_neg (by simp [h]),
          ih]
      · rw [if_neg h, List.filter_cons_of_pos (by simp [h]), List.filter_cons_of_pos (by simp [h]),
          ih]

/-- Replacing one member and dropping another commute. -/
theorem without_set :
    (value.set name new).without other = (value.without other).set name new := by
  show object ((value.members.map _).filter _) = object ((value.members.filter _).map _)
  congr 1
  rw [List.filter_map]
  congr 1
  apply List.filter_congr
  intro member _
  by_cases hname : member.1 = lit name
  · simp [hname]
  · simp [hname]

theorem get_without (h : lit name ≠ lit other) :
    (value.without other).get name = value.get name := by
  show (value.members.filter _).lookup (lit name) = value.members.lookup (lit name)
  induction value.members with
  | nil => rfl
  | cons member rest ih =>
      obtain ⟨key, old⟩ := member
      by_cases hkey : key = lit other
      · subst hkey
        rw [List.filter_cons_of_neg (by simp), ih, List.lookup_cons, beq_false_of_ne h]
      · rw [List.filter_cons_of_pos (by simp [hkey]), List.lookup_cons, List.lookup_cons, ih]

theorem nodup_without (h : (value.members.map Prod.fst).Nodup) :
    ((value.without name).members.map Prod.fst).Nodup :=
  h.sublist (List.filter_sublist.map Prod.fst)

/-- Expected keys that are not repeated are not repeated there. -/
theorem nodup_of_hasExactKeys (h : value.hasExactKeys expected = true)
    (hnodup : (expected.map lit).Nodup) : (value.members.map Prod.fst).Nodup :=
  (List.isPerm_iff.mp h).nodup_iff.mpr hnodup

/-- A key that is expected is there. -/
theorem get_of_hasExactKeys (h : value.hasExactKeys expected = true) (hname : name ∈ expected) :
    ∃ found, value.get name = some found := by
  have hmem : lit name ∈ value.members.map Prod.fst :=
    (List.isPerm_iff.mp h).mem_iff.mpr (List.mem_map_of_mem hname)
  rw [← Option.isSome_iff_exists, get, List.lookup_isSome_iff]
  obtain ⟨member, hmember, heq⟩ := List.mem_map.mp hmem
  exact ⟨member, hmember, by rw [heq, beq_self_eq_true]⟩

end

end Json

end Mordant.Script
