/-
# One text for one value

Objects that differ in the order of their keys are the same value, and the canonical text is
written in one order.  So two values have one text exactly when they are the same, and reading
the text gives the value back.  No control character is written as itself, which lets a domain
stand in front of a text behind a zero.
-/

import Mathlib.Data.List.Perm.Basic
import Mordant.Script.Canonical
import Mordant.Script.Decimal

namespace Mordant.Script

open Foundation

/-! ## Plain values -/

mutual

/-- No object has a key twice. -/
def Json.distinctKeys : Json → Bool
  | .array elements => allDistinctKeys elements
  | .object members => decide (members.map Prod.fst).Nodup && eachDistinctKeys members
  | _ => true

def allDistinctKeys : List Json → Bool
  | [] => true
  | value :: rest => value.distinctKeys && allDistinctKeys rest

def eachDistinctKeys : List (Text × Json) → Bool
  | [] => true
  | (_, value) :: rest => value.distinctKeys && eachDistinctKeys rest

end

/-- A value of finite numbers, strings, dense arrays and plain objects. -/
structure PlainValue where
  json : Json
  finite : json.isFinite = true
  distinct : json.distinctKeys = true

mutual

/-- One value, whatever the order of keys. -/
inductive Json.Same : Json → Json → Prop
  | null : Json.Same .null .null
  | bool (value : Bool) : Json.Same (.bool value) (.bool value)
  | number (value : Number) : Json.Same (.number value) (.number value)
  | text (value : Text) : Json.Same (.text value) (.text value)
  | array {elements others : List Json} (same : SameElements elements others) :
      Json.Same (.array elements) (.array others)
  | object {members reordered others : List (Text × Json)} (order : members.Perm reordered)
      (same : SameMembers reordered others) : Json.Same (.object members) (.object others)

inductive SameElements : List Json → List Json → Prop
  | nil : SameElements [] []
  | cons {value other : Json} {elements others : List Json} (first : Json.Same value other)
      (rest : SameElements elements others) :
      SameElements (value :: elements) (other :: others)

inductive SameMembers : List (Text × Json) → List (Text × Json) → Prop
  | nil : SameMembers [] []
  | cons (key : Text) {value other : Json} {members others : List (Text × Json)}
      (first : Json.Same value other) (rest : SameMembers members others) :
      SameMembers ((key, value) :: members) ((key, other) :: others)

end

/-! ## The order of keys -/

section

variable {α β : Type} {members others : List (Text × α)}

/-- Members with different keys are sorted in one way. -/
theorem sortMembers_eq_of_perm (h : members.Perm others) (hnodup : (members.map Prod.fst).Nodup) :
    sortMembers members = sortMembers others := by
  have hsame : (sortMembers members).Perm (sortMembers others) :=
    (sortMembers_perm members).trans (h.trans (sortMembers_perm others).symm)
  apply hsame.eq_of_pairwise _ (sortMembers_sorted members) (sortMembers_sorted others)
  intro member other hmember hother hle hge
  have hmember := (sortMembers_perm members).mem_iff.mp hmember
  have hother := h.mem_iff.mpr ((sortMembers_perm others).mem_iff.mp hother)
  have hkeys : member.1 = other.1 := Std.Antisymm.antisymm (r := (· ≤ ·)) _ _ hle hge
  exact List.inj_on_of_nodup_map hnodup hmember hother hkeys

/-- Sorting looks at keys only. -/
theorem sortMembers_map (write : α → β) (members : List (Text × α)) :
    sortMembers (members.map fun member => (member.1, write member.2)) =
      (sortMembers members).map fun member => (member.1, write member.2) :=
  (List.map_insertionSort (fun left right : Text × α => left.1 ≤ right.1)
    (fun left right : Text × β => left.1 ≤ right.1)
    (fun member => (member.1, write member.2)) members fun _ _ _ _ => Iff.rfl).symm

end

mutual

/-- The value with all its keys in order. -/
def Json.sorted : Json → Json
  | .array elements => .array (sortedAll elements)
  | .object members => .object (sortMembers (sortedEach members))
  | value => value

def sortedAll : List Json → List Json
  | [] => []
  | value :: rest => value.sorted :: sortedAll rest

def sortedEach : List (Text × Json) → List (Text × Json)
  | [] => []
  | (key, value) :: rest => (key, value.sorted) :: sortedEach rest

end

section

variable {numberText : ℚ → Text} {member : Text × Json} {members : List (Text × Json)}

theorem sortedEach_eq (members : List (Text × Json)) :
    sortedEach members = members.map fun member => (member.1, member.2.sorted) := by
  induction members with
  | nil => rfl
  | cons member rest ih => rw [sortedEach, ih, List.map_cons]

theorem stringifyEach_eq (members : List (Text × Json)) :
    stringifyEach numberText members =
      members.map fun member => (member.1, member.2.stringify numberText) := by
  induction members with
  | nil => rfl
  | cons member rest ih => rw [stringifyEach, ih, List.map_cons]

theorem keys_sortedEach (members : List (Text × Json)) :
    (sortedEach members).map Prod.fst = members.map Prod.fst := by
  rw [sortedEach_eq, List.map_map]
  rfl

theorem eachDistinctKeys_iff :
    eachDistinctKeys members = true ↔ ∀ member ∈ members, member.2.distinctKeys = true := by
  induction members with
  | nil => simp [eachDistinctKeys]
  | cons member rest ih =>
      rw [eachDistinctKeys, Bool.and_eq_true, ih, List.forall_mem_cons]

theorem distinctKeys_object (h : (Json.object members).distinctKeys = true) :
    (members.map Prod.fst).Nodup ∧ ∀ member ∈ members, member.2.distinctKeys = true := by
  rw [Json.distinctKeys, Bool.and_eq_true, decide_eq_true_eq, eachDistinctKeys_iff] at h
  exact h

end

/-! ## Same values have one order -/

mutual

/-- The same value is the same once its keys are in order. -/
theorem Json.Same.sorted_eq : ∀ {value other : Json}, value.Same other →
    value.distinctKeys = true → value.sorted = other.sorted
  | _, _, .null, _ | _, _, .bool _, _ | _, _, .number _, _ | _, _, .text _, _ => rfl
  | _, _, .array same, hdistinct => congrArg Json.array (same.sorted_eq hdistinct)
  | _, _, @Json.Same.object members reordered _ order same, hdistinct => by
      obtain ⟨hnodup, hvalues⟩ := distinctKeys_object hdistinct
      have hreordered := eachDistinctKeys_iff.mpr fun member hmember =>
        hvalues member (order.mem_iff.mpr hmember)
      have hperm : (sortedEach members).Perm (sortedEach reordered) := by
        rw [sortedEach_eq, sortedEach_eq]
        exact order.map _
      show Json.object (sortMembers (sortedEach members)) = Json.object _
      rw [sortMembers_eq_of_perm hperm (by rw [keys_sortedEach]; exact hnodup),
        same.sorted_eq hreordered]

theorem SameElements.sorted_eq : ∀ {elements others : List Json}, SameElements elements others →
    allDistinctKeys elements = true → sortedAll elements = sortedAll others
  | _, _, .nil, _ => rfl
  | _, _, .cons first rest, hdistinct => by
      rw [allDistinctKeys, Bool.and_eq_true] at hdistinct
      rw [sortedAll, sortedAll, first.sorted_eq hdistinct.1, rest.sorted_eq hdistinct.2]

theorem SameMembers.sorted_eq : ∀ {members others : List (Text × Json)},
    SameMembers members others → eachDistinctKeys members = true →
      sortedEach members = sortedEach others
  | _, _, .nil, _ => rfl
  | _, _, .cons key first rest, hdistinct => by
      rw [eachDistinctKeys, Bool.and_eq_true] at hdistinct
      rw [sortedEach, sortedEach, first.sorted_eq hdistinct.1, rest.sorted_eq hdistinct.2]

end

/-- Members that agree one by one are the same. -/
theorem sameMembers_of_forall₂ {members others : List (Text × Json)}
    (h : List.Forall₂ (fun member other : Text × Json =>
      member.1 = other.1 ∧ member.2.Same other.2) members others) : SameMembers members others := by
  induction h with
  | nil => exact .nil
  | @cons member other members others hfirst _ ih =>
      obtain ⟨key, value⟩ := member
      obtain ⟨key', value'⟩ := other
      obtain ⟨rfl, hvalue⟩ := hfirst
      exact .cons key hvalue ih

/-- Members that are the same once they are sorted are the same in some order. -/
theorem exists_order {members others : List (Text × Json)}
    (h : sortMembers (sortedEach members) = sortMembers (sortedEach others)) :
    ∃ reordered, members.Perm reordered ∧ List.Forall₂ (fun member other : Text × Json =>
      member.1 = other.1 ∧ member.2.sorted = other.2.sorted) reordered others := by
  have hperm : (sortedEach members).Perm (sortedEach others) :=
    (sortMembers_perm _).symm.trans (by rw [h]; exact sortMembers_perm _)
  have hforall : List.Forall₂ (fun (member : Text × Json) other =>
      (member.1, member.2.sorted) = other) members (sortedEach members) := by
    rw [sortedEach_eq]
    exact List.forall₂_map_right_iff.mpr (List.forall₂_same.mpr fun _ _ => rfl)
  have hcomp : Relation.Comp (List.Forall₂ fun (member : Text × Json) other =>
      (member.1, member.2.sorted) = other) List.Perm members (sortedEach others) :=
    ⟨_, hforall, hperm⟩
  rw [List.forall₂_comp_perm_eq_perm_comp_forall₂] at hcomp
  obtain ⟨reordered, hreordered, hsame⟩ := hcomp
  refine ⟨reordered, hreordered, ?_⟩
  rw [sortedEach_eq, List.forall₂_map_right_iff] at hsame
  exact hsame.imp fun member other heq => Prod.mk.inj heq

mutual

/-- Values that are the same once their keys are in order are the same. -/
theorem Json.same_of_sorted : ∀ (value other : Json), value.sorted = other.sorted →
    value.Same other
  | .null, .null, _ => .null
  | .bool _, .bool _, h => by
      obtain rfl := Json.bool.inj h
      exact .bool _
  | .number _, .number _, h => by
      obtain rfl := Json.number.inj h
      exact .number _
  | .text _, .text _, h => by
      obtain rfl := Json.text.inj h
      exact .text _
  | .array elements, .array others, h =>
      .array (sameElements_of_sorted elements others (Json.array.inj h))
  | .object members, .object others, h => by
      obtain ⟨reordered, order, hsame⟩ := exists_order (Json.object.inj h)
      refine .object order (sameMembers_of_forall₂ ?_)
      have hmembers : ∀ member ∈ reordered, ∀ other : Json,
          member.2.sorted = other.sorted → member.2.Same other := fun member hmember =>
        same_of_sorted_each members member (order.mem_iff.mpr hmember)
      exact List.Forall₂.imp (fun _ _ => id) ((List.forall₂_and_left ..).mpr
        ⟨hmembers, hsame⟩ |>.imp fun member other h => ⟨h.2.1, h.1 other.2 h.2.2⟩)

theorem sameElements_of_sorted : ∀ (elements others : List Json),
    sortedAll elements = sortedAll others → SameElements elements others
  | [], [], _ => .nil
  | value :: elements, other :: others, h =>
      .cons (Json.same_of_sorted value other (List.cons.inj h).1)
        (sameElements_of_sorted elements others (List.cons.inj h).2)

theorem same_of_sorted_each : ∀ (members : List (Text × Json)), ∀ member ∈ members,
    ∀ other : Json, member.2.sorted = other.sorted → member.2.Same other
  | (key, value) :: rest, member, hmember, other, h => by
      rcases List.mem_cons.mp hmember with rfl | hmember
      · exact Json.same_of_sorted value other h
      · exact same_of_sorted_each rest member hmember other h

end

mutual

/-- A value is the same with its keys in order. -/
theorem Json.sorted_same : ∀ value : Json, value.sorted.Same value
  | .null => .null
  | .bool _ => .bool _
  | .number _ => .number _
  | .text _ => .text _
  | .array elements => .array (sortedAll_same elements)
  | .object members => .object (sortMembers_perm _) (sortedEach_same members)

theorem sortedAll_same : ∀ elements : List Json, SameElements (sortedAll elements) elements
  | [] => .nil
  | value :: rest => .cons value.sorted_same (sortedAll_same rest)

theorem sortedEach_same : ∀ members : List (Text × Json), SameMembers (sortedEach members) members
  | [] => .nil
  | (key, value) :: rest => .cons key value.sorted_same (sortedEach_same rest)

end

mutual

theorem Json.isFinite_sorted : ∀ value : Json, value.isFinite = true →
    value.sorted.isFinite = true
  | .null, h | .bool _, h | .number _, h | .text _, h => h
  | .array elements, h => allFinite_sorted elements h
  | .object members, h => by
      show eachFinite (sortMembers (sortedEach members)) = true
      rw [eachFinite_iff]
      intro member hmember
      exact eachFinite_iff.mp (eachFinite_sorted members h) member
        ((sortMembers_perm _).mem_iff.mp hmember)

theorem allFinite_sorted : ∀ elements : List Json, allFinite elements = true →
    allFinite (sortedAll elements) = true
  | [], h => h
  | value :: rest, h => by
      rw [allFinite, Bool.and_eq_true] at h
      rw [sortedAll, allFinite, value.isFinite_sorted h.1, allFinite_sorted rest h.2]
      rfl

theorem eachFinite_sorted : ∀ members : List (Text × Json), eachFinite members = true →
    eachFinite (sortedEach members) = true
  | [], h => h
  | (key, value) :: rest, h => by
      rw [eachFinite, Bool.and_eq_true] at h
      rw [sortedEach, eachFinite, value.isFinite_sorted h.1, eachFinite_sorted rest h.2]
      rfl

end

mutual

theorem Json.distinctKeys_sorted : ∀ value : Json, value.distinctKeys = true →
    value.sorted.distinctKeys = true
  | .null, h | .bool _, h | .number _, h | .text _, h => h
  | .array elements, h => allDistinctKeys_sorted elements h
  | .object members, h => by
      obtain ⟨hnodup, -⟩ := distinctKeys_object h
      rw [Json.distinctKeys, Bool.and_eq_true] at h
      have hperm := sortMembers_perm (sortedEach members)
      have hkeys : ((sortMembers (sortedEach members)).map Prod.fst).Nodup := by
        rw [(hperm.map Prod.fst).nodup_iff, keys_sortedEach]
        exact hnodup
      show (decide _ && eachDistinctKeys (sortMembers (sortedEach members))) = true
      rw [decide_eq_true hkeys, Bool.true_and, eachDistinctKeys_iff]
      intro member hmember
      exact eachDistinctKeys_iff.mp (eachDistinctKeys_sorted members h.2) member
        (hperm.mem_iff.mp hmember)

theorem allDistinctKeys_sorted : ∀ elements : List Json, allDistinctKeys elements = true →
    allDistinctKeys (sortedAll elements) = true
  | [], h => h
  | value :: rest, h => by
      rw [allDistinctKeys, Bool.and_eq_true] at h
      rw [sortedAll, allDistinctKeys, value.distinctKeys_sorted h.1,
        allDistinctKeys_sorted rest h.2]
      rfl

theorem eachDistinctKeys_sorted : ∀ members : List (Text × Json),
    eachDistinctKeys members = true → eachDistinctKeys (sortedEach members) = true
  | [], h => h
  | (key, value) :: rest, h => by
      rw [eachDistinctKeys, Bool.and_eq_true] at h
      rw [sortedEach, eachDistinctKeys, value.distinctKeys_sorted h.1,
        eachDistinctKeys_sorted rest h.2]
      rfl

end

/-! ## The canonical text -/

section

variable {numberText : ℚ → Text}

theorem collect_map_ok {ε α : Type} (values : List α) :
    collect (values.map (Except.ok (ε := ε))) = .ok values := collect_ok_iff.mpr rfl

mutual

/-- The canonical text is what the runtime writes once the keys are in order. -/
theorem canonicalizeStrict_eq : ∀ (value : Json) (path : Text), value.isFinite = true →
    canonicalizeStrict numberText path value = .ok (value.sorted.stringify numberText)
  | .null, _, _ | .bool _, _, _ | .text _, _, _ | .number (.finite _), _, _ => rfl
  | .number (.infinite _), _, h | .number .nan, _, h => nomatch h
  | .array elements, path, h => by
      show (collect (canonicalizeElements numberText path 0 elements)).map _ = _
      rw [canonicalizeElements_eq elements path 0 h, collect_map_ok]
      rfl
  | .object members, path, h => by
      have hwrite : ∀ member : Text × Text,
          writeMember (member.1, .ok member.2) = .ok (writtenMember member) := fun _ => rfl
      show (collect ((sortMembers (canonicalizeMembers numberText path members)).map
        writeMember)).map _ = _
      rw [canonicalizeMembers_ok members path h, sortMembers_map, List.map_map]
      have hcollect : collect ((sortMembers (stringifyEach numberText (sortedEach members))).map
          (writeMember ∘ fun member => (member.1, .ok member.2))) =
            .ok ((sortMembers (stringifyEach numberText (sortedEach members))).map
              writtenMember) := by
        rw [← collect_map_ok (ε := StrictJsonError), List.map_map]
        rfl
      have hsorted : sortMembers (stringifyEach numberText (sortedEach members)) =
          stringifyEach numberText (sortMembers (sortedEach members)) := by
        rw [stringifyEach_eq, stringifyEach_eq, sortMembers_map]
      rw [hcollect, hsorted]
      rfl

theorem canonicalizeElements_eq : ∀ (elements : List Json) (path : Text) (index : ℕ),
    allFinite elements = true →
      canonicalizeElements numberText path index elements =
        (stringifyAll numberText (sortedAll elements)).map .ok
  | [], _, _, _ => rfl
  | value :: rest, path, index, h => by
      rw [allFinite, Bool.and_eq_true] at h
      rw [canonicalizeElements, canonicalizeStrict_eq value _ h.1,
        canonicalizeElements_eq rest path (index + 1) h.2]
      rfl

theorem canonicalizeMembers_ok : ∀ (members : List (Text × Json)) (path : Text),
    eachFinite members = true →
      canonicalizeMembers numberText path members =
        (stringifyEach numberText (sortedEach members)).map fun member =>
          (member.1, .ok member.2)
  | [], _, _ => rfl
  | (key, value) :: rest, path, h => by
      rw [eachFinite, Bool.and_eq_true] at h
      rw [canonicalizeMembers, canonicalizeStrict_eq value _ h.1,
        canonicalizeMembers_ok rest path h.2]
      rfl

end

/-- A plain value is written. -/
theorem canonicalJson_eq (value : PlainValue) :
    canonicalJson numberText value.json = .ok (value.json.sorted.stringify numberText) :=
  canonicalizeStrict_eq value.json _ value.finite

end

/-! ## Reading it back -/

section

variable {unit : UInt16} {text rest : Text}

theorem readString_plain (hquote : unit ≠ 34) (hescape : unit ≠ 92) (hcontrol : ¬ unit < 32) :
    readString (unit :: rest) = (readString rest).map (Prod.map (unit :: ·) id) := by
  rw [readString.eq_5]
  · exact if_neg hcontrol
  · intro h
    exact hquote h
  · intro a b c d rest' h
    exact absurd h hescape
  · intro letter rest' h
    exact absurd h hescape

theorem escapedUnit_hexDigit :
    escapedUnit (hexDigit (unit.toNat / 4096)) (hexDigit (unit.toNat / 256 % 16))
      (hexDigit (unit.toNat / 16 % 16)) (hexDigit (unit.toNat % 16)) = some unit := by
  have hsize := unit.toNat_lt
  have hdigit : ∀ value < 16, digitOf 16 (hexDigit value) = some value := by decide
  have hvalue : (((0 * 16 + unit.toNat / 4096) * 16 + unit.toNat / 256 % 16) * 16 +
      unit.toNat / 16 % 16) * 16 + unit.toNat % 16 = unit.toNat := by omega
  rw [escapedUnit, naturalOf, if_neg (List.cons_ne_nil _ _)]
  simp only [List.foldlM_cons, List.foldlM_nil, hdigit _ (show unit.toNat / 4096 < 16 by omega),
    hdigit _ (Nat.mod_lt _ (by decide : 0 < 16)), Option.map_some, Option.bind_eq_bind,
    Option.bind_some, Option.pure_def, hvalue, UInt16.ofNat_toNat]

theorem readString_escaped {a b c d : UInt16} (h : escapedUnit a b c d = some unit) :
    readString (92 :: 117 :: a :: b :: c :: d :: rest) =
      (readString rest).map (Prod.map (unit :: ·) id) := by
  rw [readString.eq_3, h]

/-- A unit is read back as itself. -/
theorem readString_quoteUnit :
    readString (quoteUnit unit ++ rest) = (readString rest).map (Prod.map (unit :: ·) id) := by
  rw [quoteUnit]
  iterate 7
    split
    · next h =>
        subst h
        rfl
  split
  · exact readString_escaped escapedUnit_hexDigit
  · next hquote hescape _ _ _ _ _ hplain =>
      exact readString_plain hquote hescape fun hcontrol => hplain (.inl hcontrol)

/-- **What is quoted is read back**, whatever comes after. -/
theorem spelledString_quoteUnits (text : Text) : SpelledString (quoteUnits text) text := by
  intro rest
  induction text using quoteUnits.induct with
  | case1 => rfl
  | case2 unit =>
      rw [quoteUnits, readString_quoteUnit, readString]
      rfl
  | case3 high low text hpair ih =>
      have hsurrogates := hpair
      rw [Bool.and_eq_true] at hsurrogates
      obtain ⟨hhighQuote, hhighEscape⟩ := ne_of_isSurrogate (.inl hsurrogates.1)
      obtain ⟨hlowQuote, hlowEscape⟩ := ne_of_isSurrogate (.inr hsurrogates.2)
      have hcontrol : ¬ high < 32 ∧ ¬ low < 32 := by
        simp only [isHighSurrogate, isLowSurrogate, Bool.and_eq_true, decide_eq_true_eq,
          UInt16.le_iff_toNat_le, UInt16.lt_iff_toNat_lt, UInt16.reduceToNat] at hsurrogates ⊢
        omega
      rw [quoteUnits, if_pos hpair, List.cons_append, List.cons_append,
        readString_plain hhighQuote hhighEscape hcontrol.1,
        readString_plain hlowQuote hlowEscape hcontrol.2, ih]
      rfl
  | case4 high low text hpair ih =>
      rw [quoteUnits, if_neg hpair, List.append_assoc, readString_quoteUnit, ih]
      rfl

end

section

variable {numbers : NumberFormat}

theorem isLiteralUnit_of_units {text : Text} (h : text.all isNumberUnit = true) :
    text.all isLiteralUnit = true :=
  List.all_eq_true.mpr fun unit hunit =>
    Bool.or_eq_true_iff.mpr (.inl (List.all_eq_true.mp h unit hunit))

mutual

/-- What the runtime writes spells the value. -/
theorem Json.spelled : ∀ value : Json, value.isFinite = true → value.distinctKeys = true →
    Spelled numbers.read (value.stringify numbers.write) value
  | .null, _, _ => .null
  | .bool value, _, _ => .bool value
  | .number (.finite value), _, _ => by
      have hspelled : Spelled numbers.read _ _ :=
        .number (isLiteralUnit_of_units (numbers.units value)) (numbers.literal value)
      rw [numbers.read_write] at hspelled
      exact hspelled
  | .number (.infinite _), h, _ | .number .nan, h, _ => nomatch h
  | .text text, _, _ => .text (spelledString_quoteUnits text)
  | .array elements, hfinite, hdistinct => .array (allSpelled elements hfinite hdistinct)
  | .object members, hfinite, hdistinct => by
      obtain ⟨hnodup, -⟩ := distinctKeys_object hdistinct
      rw [Json.distinctKeys, Bool.and_eq_true] at hdistinct
      have hspelled := Spelled.object (eachSpelled members hfinite hdistinct.2) hnodup
      rw [spellMembers, List.map_map] at hspelled
      rw [Json.stringify, stringifyMembers, stringifyEach_eq, List.map_map]
      exact hspelled

theorem allSpelled : ∀ elements : List Json, allFinite elements = true →
    allDistinctKeys elements = true →
      SpelledAll numbers.read (stringifyAll numbers.write elements) elements
  | [], _, _ => .nil
  | value :: rest, hfinite, hdistinct => by
      rw [allFinite, Bool.and_eq_true] at hfinite
      rw [allDistinctKeys, Bool.and_eq_true] at hdistinct
      exact .cons (value.spelled hfinite.1 hdistinct.1) (allSpelled rest hfinite.2 hdistinct.2)

theorem eachSpelled : ∀ members : List (Text × Json), eachFinite members = true →
    eachDistinctKeys members = true →
      SpelledEach numbers.read (members.map fun member =>
        (quoteUnits member.1, member.2.stringify numbers.write)) members
  | [], _, _ => .nil
  | (key, value) :: rest, hfinite, hdistinct => by
      rw [eachFinite, Bool.and_eq_true] at hfinite
      rw [eachDistinctKeys, Bool.and_eq_true] at hdistinct
      exact .cons (spelledString_quoteUnits key) (value.spelled hfinite.1 hdistinct.1)
        (eachSpelled rest hfinite.2 hdistinct.2)

end

end

/-! ## What is written is printable -/

/-- The text of characters none of which is a control. -/
def Printable (text : Text) : Prop :=
  ∃ chars : List Char, (∀ c ∈ chars, 32 ≤ c.toNat) ∧ units chars = text

section

variable {text other : Text} {unit : UInt16}

theorem Printable.append (h : Printable text) (hother : Printable other) :
    Printable (text ++ other) := by
  obtain ⟨chars, hchars, rfl⟩ := h
  obtain ⟨others, hothers, rfl⟩ := hother
  exact ⟨chars ++ others, List.forall_mem_append.mpr ⟨hchars, hothers⟩, units_append⟩

theorem printable_nil : Printable [] := ⟨[], (fun _ h => nomatch h), rfl⟩

/-- Every code point but the halves of pairs is a character. -/
theorem exists_char {code : ℕ} (h : code.isValidChar) : ∃ c : Char, c.toNat = code :=
  ⟨Char.ofNatAux code h, rfl⟩

/-- A unit that is no control and no half of a pair. -/
theorem printable_unit (hcontrol : 32 ≤ unit) (hhigh : isHighSurrogate unit = false)
    (hlow : isLowSurrogate unit = false) : Printable [unit] := by
  have hsize := unit.toNat_lt
  simp only [isHighSurrogate, isLowSurrogate, UInt16.le_iff_toNat_le, UInt16.reduceToNat,
    Bool.and_eq_false_iff, decide_eq_false_iff_not] at hhigh hlow hcontrol
  obtain ⟨c, hc⟩ : ∃ c : Char, c.toNat = unit.toNat :=
    exists_char (show _ ∨ _ by omega)
  refine ⟨[c], List.forall_mem_singleton.mpr (by omega), ?_⟩
  rw [units, List.flatMap_singleton, charUnits, if_pos (by omega), hc, UInt16.ofNat_toNat]

theorem printable_ascii (h : text.all (fun unit => 32 ≤ unit && unit < 128) = true) :
    Printable text := by
  induction text with
  | nil => exact printable_nil
  | cons unit rest ih =>
      rw [List.all_cons, Bool.and_eq_true, Bool.and_eq_true, decide_eq_true_eq,
        decide_eq_true_eq] at h
      obtain ⟨hhigh, hlow⟩ := not_surrogate_of_ascii h.1.2
      exact (printable_unit h.1.1 hhigh hlow).append (ih h.2)

theorem isNumberUnit_ascii (h : isNumberUnit unit = true) : 32 ≤ unit ∧ unit < 128 := by
  simp only [isNumberUnit, Bool.or_eq_true, Bool.and_eq_true, decide_eq_true_eq] at h
  rcases h with (((hdigit | rfl) | rfl) | rfl) | rfl
  · simp only [UInt16.le_iff_toNat_le, UInt16.lt_iff_toNat_lt, UInt16.reduceToNat] at hdigit ⊢
    omega
  · decide
  · decide
  · decide
  · decide

theorem printable_number (h : text.all isNumberUnit = true) : Printable text := by
  apply printable_ascii
  rw [List.all_eq_true] at h ⊢
  intro unit hunit
  obtain ⟨hcontrol, hascii⟩ := isNumberUnit_ascii (h unit hunit)
  rw [decide_eq_true hcontrol, decide_eq_true hascii]
  rfl

theorem printable_unicodeEscape (unit : UInt16) : Printable (unicodeEscape unit) := by
  have hdigit : ∀ value < 16, 32 ≤ hexDigit value ∧ hexDigit value < 128 := by decide
  have hsize := unit.toNat_lt
  apply printable_ascii
  rw [List.all_eq_true]
  intro digit hdigits
  have hbounds : 32 ≤ digit ∧ digit < 128 := by
    rcases List.mem_append.mp hdigits with hhead | hdigits
    · have hall : ∀ digit ∈ lit "\\u", 32 ≤ digit ∧ digit < 128 := forall_of_all (by decide)
      exact hall digit hhead
    · simp only [List.mem_cons, List.not_mem_nil, or_false] at hdigits
      rcases hdigits with rfl | rfl | rfl | rfl
      · exact hdigit _ (by omega)
      · exact hdigit _ (Nat.mod_lt _ (by decide))
      · exact hdigit _ (Nat.mod_lt _ (by decide))
      · exact hdigit _ (Nat.mod_lt _ (by decide))
  rw [decide_eq_true hbounds.1, decide_eq_true hbounds.2]
  rfl

theorem printable_quoteUnit (unit : UInt16) : Printable (quoteUnit unit) := by
  rw [quoteUnit]
  iterate 7
    split
    · exact printable_ascii (by decide)
  split
  · exact printable_unicodeEscape unit
  · next hplain =>
      simp only [not_or, Bool.not_eq_true, UInt16.not_lt] at hplain
      exact printable_unit hplain.1 hplain.2.1 hplain.2.2

/-- A pair is a character. -/
theorem printable_pair {high low : UInt16} (hhigh : isHighSurrogate high = true)
    (hlow : isLowSurrogate low = true) : Printable [high, low] := by
  simp only [isHighSurrogate, isLowSurrogate, Bool.and_eq_true, decide_eq_true_eq,
    UInt16.le_iff_toNat_le, UInt16.reduceToNat] at hhigh hlow
  obtain ⟨c, hc⟩ : ∃ c : Char,
      c.toNat = 0x10000 + (high.toNat - 0xD800) * 0x400 + (low.toNat - 0xDC00) :=
    exists_char (show _ ∨ _ by omega)
  have hfirst : 0xD800 + (c.toNat - 0x10000) / 0x400 = high.toNat := by omega
  have hsecond : 0xDC00 + (c.toNat - 0x10000) % 0x400 = low.toNat := by omega
  refine ⟨[c], List.forall_mem_singleton.mpr (by omega), ?_⟩
  rw [units, List.flatMap_singleton, charUnits, if_neg (by omega), hfirst, hsecond,
    UInt16.ofNat_toNat, UInt16.ofNat_toNat]

theorem printable_quoteUnits (text : Text) : Printable (quoteUnits text) := by
  induction text using quoteUnits.induct with
  | case1 => exact printable_nil
  | case2 unit => exact printable_quoteUnit unit
  | case3 high low rest hpair ih =>
      rw [quoteUnits, if_pos hpair]
      rw [Bool.and_eq_true] at hpair
      exact (printable_pair hpair.1 hpair.2).append ih
  | case4 high low rest hpair ih =>
      rw [quoteUnits, if_neg hpair]
      exact (printable_quoteUnit high).append ih

theorem printable_stringifyText (text : Text) : Printable (stringifyText text) :=
  ((printable_ascii (by decide)).append (printable_quoteUnits text)).append
    (printable_ascii (by decide))

theorem printable_intercalate {parts : List Text} (h : ∀ part ∈ parts, Printable part) :
    Printable (List.intercalate (lit ",") parts) := by
  induction parts with
  | nil => exact printable_nil
  | cons part parts ih =>
      obtain ⟨hpart, hparts⟩ := List.forall_mem_cons.mp h
      cases parts with
      | nil =>
          rw [List.intercalate_singleton]
          exact hpart
      | cons next parts =>
          rw [List.intercalate_cons_cons]
          exact (hpart.append (printable_ascii (by decide))).append (ih hparts)

mutual

/-- Whatever the runtime writes is printable. -/
theorem Json.printable {numbers : NumberFormat} : ∀ value : Json,
    Printable (value.stringify numbers.write)
  | .null | .number (.infinite _) | .number .nan =>
      show Printable (lit "null") from printable_ascii (by decide)
  | .bool true => show Printable (lit "true") from printable_ascii (by decide)
  | .bool false => show Printable (lit "false") from printable_ascii (by decide)
  | .number (.finite value) => printable_number (numbers.units value)
  | .text text => printable_stringifyText text
  | .array elements =>
      ((printable_ascii (by decide)).append (printable_intercalate (allPrintable elements))).append
        (printable_ascii (by decide))
  | .object members =>
      ((printable_ascii (by decide)).append (printable_intercalate (eachPrintable members))).append
        (printable_ascii (by decide))

theorem allPrintable {numbers : NumberFormat} : ∀ elements : List Json,
    ∀ part ∈ stringifyAll numbers.write elements, Printable part
  | value :: rest, part, hpart => by
      rcases List.mem_cons.mp hpart with rfl | hpart
      · exact value.printable
      · exact allPrintable rest part hpart

theorem eachPrintable {numbers : NumberFormat} : ∀ members : List (Text × Json),
    ∀ part ∈ (stringifyEach numbers.write members).map writtenMember, Printable part
  | (key, value) :: rest, part, hpart => by
      rcases List.mem_cons.mp hpart with rfl | hpart
      · exact ((printable_stringifyText key).append (printable_ascii (by decide))).append
          value.printable
      · exact eachPrintable rest part hpart

end

/-- Nothing printable has a zero in it. -/
theorem Printable.zero_notMem (h : Printable text) : 0 ∉ text := by
  obtain ⟨chars, hchars, rfl⟩ := h
  intro hzero
  obtain ⟨c, hc, hunit⟩ := List.mem_flatMap.mp hzero
  have hcontrol := hchars c hc
  rcases Nat.lt_or_ge c.toNat 0x10000 with hsmall | hlarge
  · obtain ⟨unit, hunits, hvalue, -⟩ := charUnits_of_lt hsmall
    rw [hunits, List.mem_singleton] at hunit
    rw [← hunit, UInt16.toNat_zero] at hvalue
    omega
  · obtain ⟨high, low, hunits, hhigh, hlow, -⟩ := charUnits_of_le hlarge
    rw [hunits] at hunit
    rcases List.mem_pair.mp hunit with hunit | hunit
    · rw [← hunit, UInt16.toNat_zero] at hhigh
      omega
    · rw [← hunit, UInt16.toNat_zero] at hlow
      omega

end

/-! ## Digests under a domain -/

/-- `sha256Digest`. The hash is over the text's bytes, and is written in hexadecimal. -/
def sha256Digest (numberText : ℚ → Text) (sha256 : List UInt8 → Text) (domain : Text)
    (value : Json) : Except StrictJsonError Text := do
  revertIf (domain.length = 0) ⟨lit "Digest domain is required"⟩
  let encoded ← canonicalJson numberText value
  pure (lit "sha256:" ++ sha256 (encodeUtf8 (domain ++ [0] ++ encoded)))

/-- The last zero of a text tells where its domain ends. -/
theorem domain_inj {domain domain' text text' : Text} (hzero : (0 : UInt16) ∉ text)
    (hzero' : (0 : UInt16) ∉ text') (h : domain ++ [0] ++ text = domain' ++ [0] ++ text') :
    domain = domain' ∧ text = text' := by
  rw [List.append_assoc, List.append_assoc, List.append_eq_append_iff] at h
  rcases h with ⟨between, hdomain, htext⟩ | ⟨between, hdomain, htext⟩
  · cases between with
    | nil => exact ⟨by rw [hdomain, List.append_nil], (List.cons.inj htext).2⟩
    | cons unit between =>
        have htail : text = between ++ 0 :: text' := (List.cons.inj htext).2
        exact absurd (htail ▸ List.mem_append_right _ List.mem_cons_self) hzero
  · cases between with
    | nil => exact ⟨by rw [hdomain, List.append_nil], (List.cons.inj htext).2.symm⟩
    | cons unit between =>
        have htail : text' = between ++ 0 :: text := (List.cons.inj htext).2
        exact absurd (htail ▸ List.mem_append_right _ List.mem_cons_self) hzero'

/-- A text without half a pair. -/
def WellFormed (text : Text) : Prop := ∃ chars : List Char, units chars = text

theorem encodeUtf8_inj {text text' : Text} (h : WellFormed text) (h' : WellFormed text')
    (hbytes : encodeUtf8 text = encodeUtf8 text') : text = text' := by
  obtain ⟨chars, rfl⟩ := h
  obtain ⟨chars', rfl⟩ := h'
  rw [encodeUtf8_units, encodeUtf8_units] at hbytes
  rw [utf8Bytes_injective hbytes]

/-- The document behind a domain. -/
theorem WellFormed.domain {domain text : Text} (hdomain : WellFormed domain)
    (htext : Printable text) : WellFormed (domain ++ [0] ++ text) := by
  obtain ⟨chars, rfl⟩ := hdomain
  obtain ⟨others, -, rfl⟩ := htext
  exact ⟨chars ++ ['\x00'] ++ others, by rw [units_append, units_append]; rfl⟩

/-- **The canonical text is a canonical form**: it is one text for one value, it is read back as
that value, and a hash over it, behind a domain, names the domain and the value. -/
theorem canonicalJson_canonical (numbers : NumberFormat) (value other : PlainValue) :
    (∃ text parsed, canonicalJson numbers.write value.json = .ok text ∧
      Json.parse numbers.read text = some parsed ∧ parsed.Same value.json) ∧
    (canonicalJson numbers.write value.json = canonicalJson numbers.write other.json ↔
      value.json.Same other.json) ∧
    ∀ (sha256 : List UInt8 → Text) (domain domain' digest : Text),
      WellFormed domain → WellFormed domain' →
      -- the hash does not collide on what it was given
      (∀ text text', canonicalJson numbers.write value.json = .ok text →
        canonicalJson numbers.write other.json = .ok text' →
        sha256 (encodeUtf8 (domain ++ [0] ++ text)) =
          sha256 (encodeUtf8 (domain' ++ [0] ++ text')) →
        encodeUtf8 (domain ++ [0] ++ text) = encodeUtf8 (domain' ++ [0] ++ text')) →
      sha256Digest numbers.write sha256 domain value.json = .ok digest →
      sha256Digest numbers.write sha256 domain' other.json = .ok digest →
      domain = domain' ∧ value.json.Same other.json := by
  have htext := @canonicalJson_eq numbers.write value
  have hother := @canonicalJson_eq numbers.write other
  have hfinite := value.json.isFinite_sorted value.finite
  have hfinite' := other.json.isFinite_sorted other.finite
  have hsame : value.json.sorted.stringify numbers.write =
      other.json.sorted.stringify numbers.write → value.json.Same other.json := fun hwritten =>
    Json.same_of_sorted _ _
      (Json.stringify_injective numbers.numberTexts hfinite hfinite' hwritten)
  refine ⟨⟨_, value.json.sorted, htext, ?_, value.json.sorted_same⟩, ⟨fun h => ?_, fun h => ?_⟩, ?_⟩
  · exact (Json.spelled _ hfinite (value.json.distinctKeys_sorted value.distinct)).parse
  · rw [htext, hother] at h
    exact hsame (Except.ok.inj h)
  · rw [htext, hother, h.sorted_eq value.distinct]
  · intro sha256 domain domain' digest hdomain hdomain' hcollision hdigest hdigest'
    simp only [sha256Digest, htext, hother, bind_ok_iff, exists_unit, revertIf_ok_iff,
      pure_ok_iff, Except.ok.injEq, exists_eq_left'] at hdigest hdigest'
    have hhash := List.append_cancel_left (hdigest.2.trans hdigest'.2.symm)
    have hprintable := @Json.printable numbers value.json.sorted
    have hprintable' := @Json.printable numbers other.json.sorted
    have hbytes := hcollision _ _ htext hother hhash
    obtain ⟨hdomains, htexts⟩ := domain_inj hprintable.zero_notMem hprintable'.zero_notMem
      (encodeUtf8_inj (hdomain.domain hprintable) (hdomain'.domain hprintable') hbytes)
    exact ⟨hdomains, hsame htexts⟩

namespace Sample

/-- Half a pair and a line break. -/
def odd : Json := .text [0xD800, 10]

def value : PlainValue where
  json := .object [(lit "b", .number (.ofInt 1)), (lit "a", odd)]
  finite := rfl
  distinct := by decide

def reordered : PlainValue where
  json := .object [(lit "a", odd), (lit "b", .number (.ofInt 1))]
  finite := rfl
  distinct := by decide

def digest : Text :=
  lit "8945e4da68785bfba23be291bec6ed061db4d2060198b53f39427129784e8690"

end Sample

/-- Two orders of one object have one text, and one digest under one domain. -/
theorem canonicalJson_canonical_sample :
    canonicalJson ratioFormat.write Sample.value.json =
        .ok (lit "\x7b\"a\":\"\\ud800\\n\",\"b\":1\x7d") ∧
      (canonicalJson ratioFormat.write Sample.value.json =
        canonicalJson ratioFormat.write Sample.reordered.json) ∧
      sha256Digest ratioFormat.write (fun _ => Sample.digest) (lit "MordantAssetRecord/v1")
        Sample.value.json = .ok (lit "sha256:" ++ Sample.digest) ∧
      (lit "MordantAssetRecord/v1" = lit "MordantAssetRecord/v1" ∧
        Sample.value.json.Same Sample.reordered.json) := by
  have hsame : canonicalJson ratioFormat.write Sample.value.json =
      canonicalJson ratioFormat.write Sample.reordered.json := by rfl
  have hdomain : WellFormed (lit "MordantAssetRecord/v1") :=
    ⟨"MordantAssetRecord/v1".toList, by decide⟩
  refine ⟨rfl, hsame, rfl, ?_⟩
  exact (canonicalJson_canonical ratioFormat Sample.value Sample.reordered).2.2
    (fun _ => Sample.digest) _ _ _ hdomain hdomain
    (fun text text' htext htext' _ => by
      rw [hsame, htext'] at htext
      rw [Except.ok.inj htext])
    rfl rfl

end Mordant.Script
