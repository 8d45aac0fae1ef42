/-
# Canonical documents

A document written with the members of every object sorted by their keys, which
throws for numbers that are not finite.  What is put in the place of one member
shows in one place of the text, so that a search for a quoted name finds the same
in both texts unless the name is what was put there.
-/

import Mathlib.Data.List.Sort
import Mordant.Foundation.Call
import Mordant.Script.Stringify

namespace Mordant.Script

open Foundation

structure StrictJsonError where
  message : Text
  deriving DecidableEq

/-- The values, or the first error among them. -/
def collect {ε α : Type} : List (Except ε α) → Except ε (List α)
  | [] => .ok []
  | result :: rest => do
    let value ← result
    let values ← collect rest
    pure (value :: values)

/-- Members in the order of their keys, by code units. -/
def sortMembers {α : Type} (members : List (Text × α)) : List (Text × α) :=
  members.insertionSort fun left right => left.1 ≤ right.1

/-- A member that is written, or throws. -/
def writeMember (member : Text × Except StrictJsonError Text) : Except StrictJsonError Text :=
  member.2.map fun written => writtenMember (member.1, written)

section

variable (numberText : ℚ → Text)

mutual

/-- `canonicalizeStrict`. Nothing that was parsed is cyclic, sparse or of a class. -/
def canonicalizeStrict (path : Text) : Json → Except StrictJsonError Text
  | .number (.finite value) => .ok (numberText value)
  | .number _ => .error ⟨path ++ lit " contains a non-finite number"⟩
  | .null => .ok (lit "null")
  | .bool value => .ok (stringifyBool value)
  | .text value => .ok (stringifyText value)
  | .array elements => (collect (canonicalizeElements path 0 elements)).map stringifyArray
  | .object members =>
    (collect ((sortMembers (canonicalizeMembers path members)).map writeMember)).map fun parts =>
      lit "\x7b" ++ List.intercalate (lit ",") parts ++ lit "\x7d"

def canonicalizeElements (path : Text) (index : ℕ) :
    List Json → List (Except StrictJsonError Text)
  | [] => []
  | value :: rest =>
    canonicalizeStrict (path ++ lit "[" ++ stringifyInt index ++ lit "]") value ::
      canonicalizeElements path (index + 1) rest

def canonicalizeMembers (path : Text) :
    List (Text × Json) → List (Text × Except StrictJsonError Text)
  | [] => []
  | (key, value) :: rest =>
    (key, canonicalizeStrict (path ++ lit "." ++ key) value) :: canonicalizeMembers path rest

end

def canonicalJson (value : Json) : Except StrictJsonError Text :=
  canonicalizeStrict numberText (lit "$") value

end

def includes (needle : Text) : Text → Bool
  | [] => needle.isEmpty
  | unit :: rest => needle.isPrefixOf (unit :: rest) || includes needle rest

/-- A text in quotes that has nothing to escape. -/
def quoted (name : Text) : Text := 34 :: (name ++ [34])

/-! ## What is written is finite -/

section

variable {ε α β : Type} {numberText : ℚ → Text}

theorem collect_ok_iff {results : List (Except ε α)} {values : List α} :
    collect results = .ok values ↔ results = values.map .ok := by
  induction results generalizing values with
  | nil =>
      cases values with
      | nil => simp [collect]
      | cons value values => simp [collect]
  | cons result rest ih =>
      simp only [collect, bind_ok_iff, pure_ok_iff, ih]
      constructor
      · rintro ⟨value, rfl, tail, rfl, rfl⟩
        rfl
      · intro h
        cases values with
        | nil => exact nomatch h
        | cons value tail =>
            obtain ⟨rfl, rfl⟩ := List.cons.inj h
            exact ⟨value, rfl, tail, rfl, rfl⟩

theorem sortMembers_perm (members : List (Text × α)) : (sortMembers members).Perm members :=
  List.perm_insertionSort _ members

theorem sortMembers_sorted (members : List (Text × α)) :
    (sortMembers members).Pairwise fun left right => left.1 ≤ right.1 := by
  have htotal : Std.Total fun left right : Text × α => left.1 ≤ right.1 :=
    ⟨fun left right => Std.Total.total left.1 right.1⟩
  have htrans : IsTrans (Text × α) fun left right => left.1 ≤ right.1 :=
    ⟨fun first second third => @IsTrans.trans Text (· ≤ ·) _ first.1 second.1 third.1⟩
  exact List.pairwise_insertionSort _ members

/-- The members of an object that was written are all written. -/
theorem written_of_collect {members : List (Text × Except StrictJsonError Text)}
    {parts : List Text} (h : collect ((sortMembers members).map writeMember) = .ok parts)
    {key : Text} {result : Except StrictJsonError Text} (hmember : (key, result) ∈ members) :
    ∃ written, result = .ok written := by
  rw [collect_ok_iff] at h
  have hwritten : writeMember (key, result) ∈ parts.map Except.ok := by
    rw [← h]
    exact List.mem_map_of_mem ((sortMembers_perm members).mem_iff.mpr hmember)
  obtain ⟨part, -, hpart⟩ := List.mem_map.mp hwritten
  obtain ⟨written, hresult, -⟩ := map_ok_iff.mp hpart.symm
  exact ⟨written, hresult⟩

mutual

theorem isFinite_of_canonical :
    ∀ (value : Json) {path written : Text},
      canonicalizeStrict numberText path value = .ok written → value.isFinite = true
  | .number (.finite _), _, _, _ => rfl
  | .number (.infinite _), _, _, h => nomatch h
  | .number .nan, _, _, h => nomatch h
  | .null, _, _, _ | .bool _, _, _, _ | .text _, _, _, _ => rfl
  | .array elements, path, written, h => by
      obtain ⟨parts, hparts, -⟩ := map_ok_iff.mp h
      exact allFinite_of_canonical elements (collect_ok_iff.mp hparts)
  | .object members, path, written, h => by
      obtain ⟨parts, hparts, -⟩ := map_ok_iff.mp h
      exact eachFinite_of_canonical members fun _ _ hmember =>
        written_of_collect hparts hmember

theorem allFinite_of_canonical :
    ∀ (values : List Json) {path : Text} {index : ℕ} {parts : List Text},
      canonicalizeElements numberText path index values = parts.map .ok → allFinite values = true
  | [], _, _, _, _ => rfl
  | value :: rest, path, index, parts, h => by
      cases parts with
      | nil => exact nomatch h
      | cons part parts =>
          obtain ⟨hvalue, hrest⟩ := List.cons.inj h
          rw [allFinite, Bool.and_eq_true]
          exact ⟨isFinite_of_canonical value hvalue, allFinite_of_canonical rest hrest⟩

theorem eachFinite_of_canonical :
    ∀ (members : List (Text × Json)) {path : Text},
      (∀ key result, (key, result) ∈ canonicalizeMembers numberText path members →
        ∃ written, result = .ok written) → eachFinite members = true
  | [], _, _ => rfl
  | (key, value) :: rest, path, h => by
      obtain ⟨written, hwritten⟩ := h _ _ List.mem_cons_self
      rw [eachFinite, Bool.and_eq_true]
      exact ⟨isFinite_of_canonical value hwritten,
        eachFinite_of_canonical rest fun _ _ hmember =>
          h _ _ (List.mem_cons_of_mem _ hmember)⟩

end

/-- Values that are all there are collected. -/
theorem collect_of_forall {results : List (Except ε α)}
    (h : ∀ result ∈ results, ∃ value, result = .ok value) :
    ∃ values, collect results = .ok values := by
  induction results with
  | nil => exact ⟨[], rfl⟩
  | cons result rest ih =>
      obtain ⟨value, rfl⟩ := h _ List.mem_cons_self
      obtain ⟨values, hvalues⟩ := ih fun _ hmember => h _ (List.mem_cons_of_mem _ hmember)
      exact ⟨value :: values, bind_ok_iff.mpr ⟨value, rfl, bind_ok_iff.mpr ⟨values, hvalues, rfl⟩⟩⟩

mutual

/-- What is finite is written. -/
theorem canonical_of_isFinite :
    ∀ (value : Json) (path : Text), value.isFinite = true →
      ∃ written, canonicalizeStrict numberText path value = .ok written
  | .number (.finite _), _, _ | .null, _, _ | .bool _, _, _ | .text _, _, _ => ⟨_, rfl⟩
  | .number (.infinite _), _, h => nomatch h
  | .number .nan, _, h => nomatch h
  | .array elements, path, h => by
      obtain ⟨parts, hparts⟩ := collect_of_forall (canonical_of_allFinite elements path 0 h)
      exact ⟨_, map_ok_iff.mpr ⟨parts, hparts, rfl⟩⟩
  | .object members, path, h => by
      have hmembers : ∀ result ∈ (sortMembers (canonicalizeMembers numberText path members)).map
          writeMember, ∃ value, result = .ok value := by
        intro result hresult
        obtain ⟨member, hmember, rfl⟩ := List.mem_map.mp hresult
        obtain ⟨written, hwritten⟩ := canonical_of_eachFinite members path h member
          ((sortMembers_perm _).mem_iff.mp hmember)
        exact ⟨_, map_ok_iff.mpr ⟨written, hwritten, rfl⟩⟩
      obtain ⟨parts, hparts⟩ := collect_of_forall hmembers
      exact ⟨_, map_ok_iff.mpr ⟨parts, hparts, rfl⟩⟩

theorem canonical_of_allFinite :
    ∀ (values : List Json) (path : Text) (index : ℕ), allFinite values = true →
      ∀ result ∈ canonicalizeElements numberText path index values, ∃ written, result = .ok written
  | [], _, _, _, _, hresult => (List.not_mem_nil hresult).elim
  | value :: rest, path, index, h, result, hresult => by
      obtain ⟨hvalue, hrest⟩ := Bool.and_eq_true_iff.mp h
      rcases List.mem_cons.mp hresult with rfl | hresult
      · exact canonical_of_isFinite value _ hvalue
      · exact canonical_of_allFinite rest path (index + 1) hrest result hresult

theorem canonical_of_eachFinite :
    ∀ (members : List (Text × Json)) (path : Text), eachFinite members = true →
      ∀ member ∈ canonicalizeMembers numberText path members, ∃ written, member.2 = .ok written
  | [], _, _, _, hmember => (List.not_mem_nil hmember).elim
  | (key, value) :: rest, path, h, member, hmember => by
      obtain ⟨hvalue, hrest⟩ := Bool.and_eq_true_iff.mp h
      rcases List.mem_cons.mp hmember with rfl | hmember
      · exact canonical_of_isFinite value _ hvalue
      · exact canonical_of_eachFinite rest path hrest member hmember

end

end

/-! ## One member changed -/

/-- The texts agree but for a piece of each. -/
def Framed (piece piece' text text' : Text) : Prop :=
  ∃ before after, text = before ++ piece ++ after ∧ text' = before ++ piece' ++ after

/-- The member of a key is the only one by that key. -/
structure ChangesAt {α : Type} (name : Text) (value value' : α)
    (members members' : List (Text × α)) :
    Prop where
  keys : (members.map Prod.fst).Perm (members'.map Prod.fst)
  nodup : (members.map Prod.fst).Nodup
  here : (name, value) ∈ members
  there : (name, value') ∈ members'
  elsewhere : ∀ key, key ≠ name → ∀ other, (key, other) ∈ members → (key, other) ∈ members'

section

variable {α β : Type} {numberText : ℚ → Text} {piece piece' text text' name : Text}
  {members : List (Text × α)} {value : Json}

theorem Framed.trans {whole whole' : Text} (h : Framed piece piece' text text')
    (hwhole : Framed text text' whole whole') : Framed piece piece' whole whole' := by
  obtain ⟨before, after, rfl, rfl⟩ := h
  obtain ⟨first, last, rfl, rfl⟩ := hwhole
  refine ⟨first ++ before, after ++ last, ?_, ?_⟩
  · simp only [List.append_assoc]
  · simp only [List.append_assoc]

/-- Two members of one key are the same where no key is repeated. -/
theorem eq_of_nodup_keys (hnodup : (members.map Prod.fst).Nodup) {key : Text} {value value' : α}
    (h : (key, value) ∈ members) (h' : (key, value') ∈ members) :
    value = value' := by
  have hmember := List.inj_on_of_nodup_map hnodup h h' rfl
  exact congrArg Prod.snd hmember

/-- Sorting puts the changed member at one place. -/
theorem ChangesAt.sorted {value value' : α} {members' : List (Text × α)}
    (h : ChangesAt name value value' members members') :
    ∃ before after, sortMembers members = before ++ (name, value) :: after ∧
      sortMembers members' = before ++ (name, value') :: after := by
  have hperm := sortMembers_perm members
  obtain ⟨before, after, hsplit⟩ := List.append_of_mem (hperm.mem_iff.mpr h.here)
  refine ⟨before, after, hsplit, ?_⟩
  have hkeys : ((before ++ (name, value') :: after).map Prod.fst) =
      (sortMembers members).map Prod.fst := by
    rw [hsplit]
    simp only [List.map_append, List.map_cons]
  have hnodup : ((before ++ (name, value') :: after).map Prod.fst).Nodup := by
    rw [hkeys]
    exact (hperm.map Prod.fst).nodup_iff.mpr h.nodup
  have hnodup' : (members'.map Prod.fst).Nodup := h.keys.nodup_iff.mp h.nodup
  -- every key of the one list is a key of the other, with the same member
  have hsubset : before ++ (name, value') :: after ⊆ members' := by
    rintro ⟨key, other⟩ hother
    rcases List.mem_append.mp hother with hbefore | hafter
    · have hne : key ≠ name := by
        rintro rfl
        rw [List.map_append, List.map_cons] at hnodup
        exact (List.nodup_middle.mp hnodup).notMem
          (List.mem_append_left _ (List.mem_map.mpr ⟨_, hbefore, rfl⟩))
      apply h.elsewhere key hne
      rw [← hperm.mem_iff, hsplit]
      exact List.mem_append_left _ hbefore
    · rcases List.mem_cons.mp hafter with hhere | hrest
      · rw [hhere]
        exact h.there
      · have hne : key ≠ name := by
          rintro rfl
          rw [List.map_append, List.map_cons] at hnodup
          exact (List.nodup_middle.mp hnodup).notMem
            (List.mem_append_right _ (List.mem_map.mpr ⟨_, hrest, rfl⟩))
        apply h.elsewhere key hne
        rw [← hperm.mem_iff, hsplit]
        exact List.mem_append_right _ (List.mem_cons_of_mem _ hrest)
  have hlength : (before ++ (name, value') :: after).length = members'.length := by
    have hsame := congrArg List.length hkeys
    rw [List.length_map, List.length_map] at hsame
    have hcount := h.keys.length_eq
    rw [List.length_map, List.length_map] at hcount
    rw [hsame, hperm.length_eq, hcount]
  have hpermuted : (before ++ (name, value') :: after).Perm members' :=
    (List.subperm_of_subset (hnodup.of_map Prod.fst) hsubset).perm_of_length_le hlength.ge
  have hsorted : (before ++ (name, value') :: after).Pairwise
      fun left right => left.1 ≤ right.1 := by
    have hold := sortMembers_sorted members
    rw [← List.pairwise_map, ← hkeys, List.pairwise_map] at hold
    exact hold
  apply List.Perm.eq_of_pairwise _ (sortMembers_sorted members') hsorted
    ((sortMembers_perm members').trans hpermuted.symm)
  rintro ⟨key, other⟩ ⟨key', other'⟩ hleft hright hle hge
  obtain rfl : key = key' := Std.Antisymm.antisymm (r := fun a b : Text => a ≤ b) key key' hle hge
  rw [eq_of_nodup_keys hnodup' ((sortMembers_perm members').mem_iff.mp hleft) (hsubset hright)]

/-- The texts of two lists of members, put together. -/
theorem framed_intercalate {before after : List Text} {part part' : Text} :
    Framed part part' (List.intercalate (lit ",") (before ++ part :: after))
      (List.intercalate (lit ",") (before ++ part' :: after)) := by
  have htail : ∀ part, List.intercalate (lit ",") (part :: after) =
      part ++ (after.map (lit "," ++ ·)).flatten := by
    intro part
    induction after generalizing part with
    | nil => simp
    | cons next after ih => rw [List.intercalate_cons_cons, ih]; simp
  have hhead : ∀ part, List.intercalate (lit ",") (before ++ part :: after) =
      (before.map (· ++ lit ",")).flatten ++ part ++ (after.map (lit "," ++ ·)).flatten := by
    intro part
    induction before with
    | nil => rw [List.nil_append, htail]; simp
    | cons first before ih =>
        cases before with
        | nil =>
            show List.intercalate _ (first :: part :: after) = _
            rw [List.intercalate_cons_cons, htail]
            simp
        | cons second before =>
            show List.intercalate _ (first :: second :: (before ++ part :: after)) = _
            rw [List.intercalate_cons_cons]
            rw [List.cons_append] at ih
            rw [ih]
            simp
  exact ⟨_, _, hhead part, hhead part'⟩

theorem canonicalizeMembers_eq (path : Text) (members : List (Text × Json)) :
    canonicalizeMembers numberText path members = members.map fun member =>
      (member.1, canonicalizeStrict numberText (path ++ lit "." ++ member.1) member.2) := by
  induction members with
  | nil => rfl
  | cons member rest ih => rw [canonicalizeMembers, ih, List.map_cons]

theorem ChangesAt.map {value value' : α} {members' : List (Text × α)}
    (h : ChangesAt name value value' members members') (f : Text → α → β) :
    ChangesAt name (f name value) (f name value')
      (members.map fun member => (member.1, f member.1 member.2))
      (members'.map fun member => (member.1, f member.1 member.2)) where
  keys := by simpa only [List.map_map, Function.comp_def] using h.keys
  nodup := by simpa only [List.map_map, Function.comp_def] using h.nodup
  here := List.mem_map.mpr ⟨_, h.here, rfl⟩
  there := List.mem_map.mpr ⟨_, h.there, rfl⟩
  elsewhere := by
    intro key hne other hother
    obtain ⟨⟨key', old⟩, hold, heq⟩ := List.mem_map.mp hother
    obtain ⟨rfl, rfl⟩ := Prod.mk.inj heq
    exact List.mem_map.mpr ⟨_, h.elsewhere _ hne _ hold, rfl⟩

/-- A member changed in an object shows in one place of what is written. -/
theorem framed_object {members members' : List (Text × Json)} {value' : Json} {path : Text}
    (h : ChangesAt name value value' members members')
    (hvalue : canonicalizeStrict numberText (path ++ lit "." ++ name) value = .ok piece)
    (hvalue' : canonicalizeStrict numberText (path ++ lit "." ++ name) value' = .ok piece')
    (hwhole : canonicalizeStrict numberText path (.object members) = .ok text) :
    ∃ text', canonicalizeStrict numberText path (.object members') = .ok text' ∧
      Framed piece piece' text text' := by
  have hchange := h.map fun key value =>
    canonicalizeStrict numberText (path ++ lit "." ++ key) value
  rw [← canonicalizeMembers_eq, ← canonicalizeMembers_eq, hvalue, hvalue'] at hchange
  obtain ⟨before, after, hsorted, hsorted'⟩ := hchange.sorted
  obtain ⟨parts, hparts, rfl⟩ := map_ok_iff.mp hwhole
  rw [hsorted, collect_ok_iff, List.map_append, List.map_cons] at hparts
  obtain ⟨first, rest, rfl, hfirst, hwritten⟩ := List.map_eq_append_iff.mp hparts.symm
  obtain ⟨part, last, rfl, hpart, hlast⟩ := List.map_eq_cons_iff.mp hwritten
  obtain rfl : part = writtenMember (name, piece) := Except.ok.inj hpart
  have hparts' : collect ((sortMembers (canonicalizeMembers numberText path members')).map
      writeMember) = .ok (first ++ writtenMember (name, piece') :: last) := by
    rw [hsorted', collect_ok_iff, List.map_append, List.map_cons, List.map_append, List.map_cons,
      hfirst, hlast]
    rfl
  refine ⟨_, map_ok_iff.mpr ⟨_, hparts', rfl⟩, ?_⟩
  have hmember : Framed piece piece' (writtenMember (name, piece)) (writtenMember (name, piece')) :=
    ⟨stringifyText name ++ lit ":", [], (List.append_nil _).symm, (List.append_nil _).symm⟩
  exact (hmember.trans framed_intercalate).trans ⟨_, _, rfl, rfl⟩

/-- An object in which one key has another value, and the rest is as it was. -/
theorem ChangesAt.of_get {value' old new : Json} {name : String} {expected : List String}
    (hkeys : value.hasExactKeys expected = true) (hkeys' : value'.hasExactKeys expected = true)
    (hnodup : (expected.map lit).Nodup) (hold : value.get name = some old)
    (hnew : value'.get name = some new)
    (hrest : ∀ other ∈ expected, other ≠ name → value'.get other = value.get other) :
    ChangesAt (lit name) old new value.members value'.members where
  keys := (List.isPerm_iff.mp hkeys).trans (List.isPerm_iff.mp hkeys').symm
  nodup := Json.nodup_of_hasExactKeys hkeys hnodup
  here := Json.mem_of_get hold
  there := Json.mem_of_get hnew
  elsewhere := by
    intro key hne found hfound
    have hkey : key ∈ expected.map lit :=
      (List.isPerm_iff.mp hkeys).mem_iff.mp (List.mem_map_of_mem hfound)
    obtain ⟨other, hother, rfl⟩ := List.mem_map.mp hkey
    have hget := Json.get_of_mem (Json.nodup_of_hasExactKeys hkeys hnodup) hfound
    rw [← hrest other hother fun h => hne (h ▸ rfl)] at hget
    exact Json.mem_of_get hget

theorem ChangesAt.of_set {old new : Json} {name : String}
    (hnodup : (value.members.map Prod.fst).Nodup) (hold : value.get name = some old) :
    ChangesAt (lit name) old new value.members (value.set name new).members where
  keys := by rw [Json.keys_set]
  nodup := hnodup
  here := Json.mem_of_get hold
  there := Json.mem_of_get (Json.get_set_self hold)
  elsewhere := by
    intro key hne found hfound
    exact List.mem_map.mpr ⟨_, hfound, if_neg hne⟩

/-- Replacing one member by what is written with another piece does so for the whole. -/
theorem framed_set {old new : Json} {name : String} (hobject : value.isObject = true)
    (hnodup : (value.members.map Prod.fst).Nodup) (hold : value.get name = some old)
    (hpiece : ∀ path written, canonicalizeStrict numberText path old = .ok written →
      ∃ written', canonicalizeStrict numberText path new = .ok written' ∧
        Framed piece piece' written written') (hwhole : canonicalJson numberText value = .ok text) :
    ∃ text', canonicalJson numberText (value.set name new) = .ok text' ∧
      Framed piece piece' text text' := by
  obtain ⟨members, rfl⟩ := Json.isObject_iff.mp hobject
  obtain ⟨parts, hparts, -⟩ := map_ok_iff.mp hwhole
  have hmember : (lit name, canonicalizeStrict numberText (lit "$" ++ lit "." ++ lit name) old) ∈
      canonicalizeMembers numberText (lit "$") members := by
    rw [canonicalizeMembers_eq]
    exact List.mem_map.mpr ⟨_, Json.mem_of_get hold, rfl⟩
  obtain ⟨written, hwritten⟩ := written_of_collect hparts hmember
  obtain ⟨written', hwritten', hframed⟩ := hpiece _ _ hwritten
  obtain ⟨text', htext', hwhole'⟩ := framed_object (ChangesAt.of_set hnodup hold) hwritten
    hwritten' hwhole
  exact ⟨text', htext', hframed.trans hwhole'⟩

end

/-! ## Looking for a name -/

section

variable {name piece piece' before after text text' : Text}

/-- A name up to its closing quote begins a quoted piece only when it is that piece. -/
theorem isPrefixOf_quoted (hname : 34 ∉ name) (hpiece : 34 ∉ piece) :
    (name ++ [34]).isPrefixOf (piece ++ 34 :: after) = decide (name = piece) := by
  induction name generalizing piece with
  | nil =>
      cases piece with
      | nil => rfl
      | cons unit piece =>
          have hne : (34 : UInt16) ≠ unit := fun h => hpiece (h ▸ List.mem_cons_self)
          simp [List.isPrefixOf_cons_cons, hne]
  | cons unit name ih =>
      have hunit : unit ≠ 34 := fun h => hname (h ▸ List.mem_cons_self)
      have hrest : 34 ∉ name := fun h => hname (List.mem_cons_of_mem _ h)
      cases piece with
      | nil => simp [List.isPrefixOf_cons_cons, hunit]
      | cons unit' piece =>
          have hrest' : 34 ∉ piece := fun h => hpiece (List.mem_cons_of_mem _ h)
          rw [List.cons_append, List.cons_append, List.isPrefixOf_cons_cons, ih hrest hrest']
          by_cases hsame : unit = unit'
          · simp [hsame]
          · simp [hsame]

/-- Whether a name up to its closing quote begins a text shows before the next quote. -/
theorem isPrefixOf_before (hname : 34 ∉ name) :
    (name ++ [34]).isPrefixOf (before ++ 34 :: after) =
      (name ++ [34]).isPrefixOf (before ++ [34]) := by
  induction name generalizing before with
  | nil => cases before <;> simp [List.isPrefixOf_cons_cons]
  | cons unit name ih =>
      have hunit : unit ≠ 34 := fun h => hname (h ▸ List.mem_cons_self)
      have hrest : 34 ∉ name := fun h => hname (List.mem_cons_of_mem _ h)
      cases before with
      | nil => simp [List.isPrefixOf_cons_cons, hunit]
      | cons unit' before =>
          rw [List.cons_append, List.cons_append, List.cons_append, List.isPrefixOf_cons_cons,
            List.isPrefixOf_cons_cons, ih hrest]

/-- A quoted name is not found inside what has no quotes. -/
theorem includes_skip (hpiece : 34 ∉ piece) :
    includes (quoted name) (piece ++ after) = includes (quoted name) after := by
  induction piece with
  | nil => rfl
  | cons unit piece ih =>
      have hne : (34 : UInt16) ≠ unit := fun h => hpiece (h ▸ List.mem_cons_self)
      have hrest : 34 ∉ piece := fun h => hpiece (List.mem_cons_of_mem _ h)
      rw [List.cons_append, includes, ih hrest, quoted, List.isPrefixOf_cons_cons]
      simp [hne]

/-- A quoted name is found before a quoted piece, after it, or is that piece. -/
theorem includes_quoted (hname : 34 ∉ name) (hpiece : 34 ∉ piece) :
    includes (quoted name) (before ++ quoted piece ++ after) =
      (includes (quoted name) (before ++ [34]) || decide (name = piece) ||
        includes (quoted name) (34 :: after)) := by
  have hshape : before ++ quoted piece ++ after = before ++ 34 :: (piece ++ 34 :: after) := by
    simp [quoted]
  rw [hshape]
  clear hshape
  induction before with
  | nil =>
      have hquote : includes (quoted name) [34] = false := by
        cases name <;> rfl
      rw [List.nil_append, List.nil_append, hquote, Bool.false_or, includes, includes_skip hpiece]
      congr 1
      rw [quoted, List.isPrefixOf_cons_cons, isPrefixOf_quoted hname hpiece]
      rfl
  | cons unit before ih =>
      rw [List.cons_append, List.cons_append, includes, includes, ih, quoted,
        List.isPrefixOf_cons_cons, List.isPrefixOf_cons_cons, isPrefixOf_before hname]
      simp only [Bool.or_assoc]

/-- Whichever of two other pieces stands there, the search finds the same. -/
theorem Framed.includes_eq (h : Framed (quoted piece) (quoted piece') text text')
    (hname : 34 ∉ name) (hpiece : 34 ∉ piece) (hpiece' : 34 ∉ piece') (hne : name ≠ piece)
    (hne' : name ≠ piece') : includes (quoted name) text = includes (quoted name) text' := by
  obtain ⟨before, after, rfl, rfl⟩ := h
  rw [includes_quoted hname hpiece, includes_quoted hname hpiece', decide_eq_false hne,
    decide_eq_false hne']

end

end Mordant.Script
