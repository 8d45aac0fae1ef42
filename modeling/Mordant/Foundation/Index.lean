/-
# Indexes of a store

A store keeps values at places, and beside it a program keeps tables that find a
value's place by a field of it, or one field by another.  A key with no value is
answered by a default.  As long as values are only added, under fresh keys, such
a table is one-to-one and answers a key the same way for ever.
-/

import Mathlib.Data.Set.Function

namespace Mordant.Foundation

open Function (update_of_ne update_self)

universe u v w x

variable {ι : Type u} {κ : Type v} {α : Type w} {μ : Type x}

/-! ## Tables that only grow -/

/-- No key that had an answer changed it. -/
def SetOnce (absent : μ) (before after : κ → μ) : Prop :=
  ∀ key, before key ≠ absent → after key = before key

namespace SetOnce

variable {absent : μ} {first second third : κ → μ}

theorem refl (table : κ → μ) : SetOnce absent table table := fun _ _ => rfl

theorem trans (h : SetOnce absent first second) (h' : SetOnce absent second third) :
    SetOnce absent first third := by
  intro key hkey
  have hsecond := h key hkey
  rw [← hsecond] at hkey ⊢
  exact h' key hkey

/-- A fresh key. -/
theorem update [DecidableEq κ] {key : κ} (value : μ) (hfresh : first key = absent) :
    SetOnce absent first (Function.update first key value) := by
  intro other hother
  have hne : other ≠ key := by
    rintro rfl
    exact hother hfresh
  exact update_of_ne hne _ _

end SetOnce

/-! ## Finding a place by a field -/

/-- A key is answered by a place exactly when the value stored there has that key. -/
def Indexes (store : ι → Option α) (field : α → κ) (absent : ι) (index : κ → ι) : Prop :=
  ∀ key place, index key = place ∧ place ≠ absent ↔
    ∃ value, store place = some value ∧ field value = key

namespace Indexes

variable {store : ι → Option α} {field : α → κ} {absent : ι} {index : κ → ι}

theorem empty : Indexes (fun _ => none) field absent (fun _ => absent) := by
  intro key place
  constructor
  · rintro ⟨rfl, hne⟩
    exact absurd rfl hne
  · rintro ⟨value, hnone, -⟩
    exact nomatch hnone

/-- The place of a stored value is the answer to its key. -/
theorem answers (h : Indexes store field absent index) {place : ι} {value : α}
    (hstored : store place = some value) : index (field value) = place ∧ place ≠ absent :=
  (h (field value) place).mpr ⟨value, hstored, rfl⟩

/-- What an answered key finds. -/
theorem finds (h : Indexes store field absent index) {key : κ} (hkey : index key ≠ absent) :
    ∃ value, store (index key) = some value ∧ field value = key :=
  (h key (index key)).mp ⟨rfl, hkey⟩

/-- No two stored values have one key. -/
theorem unique (h : Indexes store field absent index) {place place' : ι} {value value' : α}
    (hstored : store place = some value) (hstored' : store place' = some value')
    (hsame : field value = field value') : place = place' := by
  rw [← (h.answers hstored).1, hsame, (h.answers hstored').1]

/-- One more value, at a fresh place and under a fresh key. -/
theorem insert [DecidableEq ι] [DecidableEq κ] (h : Indexes store field absent index)
    {place : ι} {value : α} (hplace : place ≠ absent) (hfree : store place = none)
    (hfresh : index (field value) = absent) :
    Indexes (Function.update store place (some value)) field absent
      (Function.update index (field value) place) := by
  intro key other
  by_cases hkey : key = field value
  · subst hkey
    rw [update_self]
    constructor
    · rintro ⟨rfl, -⟩
      exact ⟨value, update_self .., rfl⟩
    · rintro ⟨found, hfound, hfield⟩
      by_cases hother : other = place
      · exact ⟨hother.symm, hother ▸ hplace⟩
      · rw [update_of_ne hother] at hfound
        have hanswer := h.answers hfound
        rw [hfield, hfresh] at hanswer
        exact absurd hanswer.1.symm hanswer.2
  · rw [update_of_ne hkey]
    by_cases hother : other = place
    · subst hother
      rw [update_self]
      constructor
      · rintro ⟨hindex, -⟩
        have hanswered : index key ≠ absent := hindex ▸ hplace
        obtain ⟨found, hfound, -⟩ := h.finds hanswered
        rw [hindex, hfree] at hfound
        exact nomatch hfound
      · rintro ⟨found, hfound, hfield⟩
        obtain rfl := Option.some.inj hfound
        exact absurd hfield.symm hkey
    · rw [update_of_ne hother]
      exact h key other

/-- The answered keys have different answers. -/
theorem injOn (h : Indexes store field absent index) :
    Set.InjOn index {key | index key ≠ absent} := by
  intro key hkey key' hkey' hsame
  obtain ⟨value, hstored, rfl⟩ := h.finds hkey
  obtain ⟨value', hstored', rfl⟩ := h.finds hkey'
  rw [← hsame, hstored] at hstored'
  rw [Option.some.inj hstored']

/-- The answers are the places where something is stored. -/
theorem image (h : Indexes store field absent index) :
    index '' {key | index key ≠ absent} = {place | store place ≠ none} := by
  ext place
  constructor
  · rintro ⟨key, hkey, rfl⟩
    obtain ⟨value, hstored, -⟩ := h.finds hkey
    exact Option.ne_none_iff_exists'.mpr ⟨value, hstored⟩
  · intro hplace
    obtain ⟨value, hstored⟩ := Option.ne_none_iff_exists'.mp hplace
    obtain ⟨rfl, hne⟩ := h.answers hstored
    exact ⟨field value, hne, rfl⟩

end Indexes

/-! ## Finding one field by another -/

/-- The values a field takes on a store. -/
def fieldRange (store : ι → Option α) (field : α → κ) : Set κ :=
  {key | ∃ place value, store place = some value ∧ field value = key}

/-- `table` sends one field of every stored value to another and answers no other key. -/
structure Relates (store : ι → Option α) (source : α → κ) (target : α → μ) (absent : μ)
    (table : κ → μ) : Prop where
  sends : ∀ place value, store place = some value → table (source value) = target value
  only : ∀ key, table key ≠ absent → key ∈ fieldRange store source

namespace Relates

variable {store : ι → Option α} {source : α → κ} {target : α → μ} {absent : μ} {table : κ → μ}

theorem empty : Relates (fun _ : ι => none) source target absent (fun _ => absent) where
  sends _ _ h := nomatch h
  only _ h := absurd rfl h

theorem insert [DecidableEq ι] [DecidableEq κ] (h : Relates store source target absent table)
    (hpresent : ∀ place value, store place = some value → target value ≠ absent)
    {place : ι} {value : α} (hfree : store place = none) (hfresh : table (source value) = absent) :
    Relates (Function.update store place (some value)) source target absent
      (Function.update table (source value) (target value)) where
  sends other found hfound := by
    by_cases hother : other = place
    · subst hother
      rw [update_self] at hfound
      obtain rfl := Option.some.inj hfound
      exact update_self ..
    · rw [update_of_ne hother] at hfound
      have hsent := h.sends other found hfound
      have hne : source found ≠ source value := by
        intro hsame
        rw [hsame, hfresh] at hsent
        exact hpresent other found hfound hsent.symm
      rw [update_of_ne hne]
      exact hsent
  only key hkey := by
    by_cases hsame : key = source value
    · exact ⟨place, value, update_self .., hsame.symm⟩
    · rw [update_of_ne hsame] at hkey
      obtain ⟨other, found, hfound, hsource⟩ := h.only key hkey
      have hother : other ≠ place := by
        rintro rfl
        rw [hfree] at hfound
        exact nomatch hfound
      exact ⟨other, found, by rwa [update_of_ne hother], hsource⟩

/-- Where the targets are told apart by their places, the two fields correspond one to one. -/
theorem bijOn (h : Relates store source target absent table) {index : μ → ι} {missing : ι}
    (hindex : Indexes store target missing index) :
    Set.BijOn table (fieldRange store source) (fieldRange store target) := by
  refine ⟨?_, ?_, ?_⟩
  · rintro _ ⟨place, value, hstored, rfl⟩
    exact ⟨place, value, hstored, (h.sends place value hstored).symm⟩
  · rintro _ ⟨place, value, hstored, rfl⟩ _ ⟨place', value', hstored', rfl⟩ hsame
    rw [h.sends place value hstored, h.sends place' value' hstored'] at hsame
    obtain rfl := hindex.unique hstored hstored' hsame
    rw [Option.some.inj (hstored.symm.trans hstored')]
  · rintro _ ⟨place, value, hstored, rfl⟩
    exact ⟨source value, ⟨place, value, hstored, rfl⟩, h.sends place value hstored⟩

end Relates

end Mordant.Foundation
