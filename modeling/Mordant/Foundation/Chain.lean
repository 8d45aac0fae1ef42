/-
# Chains of versions

A history is a list, oldest first.  Its entries are numbered from one, each has a
name, and each says which name it replaces.  The history grows at its end only, by
an entry with the next number that replaces the newest name.
-/

import Mathlib.Data.List.Nodup

namespace Mordant.Foundation

universe u v

variable {α : Type u} {κ : Type v}

/-- The entries are numbered from one; the first replaces `origin`, every other one
the name before it, and `tip` is the newest name. -/
structure Chained (number : α → ℕ) (name previous : α → κ) (origin tip : κ)
    (entries : List α) : Prop where
  numbers : entries.map number = List.range' 1 entries.length
  links : entries.map previous ++ [tip] = origin :: entries.map name

namespace Chained

variable {number : α → ℕ} {name previous : α → κ} {origin tip : κ} {entries : List α} {a b : α}

theorem nil : Chained number name previous origin origin [] := ⟨rfl, rfl⟩

/-- One more version. -/
theorem snoc (h : Chained number name previous origin tip entries) {e : α}
    (hnumber : number e = entries.length + 1) (hprevious : previous e = tip) :
    Chained number name previous origin (name e) (entries ++ [e]) where
  numbers := by
    rw [List.map_append, h.numbers, List.length_append, List.length_singleton,
      List.range'_concat, List.map_singleton, hnumber, Nat.one_mul, Nat.add_comm 1]
  links := by
    rw [List.map_append, List.map_singleton, hprevious, h.links, List.map_append,
      List.map_singleton, List.cons_append]

/-- The entry at a position has the next number. -/
theorem number_getElem (h : Chained number name previous origin tip entries) {i : ℕ}
    (hi : i < entries.length) : number entries[i] = i + 1 := by
  have hmap : (entries.map number)[i]? = some (number entries[i]) := by
    rw [List.getElem?_map, List.getElem?_eq_getElem hi]
    rfl
  rw [h.numbers, List.getElem?_range' hi] at hmap
  have hnumber := Option.some.inj hmap
  omega

/-- Every version names the one before it. -/
theorem previous_eq (h : Chained number name previous origin tip entries) (ha : a ∈ entries)
    (hb : b ∈ entries) (hnext : number b = number a + 1) : previous b = name a := by
  obtain ⟨i, hi, rfl⟩ := List.getElem_of_mem ha
  obtain ⟨j, hj, rfl⟩ := List.getElem_of_mem hb
  have hj_eq : j = i + 1 := by
    have hleft := h.number_getElem hi
    have hright := h.number_getElem hj
    omega
  subst hj_eq
  have hlink := congrArg (·[i + 1]?) h.links
  simp only [List.getElem?_cons_succ, List.getElem?_map, List.getElem?_eq_getElem hi,
    Option.map_some] at hlink
  rw [List.getElem?_append_left (by rw [List.length_map]; exact hj), List.getElem?_map,
    List.getElem?_eq_getElem hj] at hlink
  exact Option.some.inj hlink

/-- The newest version has the highest number and the newest name. -/
theorem exists_newest (h : Chained number name previous origin tip entries)
    (hne : entries ≠ []) : ∃ a ∈ entries, number a = entries.length ∧ name a = tip := by
  have hpos := List.length_pos_iff.mpr hne
  have hlast : entries.length - 1 < entries.length := by omega
  refine ⟨entries[entries.length - 1], List.getElem_mem hlast, ?_, ?_⟩
  · rw [h.number_getElem hlast]
    omega
  · have hlink := congrArg (·[entries.length]?) h.links
    have hindex : entries.length = (entries.length - 1) + 1 := by omega
    rw [List.getElem?_append_right (by simp), List.length_map, Nat.sub_self,
      List.getElem?_cons_zero, hindex, List.getElem?_cons_succ, List.getElem?_map,
      List.getElem?_eq_getElem hlast] at hlink
    exact (Option.some.inj hlink).symm

end Chained

end Mordant.Foundation
