/-
# Chunks of one size

A sequence is cut into chunks of one size.  Cutting and concatenating are inverse to each
other: chunks of that size come back from their concatenation, and a sequence whose length
is a multiple of it from its chunks.
-/

import Mathlib.Algebra.BigOperators.Group.List.Basic

namespace Mordant.Foundation

universe u

variable {α : Type u} {size : ℕ} {parts : List (List α)}

/-- The chunk at a position. -/
def chunk (size : ℕ) (items : List α) (i : ℕ) : List α := (items.drop (i * size)).take size

/-- All full chunks. -/
def chunks (size : ℕ) (items : List α) : List (List α) :=
  (List.range (items.length / size)).map (chunk size items)

theorem length_flatten_of_size (h : ∀ part ∈ parts, part.length = size) :
    parts.flatten.length = size * parts.length := by
  rw [List.length_flatten, List.map_congr_left h, List.map_const', List.sum_replicate,
    Nat.nsmul_eq_mul, Nat.mul_comm]

theorem chunk_flatten (h : ∀ part ∈ parts, part.length = size) {i : ℕ}
    (hi : i < parts.length) : chunk size parts.flatten i = parts[i] := by
  induction parts generalizing i with
  | nil => exact absurd hi (Nat.not_lt_zero i)
  | cons part parts ih =>
      have hpart : part.length = size := h part List.mem_cons_self
      have hparts : ∀ other ∈ parts, other.length = size :=
        fun other hother => h other (List.mem_cons_of_mem _ hother)
      rw [chunk, List.flatten_cons]
      cases i with
      | zero => rw [Nat.zero_mul, List.drop_zero, List.take_left' hpart, List.getElem_cons_zero]
      | succ i =>
          have hskip : (i + 1) * size = part.length + i * size := by
            rw [hpart, Nat.add_mul, Nat.one_mul, Nat.add_comm]
          rw [hskip, List.drop_length_add_append, List.getElem_cons_succ]
          exact ih hparts (Nat.lt_of_succ_lt_succ hi)

/-- Chunks come back from their concatenation. -/
theorem chunks_flatten (hsize : 0 < size)
    (h : ∀ part ∈ parts, part.length = size) : chunks size parts.flatten = parts := by
  rw [chunks, length_flatten_of_size h, Nat.mul_div_cancel_left _ hsize]
  apply List.ext_getElem
  · rw [List.length_map, List.length_range]
  · intro i _ hi
    rw [List.getElem_map, List.getElem_range]
    exact chunk_flatten h hi

theorem length_chunk {items : List α} {i : ℕ} (hi : i < items.length / size) :
    (chunk size items i).length = size := by
  have hend : (i + 1) * size ≤ items.length :=
    Nat.le_trans (Nat.mul_le_mul_right size hi) (Nat.div_mul_le_self _ _)
  rw [Nat.add_mul, Nat.one_mul] at hend
  rw [chunk, List.length_take, List.length_drop]
  omega

theorem length_of_mem_chunks {items part : List α} (h : part ∈ chunks size items) :
    part.length = size := by
  obtain ⟨i, hi, rfl⟩ := List.mem_map.mp h
  exact length_chunk (List.mem_range.mp hi)

/-- The first chunks are a prefix. -/
theorem flatten_chunk_range (items : List α) (n : ℕ) :
    ((List.range n).map (chunk size items)).flatten = items.take (n * size) := by
  induction n with
  | zero => simp
  | succ n ih =>
      rw [List.range_succ, List.map_append, List.flatten_append, ih, List.map_singleton,
        List.flatten_singleton, chunk, Nat.add_mul, Nat.one_mul, List.take_add]

/-- A sequence of full chunks comes back from them. -/
theorem flatten_chunks {items : List α} (h : items.length % size = 0) :
    (chunks size items).flatten = items := by
  have hlength : items.length / size * size = items.length :=
    Nat.div_mul_cancel (Nat.dvd_of_mod_eq_zero h)
  rw [chunks, flatten_chunk_range, hlength, List.take_length]

end Mordant.Foundation
