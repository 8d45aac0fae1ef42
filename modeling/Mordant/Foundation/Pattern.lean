/-
# Anchored patterns

An anchored pattern is a sequence of character classes, each repeated a fixed number
of times or at least once, and it accepts a text that splits into one stretch for
each class.  Acceptance is decided by trying every split; the rules below read off
the split where a class can only be matched in one way.
-/

import Mathlib.Data.List.Basic

namespace Mordant.Foundation

/-- How often a class is repeated. -/
inductive Repetition
  /-- `{n}` -/
  | times (n : ℕ)
  /-- `+` -/
  | oneOrMore

def Repetition.allows : Repetition → ℕ → Bool
  | times n, count => count = n
  | oneOrMore, count => 0 < count

/-- A class and its repetition. -/
structure Piece (α : Type) where
  members : α → Bool
  repetition : Repetition

/-- Whether a sequence of pieces accepts the whole text. -/
def accepts {α : Type} : List (Piece α) → List α → Bool
  | [], text => text.isEmpty
  | piece :: pieces, text => (List.range (text.length + 1)).any fun count =>
      piece.repetition.allows count && (text.take count).all piece.members &&
        accepts pieces (text.drop count)

section

variable {α : Type} {members : α → Bool} {pieces : List (Piece α)} {text : List α}

theorem accepts_nil_iff : accepts [] text = true ↔ text = [] := List.isEmpty_iff

/-- A piece takes a stretch off the front and leaves the rest to the others. -/
theorem accepts_cons_iff {piece : Piece α} :
    accepts (piece :: pieces) text = true ↔
      ∃ front rest, text = front ++ rest ∧ piece.repetition.allows front.length = true ∧
        (∀ a ∈ front, piece.members a = true) ∧ accepts pieces rest = true := by
  simp only [accepts, List.any_eq_true, List.mem_range, Bool.and_eq_true, List.all_eq_true]
  constructor
  · rintro ⟨count, hcount, ⟨hallows, hmembers⟩, hrest⟩
    refine ⟨text.take count, text.drop count, (List.take_append_drop _ _).symm, ?_, hmembers, hrest⟩
    rwa [List.length_take_of_le (by omega)]
  · rintro ⟨front, rest, rfl, hallows, hmembers, hrest⟩
    refine ⟨front.length, by rw [List.length_append]; omega, ⟨hallows, ?_⟩, ?_⟩
    · rwa [List.take_left]
    · rwa [List.drop_left]

/-- A fixed number of repetitions takes exactly that much. -/
theorem accepts_times_iff {n : ℕ} :
    accepts (⟨members, .times n⟩ :: pieces) text = true ↔
      n ≤ text.length ∧ (∀ a ∈ text.take n, members a = true) ∧
        accepts pieces (text.drop n) = true := by
  rw [accepts_cons_iff]
  constructor
  · rintro ⟨front, rest, rfl, hallows, hmembers, hrest⟩
    obtain rfl : front.length = n := of_decide_eq_true hallows
    refine ⟨by simp, ?_, ?_⟩
    · rwa [List.take_left]
    · rwa [List.drop_left]
  · rintro ⟨hlength, hmembers, hrest⟩
    refine ⟨text.take n, text.drop n, (List.take_append_drop _ _).symm, ?_, hmembers, hrest⟩
    exact decide_eq_true (List.length_take_of_le hlength)

/-- A last class that repeats takes everything that is left. -/
theorem accepts_oneOrMore_iff :
    accepts [⟨members, .oneOrMore⟩] text = true ↔ text ≠ [] ∧ ∀ a ∈ text, members a = true := by
  rw [accepts_cons_iff]
  constructor
  · rintro ⟨front, rest, rfl, hallows, hmembers, hrest⟩
    rw [accepts_nil_iff] at hrest
    subst hrest
    rw [List.append_nil]
    exact ⟨List.length_pos_iff.mp (of_decide_eq_true hallows), hmembers⟩
  · rintro ⟨hne, hmembers⟩
    exact ⟨text, [], (List.append_nil _).symm, decide_eq_true (List.length_pos_iff.mpr hne),
      hmembers, accepts_nil_iff.mpr rfl⟩

end

end Mordant.Foundation
