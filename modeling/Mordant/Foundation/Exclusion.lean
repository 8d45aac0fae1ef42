/-
# Mutual exclusion by a created file, and tables written once

A lock that a party takes by creating a file and gives back by removing it.  The
file does not say who created it; that only its creator is in the section it guards
is an invariant of the parties' places.  What the section protects is typically a
table no entry of which is ever replaced.
-/

import Mathlib.Tactic.Common

namespace Mordant.Foundation

open Function (update update_self update_of_ne)

universe u v w

section

variable {ι : Type u} {π : Type v}

/-- The lock exists exactly while some party is inside, and at most one is. -/
structure Exclusive (inside : π → Prop) (locked : Bool) (place : ι → π) : Prop where
  alone : ∀ {i j}, inside (place i) → inside (place j) → i = j
  held : locked = true ↔ ∃ i, inside (place i)

namespace Exclusive

variable [DecidableEq ι] {inside : π → Prop} {locked : Bool} {place : ι → π} {i j : ι} {next : π}

/-- A party that creates the lock enters. -/
theorem enter (h : Exclusive inside false place) (hnext : inside next) :
    Exclusive inside true (update place i next) := by
  have hempty : ∀ j, ¬ inside (place j) := by
    intro j hinside
    exact nomatch h.held.mpr ⟨j, hinside⟩
  have honly : ∀ j, inside (update place i next j) → j = i := by
    intro j hinside
    by_contra hother
    rw [update_of_ne hother] at hinside
    exact hempty j hinside
  constructor
  · intro j k hj hk
    exact (honly j hj).trans (honly k hk).symm
  · exact ⟨fun _ => ⟨i, by rwa [update_self]⟩, fun _ => rfl⟩

/-- The party inside removes the lock and leaves. -/
theorem leave (h : Exclusive inside locked place) (hinside : inside (place i))
    (hnext : ¬ inside next) : Exclusive inside false (update place i next) := by
  have hempty : ∀ j, ¬ inside (update place i next j) := by
    intro j hj
    by_cases hsame : j = i
    · subst hsame
      rw [update_self] at hj
      exact hnext hj
    · rw [update_of_ne hsame] at hj
      exact hsame (h.alone hj hinside)
  constructor
  · intro j k hj _
    exact absurd hj (hempty j)
  · constructor
    · intro hlocked
      exact absurd hlocked Bool.false_ne_true
    · rintro ⟨j, hj⟩
      exact absurd hj (hempty j)

/-- A party that moves without passing the lock leaves it as it is. -/
theorem move (h : Exclusive inside locked place) (hsame : inside next ↔ inside (place i)) :
    Exclusive inside locked (update place i next) := by
  have hiff : ∀ j, inside (update place i next j) ↔ inside (place j) := by
    intro j
    by_cases hji : j = i
    · subst hji
      rwa [update_self]
    · rw [update_of_ne hji]
  constructor
  · intro j k hj hk
    exact h.alone ((hiff j).mp hj) ((hiff k).mp hk)
  · rw [h.held]
    constructor
    · rintro ⟨j, hj⟩
      exact ⟨j, (hiff j).mpr hj⟩
    · rintro ⟨j, hj⟩
      exact ⟨j, (hiff j).mp hj⟩

omit [DecidableEq ι] in
/-- While a party is inside, no other is. -/
theorem outside (h : Exclusive inside locked place) (hinside : inside (place i)) (hother : j ≠ i) :
    ¬ inside (place j) :=
  fun hj => hother (h.alone hj hinside)

end Exclusive

end

section

variable {κ : Type u} {α : Type w}

/-- Every entry of the old table is in the new one. -/
def Extends (old new : κ → Option α) : Prop := ∀ key a, old key = some a → new key = some a

theorem Extends.refl (table : κ → Option α) : Extends table table := fun _ _ h => h

theorem Extends.trans {first second third : κ → Option α} (h : Extends first second)
    (h' : Extends second third) : Extends first third :=
  fun key a hentry => h' key a (h key a hentry)

theorem Extends.of_eq {old new : κ → Option α} (h : new = old) : Extends old new := by
  subst h
  exact Extends.refl _

/-- An entry may be filled in where there is none. -/
theorem Extends.update [DecidableEq κ] {table : κ → Option α} {key : κ} {a : α}
    (h : table key = none) : Extends table (update table key (some a)) := by
  intro other b hother
  have hne : other ≠ key := by
    rintro rfl
    exact nomatch h.symm.trans hother
  rw [update_of_ne hne, hother]

end

end Mordant.Foundation
