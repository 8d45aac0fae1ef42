/-
# Marks that are set once

A program guards against replay with a table of marks: whatever uses a key finds it
unmarked and marks it, and nothing takes a mark away.  Then the keys that a whole run
used, one event after another, are all different.
-/

import Mathlib.Data.List.Nodup
import Mordant.Foundation.Call

namespace Mordant.Foundation

universe u v

variable {κ : Type u}

/-- The keys are different and were not marked, they are marked now, and no mark is gone. -/
structure Consumes (before after : κ → Prop) (keys : List κ) : Prop where
  nodup : keys.Nodup
  fresh : ∀ key ∈ keys, ¬ before key
  marks : ∀ key ∈ keys, after key
  kept : ∀ key, before key → after key

namespace Consumes

variable {first second third : κ → Prop} {keys keys' : List κ} {key : κ}

/-- Using nothing. -/
theorem none (h : ∀ key, first key → second key) : Consumes first second [] where
  nodup := List.nodup_nil
  fresh := fun _ hmem => nomatch hmem
  marks := fun _ hmem => nomatch hmem
  kept := h

theorem refl (table : κ → Prop) : Consumes table table [] := none fun _ h => h

/-- Using keys and then others. -/
theorem trans (h : Consumes first second keys) (h' : Consumes second third keys') :
    Consumes first third (keys ++ keys') where
  nodup := by
    apply List.nodup_append.mpr
    refine ⟨h.nodup, h'.nodup, ?_⟩
    rintro key hkey _ hkey' rfl
    exact h'.fresh key hkey' (h.marks key hkey)
  fresh key hmem := by
    rcases List.mem_append.mp hmem with hkey | hkey
    · exact h.fresh key hkey
    · exact fun hmarked => h'.fresh key hkey (h.kept key hmarked)
  marks key hmem := by
    rcases List.mem_append.mp hmem with hkey | hkey
    · exact h'.kept key (h.marks key hkey)
    · exact h'.marks key hkey
  kept key hmarked := h'.kept key (h.kept key hmarked)

/-- One key, which is all that is new in the table. -/
theorem insert (hfresh : ¬ first key) (h : ∀ k, second k ↔ k = key ∨ first k) :
    Consumes first second [key] where
  nodup := List.nodup_singleton key
  fresh k hmem := by
    obtain rfl := List.mem_singleton.mp hmem
    exact hfresh
  marks k hmem := (h k).mpr (.inl (List.mem_singleton.mp hmem))
  kept k hmarked := (h k).mpr (.inr hmarked)

/-- One key of a table of flags. -/
theorem update [DecidableEq κ] {table : κ → Bool} (h : ¬ table key = true) :
    Consumes (fun k => table k = true) (fun k => Function.update table key true k = true)
      [key] := by
  apply insert
  case hfresh => exact h
  case h =>
    intro k
    by_cases hsame : k = key
    · simp [hsame]
    · simp [hsame]

end Consumes

section

variable {σ ι : Type} {ε : Type v} {exec : σ → ι → Except ε σ} {invariant : σ → Prop}
  {table : σ → κ → Prop} {keys : ι → List κ} {s t : σ} {events : List ι}

/-- **Run.** Where each event uses its keys, a run uses all of them, and no key twice. -/
theorem run_consumes
    (hstep : ∀ s e s', invariant s → exec s e = .ok s' →
      invariant s' ∧ Consumes (table s) (table s') (keys e))
    (hstart : invariant s) (hrun : run exec s events = .ok t) :
    Consumes (table s) (table t) (events.flatMap keys) := by
  induction events generalizing s with
  | nil =>
      obtain rfl := Except.ok.inj hrun
      exact .refl _
  | cons e events ih =>
      obtain ⟨s', hexec, hrest⟩ := run_cons_ok_iff.mp hrun
      obtain ⟨hnext, hused⟩ := hstep _ _ _ hstart hexec
      exact hused.trans (ih hnext hrest)

end

end Mordant.Foundation
