/-
# Chronicles

A chronicle lists what happened, newest first.  Each entry is justified by the entries
before it, and an entry may claim a name that no other entry claims.
-/

import Mathlib.Data.List.Nodup

namespace Mordant.Foundation

variable {α κ : Type}

/-- Every entry is justified by the earlier ones. -/
def Chronicle (justified : List α → α → Prop) : List α → Prop
  | [] => True
  | entry :: earlier => justified earlier entry ∧ Chronicle justified earlier

section

variable {justified : List α → α → Prop} {entries later earlier : List α} {entry : α}

/-- An entry was justified when it was made. -/
theorem Chronicle.of_split (h : Chronicle justified (later ++ entry :: earlier)) :
    justified earlier entry := by
  induction later with
  | nil => exact h.1
  | cons _ later ih => exact ih h.2

/-- What was written before an entry is a chronicle too. -/
theorem Chronicle.of_later (h : Chronicle justified (later ++ entry :: earlier)) :
    Chronicle justified earlier := by
  induction later with
  | nil => exact h.2
  | cons _ later ih => exact ih h.2

/-- Where justifications last, an entry is justified by the whole chronicle. -/
theorem Chronicle.of_mem (h : Chronicle justified entries)
    (hmono : ∀ {earlier entries entry}, earlier ⊆ entries → justified earlier entry →
      justified entries entry)
    (hentry : entry ∈ entries) : justified entries entry := by
  obtain ⟨later, earlier, rfl⟩ := List.append_of_mem hentry
  exact hmono (List.subset_append_of_subset_right _ (List.subset_cons_self _ _)) h.of_split

end

/-- No name is claimed twice. -/
def ClaimedOnce (claim : α → Option κ) (entries : List α) : Prop :=
  (entries.filterMap claim).Nodup

section

variable {claim : α → Option κ} {entries : List α} {entry entry' : α} {name : κ}

/-- A new entry claims a name that was free, if any. -/
theorem ClaimedOnce.cons (h : ClaimedOnce claim entries)
    (hfree : ∀ name, claim entry = some name → ∀ other ∈ entries, claim other ≠ some name) :
    ClaimedOnce claim (entry :: entries) := by
  cases hclaim : claim entry with
  | none =>
      rw [ClaimedOnce, List.filterMap_cons_none hclaim]
      exact h
  | some name =>
      rw [ClaimedOnce, List.filterMap_cons_some hclaim, List.nodup_cons]
      refine ⟨fun hmem => ?_, h⟩
      obtain ⟨other, hother, hsame⟩ := List.mem_filterMap.mp hmem
      exact hfree name hclaim other hother hsame

theorem ClaimedOnce.sublist {entries' : List α} (h : ClaimedOnce claim entries)
    (hsub : entries'.Sublist entries) : ClaimedOnce claim entries' :=
  List.Nodup.sublist (hsub.filterMap claim) h

/-- Two entries that claim one name are the same. -/
theorem ClaimedOnce.eq (h : ClaimedOnce claim entries) (hentry : entry ∈ entries)
    (hentry' : entry' ∈ entries) (hclaim : claim entry = some name)
    (hclaim' : claim entry' = some name) : entry = entry' := by
  induction entries with
  | nil => exact nomatch hentry
  | cons first rest ih =>
      have hlast : ClaimedOnce claim rest := h.sublist (List.sublist_cons_self _ _)
      -- the first entry's name is not claimed by the rest
      have hfirst {other : α} (hother : other ∈ rest) (hname : claim first = some name)
          (hsame : claim other = some name) : False := by
        rw [ClaimedOnce, List.filterMap_cons_some hname] at h
        exact h.notMem (List.mem_filterMap.mpr ⟨other, hother, hsame⟩)
      rcases List.mem_cons.mp hentry with rfl | hmem
      · rcases List.mem_cons.mp hentry' with rfl | hmem'
        · rfl
        · exact (hfirst hmem' hclaim hclaim').elim
      · rcases List.mem_cons.mp hentry' with rfl | hmem'
        · exact (hfirst hmem hclaim' hclaim).elim
        · exact ih hlast hmem hmem'

/-- At most one entry claims a name. -/
theorem ClaimedOnce.length_filter_le [DecidableEq κ] (h : ClaimedOnce claim entries) (name : κ) :
    (entries.filter fun entry => claim entry = some name).length ≤ 1 := by
  have hcount := List.nodup_iff_count_le_one.mp h name
  rw [List.count_eq_countP, List.countP_filterMap] at hcount
  rw [← List.countP_eq_length_filter]
  refine Nat.le_trans (List.countP_mono_left fun entry _ hentry => ?_) hcount
  rw [of_decide_eq_true hentry]
  exact beq_self_eq_true _

/-- Where every claim of one kind is a claim of another, claims of the first kind are made
once if those of the second are. -/
theorem ClaimedOnce.of_claim {ν : Type} {claim' : α → Option ν} {rename : ν → κ}
    (h : ClaimedOnce claim entries)
    (hclaim : ∀ {entry name}, claim' entry = some name → claim entry = some (rename name)) :
    ClaimedOnce claim' entries := by
  induction entries with
  | nil => exact List.nodup_nil
  | cons first rest ih =>
      have hlast : ClaimedOnce claim rest := h.sublist (List.sublist_cons_self _ _)
      refine (ih hlast).cons fun name hname other hother hsame => ?_
      have hnodup := h
      rw [ClaimedOnce, List.filterMap_cons_some (hclaim hname), List.nodup_cons] at hnodup
      exact hnodup.1 (List.mem_filterMap.mpr ⟨other, hother, hclaim hsame⟩)

end

end Mordant.Foundation
