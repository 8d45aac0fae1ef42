/-
# What has happened in a run

An event happens in a run at the end of some prefix of it, in the state that prefix
leads to.  What has happened stays so however the run continues, and two happenings
are the same one or happen one after the other.
-/

import Mordant.Foundation.Call

namespace Mordant.Foundation

section

variable {σ ι ε : Type} {exec : σ → ι → Except ε σ} {start : σ}
  {events later before before' : List ι} {e e' : ι} {s s' t : σ}

/-- The event happened after `before`, in the state `s`. -/
structure Happens (exec : σ → ι → Except ε σ) (start : σ) (events : List ι) (e : ι)
    (before : List ι) (s : σ) : Prop where
  within : before ++ [e] <+: events
  reached : run exec start before = .ok s

namespace Happens

/-- The last event of a run happened. -/
theorem last (h : run exec start before = .ok s) :
    Happens exec start (before ++ [e]) e before s :=
  ⟨List.prefix_rfl, h⟩

/-- What has happened stays so. -/
theorem mono (h : Happens exec start events e before s) (hlater : events <+: later) :
    Happens exec start later e before s :=
  ⟨h.within.trans hlater, h.reached⟩

/-- A run that has ended went through what happened in it. -/
theorem step (h : Happens exec start events e before s)
    (hrun : run exec start events = .ok t) :
    ∃ s' after, exec s e = .ok s' ∧ before ++ [e] ++ after = events ∧
      run exec s' after = .ok t := by
  obtain ⟨after, rfl⟩ := h.within
  obtain ⟨s', hstep, hafter⟩ := run_append_ok_iff.mp hrun
  obtain ⟨s'', hbefore, hexec⟩ := run_snoc_ok_iff.mp hstep
  obtain rfl : s'' = s := Except.ok.inj (hbefore.symm.trans h.reached)
  exact ⟨s', after, hexec, rfl, hafter⟩

/-- Of two happenings in a run, one is the other or comes before it. -/
theorem same_or_before (h : Happens exec start events e before s)
    (h' : Happens exec start events e' before' s') :
    before = before' ∧ e = e' ∨ before ++ [e] <+: before' ∨ before' ++ [e'] <+: before := by
  rcases List.prefix_or_prefix_of_prefix h.within h'.within with hprefix | hprefix
  · rcases List.prefix_concat_iff.mp hprefix with hsame | hearlier
    · obtain ⟨hbefore, hevent⟩ := List.append_inj' hsame rfl
      exact .inl ⟨hbefore, List.singleton_inj.mp hevent⟩
    · exact .inr (.inl hearlier)
  · rcases List.prefix_concat_iff.mp hprefix with hsame | hearlier
    · obtain ⟨hbefore, hevent⟩ := List.append_inj' hsame rfl
      exact .inl ⟨hbefore.symm, (List.singleton_inj.mp hevent).symm⟩
    · exact .inr (.inr hearlier)

end Happens

end

end Mordant.Foundation
