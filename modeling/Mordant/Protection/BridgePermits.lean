/-
# The permits of one preparation

`simulate` looks a preparation up, waits for the signer and for the adapter, and only then
takes the preparation away.  Calls that overlap on one preparation have all looked it up by
then.  Each of them returns a permit, and each permit lets a call of `sign` go on.
-/

import Mordant.Protection.BridgeSigning

namespace Mordant.Protection

open Foundation
open BridgeSystem (exec step_of_exec sign initial)
open Function (update update_self update_of_ne update_apply)

/-! ## Permits and preparations in a run -/

section

variable (runtime : RecordRuntime) {ε τ : Type} [DecidableEq ε] [DecidableEq τ]

/-- The event gives an object of the executor to a preparation. -/
def Issues (e : BridgeEvent ε τ) (executor : ε) (handle : ℕ) : Prop :=
  ∃ preparation state, e = .prepare executor handle preparation ∧
    preparation.result runtime.toBridgeRuntime = .ok state

/-- The event lets a call of `simulate` on the preparation return a permit. -/
def BridgeSystem.Permits (s : BridgeSystem ε τ) (e : BridgeEvent ε τ) (executor : ε)
    (handle permit : ℕ) : Prop :=
  ∃ call outside state candidate, e = .finishSimulation call outside permit ∧
    s.calls call = .simulating executor handle state ∧
    settlementGate runtime.toRuntime state = .ok () ∧
    simulateCandidate runtime.toRuntime outside state.prepared = .ok candidate

variable (events : List (BridgeEvent ε τ)) (executor : ε) (handle : ℕ)

/-- The permit was returned for the preparation in the run. -/
structure PermitAt (permit : ℕ) (before : List (BridgeEvent ε τ)) (s : BridgeSystem ε τ)
    (e : BridgeEvent ε τ) : Prop where
  happens : Happens (exec runtime) (.initial ε τ) events e before s
  permits : s.Permits runtime e executor handle permit

/-- The number is the object of one preparation. -/
def OneObject : Prop :=
  ∀ before before' s s' e e',
    Happens (exec runtime) (.initial ε τ) events e before s →
    Happens (exec runtime) (.initial ε τ) events e' before' s' →
    Issues runtime e executor handle → Issues runtime e' executor handle → before = before'

/-- At most one call of `simulate` on the preparation returns. -/
def OnePermit : Prop :=
  ∀ permit permit' before before' s s' e e',
    PermitAt runtime events executor handle permit before s e →
    PermitAt runtime events executor handle permit' before' s' e' → before = before'

/-- A call of `sign` finds a permit of the preparation, which was there ever since it was
returned. -/
structure SignsAt (before : List (BridgeEvent ε τ)) (s : BridgeSystem ε τ)
    (e : BridgeEvent ε τ) : Prop where
  happens : Happens (exec runtime) (.initial ε τ) events e before s
  permit : ∃ call permit signedAt persistedAt, e = .sign call executor permit signedAt persistedAt ∧
    ∃ earlier s₀ e₀, PermitAt runtime before executor handle permit earlier s₀ e₀ ∧
      ∀ reached s', earlier ++ [e₀] <+: reached → reached <+: before →
        run (exec runtime) (.initial ε τ) reached = .ok s' →
        (s'.executors executor).simulationStates permit ≠ none

/-- At most one call of `sign` finds a permit of the preparation, whatever comes of it. -/
def OneSignature : Prop :=
  ∀ before before' s s' e e', SignsAt runtime events executor handle before s e →
    SignsAt runtime events executor handle before' s' e' → before = before'

/-- Whenever a call of `simulate` on the preparation returns, the preparation is still
there: no other call took it away meanwhile. -/
def NotOvertaken : Prop :=
  ∀ permit before s e, PermitAt runtime events executor handle permit before s e →
    (s.executors executor).preparedStates handle ≠ none

end

/-! ## What one event does to what an executor remembers -/

section

variable {runtime : RecordRuntime} {ε τ : Type} [DecidableEq ε] [DecidableEq τ]
  {s s' : BridgeSystem ε τ} {e : BridgeEvent ε τ} {executor : ε} {handle : ℕ}
  {state : PreparedState}

/-- What an executor remembers after an event. -/
inductive MemoryStep (runtime : RecordRuntime) (s : BridgeSystem ε τ) (e : BridgeEvent ε τ)
    (executor : ε) : Executor → Prop
  | kept : MemoryStep runtime s e executor (s.executors executor)
  | issued {handle : ℕ} {state : PreparedState} (hissues : Issues runtime e executor handle)
      (hnone : (s.executors executor).preparedStates handle = none) :
      MemoryStep runtime s e executor ((s.executors executor).issue handle state)
  | branded {handle permit : ℕ} {state : SimulationState}
      (hpermits : s.Permits runtime e executor handle permit) :
      MemoryStep runtime s e executor ((s.executors executor).brand handle permit state)
  | consumed (permit : ℕ) : MemoryStep runtime s e executor ((s.executors executor).consume permit)
  | lost (hcrash : e = .crash executor) : MemoryStep runtime s e executor .fresh

omit [DecidableEq τ] in
/-- Only the executor that an event is about remembers something else after it. -/
theorem MemoryStep.remembers {other : ε} {memory : Executor}
    (hmemory : MemoryStep runtime s e other memory) :
    MemoryStep runtime s e executor ((s.remembers other memory).executors executor) := by
  show MemoryStep runtime s e executor (update s.executors other memory executor)
  rw [update_apply]
  split
  · next hsame =>
      subst hsame
      exact hmemory
  · exact .kept

theorem memory_exec (hexec : s.exec runtime e = .ok s') :
    MemoryStep runtime s e executor (s'.executors executor) := by
  cases step_of_exec hexec with
  | refused | failed | simulates | loses | links | reuses | finishes => exact .kept
  | issued hnone hstate =>
      exact MemoryStep.remembers (.issued ⟨_, _, rfl, hstate⟩ hnone)
  | permits hcall hgate hcandidate =>
      exact MemoryStep.remembers (.branded ⟨_, _, _, _, rfl, hcall, hgate, hcandidate⟩)
  | spends | publishes => exact MemoryStep.remembers (.consumed _)
  | @crashes crashed =>
      have hfresh : MemoryStep runtime s (.crash crashed) crashed .fresh := .lost rfl
      exact hfresh.remembers

/-- A preparation is remembered from when its object was issued. -/
theorem prepared_exec (hexec : s.exec runtime e = .ok s')
    (hstate : (s'.executors executor).preparedStates handle = some state) :
    (s.executors executor).preparedStates handle = some state ∨
      Issues runtime e executor handle ∧
        (s.executors executor).preparedStates handle = none := by
  have hstep : MemoryStep runtime s e executor (s'.executors executor) := memory_exec hexec
  generalize s'.executors executor = memory at hstep hstate
  cases hstep with
  | kept | consumed _ => exact .inl hstate
  | issued hissues hnone =>
      simp only [Executor.issue, update_apply] at hstate
      split at hstate
      · next hsame =>
          subst hsame
          exact .inr ⟨hissues, hnone⟩
      · exact .inl hstate
  | branded hpermits =>
      simp only [Executor.brand, update_apply] at hstate
      split at hstate
      · cases hstate
      · exact .inl hstate
  | lost hcrash => cases hstate

/-- A preparation goes when a permit is returned for it, or when the executor crashes. -/
theorem prepared_gone (hexec : s.exec runtime e = .ok s')
    (hstate : (s.executors executor).preparedStates handle = some state)
    (hgone : (s'.executors executor).preparedStates handle ≠ some state) :
    (∃ permit, s.Permits runtime e executor handle permit) ∨ e = .crash executor := by
  have hstep : MemoryStep runtime s e executor (s'.executors executor) := memory_exec hexec
  generalize s'.executors executor = memory at hstep hgone
  cases hstep with
  | kept | consumed _ => exact absurd hstate hgone
  | @issued other state' hissues hnone =>
      by_cases hsame : handle = other
      · subst hsame
        exact nomatch hstate.symm.trans hnone
      · exact absurd ((update_of_ne hsame _ _).trans hstate) hgone
  | @branded other permit _ hpermits =>
      by_cases hsame : handle = other
      · subst hsame
        exact .inl ⟨permit, hpermits⟩
      · exact absurd ((update_of_ne hsame _ _).trans hstate) hgone
  | lost hcrash => exact .inr hcrash

/-- A call of `simulate` that returns takes the preparation away. -/
theorem permits_exec {permit : ℕ} (hexec : s.exec runtime e = .ok s')
    (hpermits : s.Permits runtime e executor handle permit) :
    (s'.executors executor).preparedStates handle = none ∧
      ∃ call state, s.calls call = .simulating executor handle state ∧
        ∃ result, s'.calls call = .simulated result := by
  obtain ⟨call, outside, state, candidate, rfl, hcall, hgate, hcandidate⟩ := hpermits
  simp only [exec, hcall] at hexec
  split at hexec
  · cases hexec
  · obtain rfl := Except.ok.inj hexec
    simp only [BridgeSystem.finishSimulation, hgate, hcandidate]
    have hnone : ((update s.executors executor ((s.executors executor).brand handle permit
        ⟨state.prepared, candidate, outside.now⟩)) executor).preparedStates handle = none := by
      rw [update_self]
      exact update_self _ _ _
    exact ⟨hnone, call, state, hcall, _, update_self _ _ _⟩

/-- `sign` takes the permit it finds. -/
theorem sign_exec {call : τ} {permit : ℕ} {signedAt persistedAt : ℤ}
    (hexec : s.exec runtime (.sign call executor permit signedAt persistedAt) = .ok s') :
    (s'.executors executor).simulationStates permit = none := by
  have hconsumed : ((s.remembers executor ((s.executors executor).consume permit)).executors
      executor).simulationStates permit = none := by
    show (update s.executors executor _ executor).simulationStates permit = none
    rw [update_self]
    exact update_self _ _ _
  simp only [exec] at hexec
  split at hexec
  · obtain rfl := Except.ok.inj hexec
    rw [sign]
    split
    · next hnone => exact hnone
    · dsimp only
      split
      · exact hconsumed
      · split
        · exact hconsumed
        · exact hconsumed
  · cases hexec

omit [DecidableEq ε] in
/-- Where a call stands as `simulate` after one of the calls moved, it did before, unless
it is the one that moved. -/
theorem goes_simulating {call call' : τ} {place : BridgeCall ε}
    (hcall : update s.calls call' place call =
      .simulating executor handle state) :
    s.calls call = .simulating executor handle state ∨
      call = call' ∧ place = .simulating executor handle state := by
  rw [update_apply] at hcall
  split at hcall
  · next hsame => exact .inr ⟨hsame, hcall⟩
  · exact .inl hcall

/-- A call of `simulate` begins at its own event, where the preparation is there, and a crash
of its executor ends it. -/
theorem simulating_exec {call : τ} (hexec : s.exec runtime e = .ok s')
    (hcall : s'.calls call = .simulating executor handle state) :
    s.calls call = .simulating executor handle state ∧ e ≠ .crash executor ∨
      e = .simulate call executor handle ∧
        (s'.executors executor).preparedStates handle = some state := by
  cases step_of_exec hexec with
  | refused | issued => exact .inl ⟨hcall, by rintro ⟨⟩⟩
  | failed halive =>
      rcases goes_simulating hcall with hbefore | ⟨-, ⟨⟩⟩
      exact .inl ⟨hbefore, halive executor⟩
  | permits | spends | publishes | loses | links | reuses | finishes =>
      rcases goes_simulating hcall with hbefore | ⟨-, ⟨⟩⟩
      exact .inl ⟨hbefore, by rintro ⟨⟩⟩
  | simulates hfound =>
      rcases goes_simulating hcall with hbefore | ⟨hsame, hplace⟩
      · exact .inl ⟨hbefore, by rintro ⟨⟩⟩
      · obtain ⟨rfl, rfl, rfl⟩ := BridgeCall.simulating.inj hplace
        exact .inr ⟨hsame ▸ rfl, hfound⟩
  | @crashes crashed =>
      change (s.calls call).afterCrash crashed = _ at hcall
      cases hplace : s.calls call with
      | simulating other handle' state' =>
          rw [hplace, BridgeCall.afterCrash] at hcall
          split at hcall
          · cases hcall
          · next hother =>
              obtain ⟨rfl, rfl, rfl⟩ := BridgeCall.simulating.inj hcall
              exact .inl ⟨rfl, fun hcrash => hother (BridgeEvent.crash.inj hcrash).symm⟩
      | publishing _ _ _ | lost _ _ | returning _ _ _ =>
          rw [hplace, BridgeCall.afterCrash] at hcall
          split at hcall <;> cases hcall
      | idle | simulated _ | signed _ _ _ | failed _ =>
          simp only [hplace, BridgeCall.afterCrash, reduceCtorEq] at hcall

end

/-! ## Every run -/

section

variable {runtime : RecordRuntime} {ε τ : Type} [DecidableEq ε] [DecidableEq τ]
  {before events : List (BridgeEvent ε τ)} {s s' t : BridgeSystem ε τ} {e : BridgeEvent ε τ}
  {executor : ε} {handle permit : ℕ} {state : PreparedState}

theorem PermitAt.mono {events' : List (BridgeEvent ε τ)}
    (h : PermitAt runtime events executor handle permit before s e) (hlater : events <+: events') :
    PermitAt runtime events' executor handle permit before s e :=
  ⟨h.happens.mono hlater, h.permits⟩

/-- A preparation that is under way is still there, or a permit was returned for it. -/
theorem simulating_run {call : τ}
    (hrun : run (exec runtime) (.initial ε τ) events = .ok s)
    (hcall : s.calls call = .simulating executor handle state) :
    (s.executors executor).preparedStates handle ≠ none ∨
      ∃ permit before s₀ e, PermitAt runtime events executor handle permit before s₀ e := by
  have hkept := run_history (P := fun events (s : BridgeSystem ε τ) =>
    ∀ call state, s.calls call = .simulating executor handle state →
      (s.executors executor).preparedStates handle ≠ none ∨
        ∃ permit before s₀ e, PermitAt runtime events executor handle permit before s₀ e)
    (fun call state hcall => by simp [initial] at hcall)
    (fun before e s s' hreached ih hexec call state hcall => by
      rcases simulating_exec hexec hcall with ⟨hbefore, hcrash⟩ | ⟨-, hthere⟩
      · rcases ih call state hbefore with hthere | ⟨permit, earlier, s₀, e₀, hpermit⟩
        · obtain ⟨found, hfound⟩ := Option.ne_none_iff_exists'.1 hthere
          by_cases hgone : (s'.executors executor).preparedStates handle = some found
          · exact .inl (by simp [hgone])
          · rcases prepared_gone hexec hfound hgone with ⟨permit, hpermits⟩ | hcrashed
            · exact .inr ⟨permit, before, s, e, .last hreached, hpermits⟩
            · exact absurd hcrashed hcrash
        · exact .inr ⟨permit, earlier, s₀, e₀, hpermit.mono (List.prefix_append _ _)⟩
      · exact .inl (by simp [hthere])) hrun
  exact hkept call state hcall

/-- A preparation that is there after it was not was issued in between. -/
theorem reissued {first : List (BridgeEvent ε τ)} {s₁ : BridgeSystem ε τ}
    (hrun : run (exec runtime) (.initial ε τ) events = .ok s)
    (hfirst : first <+: events)
    (hreached : run (exec runtime) (.initial ε τ) first = .ok s₁)
    (hnone : (s₁.executors executor).preparedStates handle = none)
    (hstate : (s.executors executor).preparedStates handle = some state) :
    ∃ before s₀ e, first <+: before ∧
      Happens (exec runtime) (.initial ε τ) events e before s₀ ∧
      Issues runtime e executor handle := by
  have hissued := run_history (P := fun events (s : BridgeSystem ε τ) =>
    ∀ state, (s.executors executor).preparedStates handle = some state → first <+: events →
      ∃ before s₀ e, first <+: before ∧
        Happens (exec runtime) (.initial ε τ) events e before s₀ ∧
        Issues runtime e executor handle)
    (fun state hstate => by simp [initial, Executor.fresh] at hstate)
    (fun before e s s' hbefore ih hexec state hstate hprefix => by
      rcases List.prefix_concat_iff.mp hprefix with hsame | hearlier
      · obtain ⟨s'', hs'', hstep⟩ := run_snoc_ok_iff.mp (hsame ▸ hreached)
        obtain rfl := Except.ok.inj (hbefore.symm.trans hs'')
        obtain rfl := Except.ok.inj (hexec.symm.trans hstep)
        exact nomatch hnone.symm.trans hstate
      · rcases prepared_exec hexec hstate with hthere | ⟨hissues, -⟩
        · obtain ⟨earlier, s₀, e₀, hafter, hhappens, hissues⟩ := ih state hthere hearlier
          exact ⟨earlier, s₀, e₀, hafter, hhappens.mono (List.prefix_append _ _), hissues⟩
        · exact ⟨before, s, e, hearlier, .last hbefore, hissues⟩) hrun
  exact hissued state hstate hfirst

/-- A preparation that is remembered was issued. -/
theorem issued_of_prepared (hrun : run (exec runtime) (.initial ε τ) events = .ok s)
    (hstate : (s.executors executor).preparedStates handle = some state) :
    ∃ before s₀ e, Happens (exec runtime) (.initial ε τ) events e before s₀ ∧
      Issues runtime e executor handle := by
  obtain ⟨before, s₀, e, -, hissued⟩ := reissued hrun List.nil_prefix rfl rfl hstate
  exact ⟨before, s₀, e, hissued⟩

omit [DecidableEq ε] [DecidableEq τ] in
/-- What happened within a part of a run did not happen right after it. -/
theorem not_prefix_self {before : List (BridgeEvent ε τ)} : ¬ before ++ [e] <+: before := by
  intro hprefix
  have hlength := hprefix.length_le
  rw [List.length_append, List.length_singleton] at hlength
  omega

/-- A second permit would need the preparation to be issued a second time. -/
theorem onePermit_of_notOvertaken
    (hrun : run (exec runtime) (.initial ε τ) events = .ok t)
    (hone : OneObject runtime events executor handle)
    (hkept : NotOvertaken runtime events executor handle) :
    OnePermit runtime events executor handle := by
  have hearlier : ∀ {permit permit' before before' s s' e e'},
      PermitAt runtime events executor handle permit before s e →
      PermitAt runtime events executor handle permit' before' s' e' →
      ¬ before ++ [e] <+: before' := by
    intro permit permit' before before' s s' e e' hfirst hsecond hbefore
    obtain ⟨s₁, after, hexec, -, -⟩ := hfirst.happens.step hrun
    have hreached := run_snoc_ok_iff.mpr ⟨s, hfirst.happens.reached, hexec⟩
    obtain ⟨state, hstate⟩ := Option.ne_none_iff_exists'.1 (hkept _ _ _ _ hfirst)
    obtain ⟨state', hstate'⟩ := Option.ne_none_iff_exists'.1 (hkept _ _ _ _ hsecond)
    obtain ⟨issue, s₀, e₀, hissue, hissues⟩ := issued_of_prepared hfirst.happens.reached hstate
    obtain ⟨issue', s₀', e₀', hafter, hissue', hissues'⟩ :=
      reissued hsecond.happens.reached hbefore hreached (permits_exec hexec hfirst.permits).1
        hstate'
    have hwithin := (List.prefix_append before [e]).trans hfirst.happens.within
    have hwithin' := (List.prefix_append before' [e']).trans hsecond.happens.within
    obtain rfl := hone _ _ _ _ _ _ (hissue.mono hwithin) (hissue'.mono hwithin') hissues hissues'
    exact not_prefix_self ((hissue.within.trans (List.prefix_append before [e])).trans hafter)
  intro permit permit' before before' s s' e e' hfirst hsecond
  rcases hfirst.happens.same_or_before hsecond.happens with ⟨hsame, -⟩ | hbefore | hbefore
  · exact hsame
  · exact absurd hbefore (hearlier hfirst hsecond)
  · exact absurd hbefore (hearlier hsecond hfirst)

/-- A permit that was taken is not found again. -/
theorem oneSignature_of_onePermit
    (hrun : run (exec runtime) (.initial ε τ) events = .ok t)
    (hpermit : OnePermit runtime events executor handle) :
    OneSignature runtime events executor handle := by
  have hearlier : ∀ {before before' s s' e e'},
      SignsAt runtime events executor handle before s e →
      SignsAt runtime events executor handle before' s' e' → ¬ before ++ [e] <+: before' := by
    intro before before' s s' e e' hfirst hsecond hbefore
    obtain ⟨call, permit, signedAt, persistedAt, rfl, earlier, s₀, e₀, hat, -⟩ := hfirst.permit
    obtain ⟨_, permit', _, _, -, earlier', s₀', e₀', hat', hthere⟩ := hsecond.permit
    have hwithin := (List.prefix_append before [_]).trans hfirst.happens.within
    have hwithin' := (List.prefix_append before' [_]).trans hsecond.happens.within
    obtain rfl := hpermit _ _ _ _ _ _ _ _ (hat.mono hwithin) (hat'.mono hwithin')
    -- The two permits are one: they are returned by the same event of the run.
    have hprefix := hat.happens.within.trans ((List.prefix_append before [_]).trans hbefore)
    have hlength : (earlier ++ [e₀']).length = (earlier ++ [e₀]).length := by simp
    have hsame := (List.prefix_of_prefix_length_le hat'.happens.within hprefix
      (Nat.le_of_eq hlength)).eq_of_length hlength
    obtain rfl : e₀' = e₀ := List.singleton_inj.mp (List.append_cancel_left hsame)
    obtain ⟨_, _, _, _, hfinish, -⟩ := hat.permits
    obtain ⟨_, _, _, _, hfinish', -⟩ := hat'.permits
    obtain ⟨-, -, rfl⟩ := BridgeEvent.finishSimulation.inj (hfinish.symm.trans hfinish')
    obtain ⟨s₁, after, hexec, -, -⟩ := hfirst.happens.step hrun
    have hreached := run_snoc_ok_iff.mpr ⟨s, hfirst.happens.reached, hexec⟩
    exact hthere _ _ (hat.happens.within.trans (List.prefix_append before _)) hbefore hreached
      (sign_exec hexec)
  intro before before' s s' e e' hfirst hsecond
  rcases hfirst.happens.same_or_before hsecond.happens with ⟨hsame, -⟩ | hbefore | hbefore
  · exact hsame
  · exact absurd hbefore (hearlier hfirst hsecond)
  · exact absurd hbefore (hearlier hsecond hfirst)

/-- Where a call returns after its preparation went, another one returned before. -/
theorem notOvertaken_of_onePermit (hpermit : OnePermit runtime events executor handle) :
    NotOvertaken runtime events executor handle := by
  intro permit before s e hat
  obtain ⟨call, outside, state, candidate, -, hcall, -⟩ := hat.permits
  rcases simulating_run hat.happens.reached hcall with hthere | ⟨permit', earlier, s₀, e₀, hat'⟩
  · exact hthere
  · have hwithin := (List.prefix_append before [e]).trans hat.happens.within
    obtain rfl := hpermit _ _ _ _ _ _ _ _ (hat'.mono hwithin) hat
    exact absurd hat'.happens.within not_prefix_self

/-- **One permit of a preparation.** In every run, whatever the executors do and however
their calls interleave: at most one call of `simulate` on a preparation returns, and at most
one call of `sign` finds what it returned, exactly when no call of `simulate` returns after
another took the preparation away. -/
theorem one_permit_iff (hrun : run (exec runtime) (.initial ε τ) events = .ok t)
    (hone : OneObject runtime events executor handle) :
    OnePermit runtime events executor handle ∧ OneSignature runtime events executor handle ↔
      NotOvertaken runtime events executor handle := by
  constructor
  · intro honce
    exact notOvertaken_of_onePermit honce.1
  · intro hkept
    have hpermit := onePermit_of_notOvertaken hrun hone hkept
    exact ⟨hpermit, oneSignature_of_onePermit hrun hpermit⟩

end

/-! ## Two calls that overlap -/

namespace Sample

/-- Where only the first event of a run is a preparation, the number is one object. -/
theorem oneObject_cons {first : BridgeEvent ℕ ℕ} {rest : List (BridgeEvent ℕ ℕ)}
    (hrest : ∀ e ∈ rest, ∀ preparation, e ≠ .prepare 0 0 preparation) :
    OneObject recordRuntime (first :: rest) 0 0 := by
  have hhead : ∀ {before s e}, Happens (exec recordRuntime) (.initial ℕ ℕ)
      (first :: rest) e before s → Issues recordRuntime e 0 0 → before = [] := by
    intro before s e hhappens hissues
    obtain ⟨preparation, -, rfl, -⟩ := hissues
    cases before with
    | nil => rfl
    | cons other before =>
        have hwithin := (List.cons_prefix_cons.mp hhappens.within).2
        exact absurd rfl (hrest _ (hwithin.subset (by simp)) preparation)
  intro before before' s s' e e' hhappens hhappens' hissues hissues'
  rw [hhead hhappens hissues, hhead hhappens' hissues']

/-- Two calls of `simulate` that look the preparation up before either of them returns, and
a call of `sign` for each. -/
def overlapping : List (BridgeEvent ℕ ℕ) :=
  [.prepare 0 0 preparation, .simulate 0 0 0, .simulate 1 0 0,
    .finishSimulation 0 bridgeOutside 0, .finishSimulation 1 bridgeOutside 1,
    .sign 2 0 0 1030 1031, .link 2, .finish 2, .sign 3 0 1 1030 1032, .link 3, .reuse 3, .finish 3]

/-- Whether the call returned a permit. -/
def simulatedBy (call : ℕ) (s : BridgeSystem ℕ ℕ) : Bool :=
  match s.calls call with
  | .simulated _ => true
  | _ => false

/-- Whether the call returned a signature. -/
def signedBy (call : ℕ) (s : BridgeSystem ℕ ℕ) : Bool :=
  match s.calls call with
  | .signed _ _ _ => true
  | _ => false

/-- Whether the call would return a permit for the preparation now. -/
def permitsNow (call : ℕ) (s : BridgeSystem ℕ ℕ) : Bool :=
  match s.calls call with
  | .simulating executor handle state =>
    executor = 0 && handle = 0 &&
      (settlementGate recordRuntime.toRuntime state).toOption.any (fun _ => true) &&
      (simulateCandidate recordRuntime.toRuntime bridgeOutside state.prepared).toOption.any
        fun _ => true
  | _ => false

theorem permits_of_now {call permit : ℕ} {s : BridgeSystem ℕ ℕ} (hnow : permitsNow call s = true) :
    s.Permits recordRuntime (.finishSimulation call bridgeOutside permit) 0 0 permit := by
  unfold permitsNow at hnow
  split at hnow
  · next executor handle state hcall =>
      simp only [Bool.and_eq_true, decide_eq_true_eq] at hnow
      obtain ⟨⟨⟨rfl, rfl⟩, hgate⟩, hcandidate⟩ := hnow
      obtain ⟨u, hgate, -⟩ := any_ok_iff.1 hgate
      obtain ⟨candidate, hcandidate, -⟩ := any_ok_iff.1 hcandidate
      exact ⟨call, bridgeOutside, state, candidate, rfl, hcall, hgate, hcandidate⟩
  · exact nomatch hnow

end Sample

theorem one_permit_sample :
    ∃ s, run (exec Sample.recordRuntime) (.initial ℕ ℕ) Sample.signing = .ok s ∧
      (OnePermit Sample.recordRuntime Sample.signing 0 0 ∧
          OneSignature Sample.recordRuntime Sample.signing 0 0 ↔
        NotOvertaken Sample.recordRuntime Sample.signing 0 0) := by
  obtain ⟨s, hrun, -⟩ := any_ok_iff.mp
    (show (run (exec Sample.recordRuntime) (.initial ℕ ℕ)
      Sample.signing).toOption.any (Sample.publishedBy 1) = true by decide +kernel)
  exact ⟨s, hrun, one_permit_iff hrun (Sample.oneObject_cons (by simp))⟩

/-- Both calls of `simulate` return a permit for the one preparation, and both permits lead
`sign` to a signature. -/
theorem overlapping_permits :
    ∃ s, run (exec Sample.recordRuntime) (.initial ℕ ℕ) Sample.overlapping = .ok s ∧
      OneObject Sample.recordRuntime Sample.overlapping 0 0 ∧
      (Sample.simulatedBy 0 s && Sample.simulatedBy 1 s && Sample.signedBy 2 s &&
        Sample.signedBy 3 s) = true ∧
      ¬ OnePermit Sample.recordRuntime Sample.overlapping 0 0 := by
  obtain ⟨s, hrun, hends⟩ := any_ok_iff.mp
    (show (run (exec Sample.recordRuntime) (.initial ℕ ℕ)
      Sample.overlapping).toOption.any (fun s => Sample.simulatedBy 0 s && Sample.simulatedBy 1 s &&
        Sample.signedBy 2 s && Sample.signedBy 3 s) = true by decide +kernel)
  obtain ⟨s₃, hrun₃, hnow₃⟩ := any_ok_iff.mp
    (show (run (exec Sample.recordRuntime) (.initial ℕ ℕ)
      (Sample.overlapping.take 3)).toOption.any (Sample.permitsNow 0) = true by decide +kernel)
  obtain ⟨s₄, hrun₄, hnow₄⟩ := any_ok_iff.mp
    (show (run (exec Sample.recordRuntime) (.initial ℕ ℕ)
      (Sample.overlapping.take 4)).toOption.any (Sample.permitsNow 1) = true by decide +kernel)
  refine ⟨s, hrun, Sample.oneObject_cons (by simp), hends, fun honce => ?_⟩
  have hsame := honce 0 1 _ _ s₃ s₄ _ _
    ⟨⟨(Sample.overlapping.take_prefix 4 : Sample.overlapping.take 3 ++ [_] <+: _), hrun₃⟩,
      Sample.permits_of_now hnow₃⟩
    ⟨⟨(Sample.overlapping.take_prefix 5 : Sample.overlapping.take 4 ++ [_] <+: _), hrun₄⟩,
      Sample.permits_of_now hnow₄⟩
  exact absurd (congrArg List.length hsame) (by decide)

end Mordant.Protection
