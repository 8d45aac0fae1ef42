/-
# Append-or-overwrite checkpoint lists

A quantity that changes at numbered instants is stored as the list of its
changes.  Writing twice at one instant overwrites the last entry, writing at a
later instant appends, and an instant at which nothing changed leaves a gap.
Reading the past is a binary search for the last entry that is not later than
the queried instant.

`Records list now history` says that the list answers every query up to `now`
with the value `history` had at that instant.  Three rules maintain it: a write
at a new instant, a second write at the same instant, and an instant that
passes without a write.
-/

import Mathlib.Data.List.GetD
import Mathlib.Order.Nat
import Mathlib.Tactic.Common

namespace Mordant.Foundation

open Function (update update_self update_of_ne)

/-- A value together with the instant it took effect. -/
structure Checkpoint where
  sequence : ℕ
  balance : ℕ
  deriving DecidableEq, Repr, Inhabited

/-- First index in `[low, high)` whose predicate holds, or `high`. The fuel
bounds the number of halvings; `high - low` is always enough. -/
def bisect (p : ℕ → Bool) : ℕ → ℕ → ℕ → ℕ
  | 0, _, high => high
  | fuel + 1, low, high =>
    if low < high then
      let mid := (low + high) / 2
      if p mid then bisect p fuel low mid else bisect p fuel (mid + 1) high
    else high

/-- On a monotone predicate the search returns the point where it turns true. -/
theorem bisect_spec (p : ℕ → Bool) (size : ℕ)
    (hmono : ∀ i j, i ≤ j → j < size → p i = true → p j = true) :
    ∀ fuel low high, high - low ≤ fuel → low ≤ high → high ≤ size →
      (∀ i < low, p i = false) → (∀ i, high ≤ i → i < size → p i = true) →
      bisect p fuel low high ≤ size ∧
        (∀ i < bisect p fuel low high, p i = false) ∧
        (∀ i, bisect p fuel low high ≤ i → i < size → p i = true) := by
  intro fuel
  induction fuel with
  | zero =>
      intro low high hfuel hle hsize hlow hhigh
      obtain rfl : low = high := by omega
      exact ⟨hsize, hlow, hhigh⟩
  | succ fuel ih =>
      intro low high hfuel hle hsize hlow hhigh
      rw [bisect]
      by_cases hlt : low < high
      · rw [if_pos hlt]
        -- both halves are strictly shorter because `low ≤ mid < high`
        have hmid : low ≤ (low + high) / 2 ∧ (low + high) / 2 < high := by omega
        dsimp only
        by_cases hp : p ((low + high) / 2) = true
        · rw [if_pos hp]
          refine ih low _ (by omega) hmid.1 (by omega) hlow fun i hi hi' => ?_
          exact hmono _ i hi hi' hp
        · rw [if_neg hp]
          refine ih _ high (by omega) (by omega) hsize (fun i hi => ?_) hhigh
          by_contra hpi
          exact hp (hmono i _ (by omega) (by omega) (by simpa using hpi))
      · rw [if_neg hlt]
        obtain rfl : low = high := by omega
        exact ⟨hsize, hlow, hhigh⟩

/-- Write `value` at instant `sequence`: overwrite an entry made at the same
instant, append otherwise. -/
def writeCheckpoint (checkpoints : List Checkpoint) (sequence value : ℕ) : List Checkpoint :=
  match checkpoints.getLast? with
  | some last =>
    if last.sequence = sequence then checkpoints.dropLast ++ [⟨sequence, value⟩]
    else checkpoints ++ [⟨sequence, value⟩]
  | none => checkpoints ++ [⟨sequence, value⟩]

/-- Number of entries that are not later than the queried instant, found by
binary search for the first later one. -/
def cutAt (checkpoints : List Checkpoint) (atSequence : ℕ) : ℕ :=
  bisect (fun i => decide (atSequence < (checkpoints.getD i default).sequence))
    checkpoints.length 0 checkpoints.length

/-- The value in force at an instant: the last entry that is not later. -/
def lookup (checkpoints : List Checkpoint) (atSequence : ℕ) : ℕ :=
  let high := cutAt checkpoints atSequence
  if high = 0 then 0 else (checkpoints.getD (high - 1) default).balance

/-- Entries are in strictly increasing order of their instants. -/
def StrictlySorted (checkpoints : List Checkpoint) : Prop :=
  checkpoints.Pairwise fun first second => first.sequence < second.sequence

/-- `cut` splits the list into the entries up to an instant and the later ones. -/
structure IsCut (checkpoints : List Checkpoint) (atSequence cut : ℕ) : Prop where
  le_length : cut ≤ checkpoints.length
  before : ∀ i < cut, (checkpoints.getD i default).sequence ≤ atSequence
  after : ∀ i, cut ≤ i → i < checkpoints.length →
    atSequence < (checkpoints.getD i default).sequence

variable {checkpoints : List Checkpoint} {history : ℕ → ℕ}

theorem StrictlySorted.lt (hsorted : StrictlySorted checkpoints) {i j : ℕ} (hij : i < j)
    (hj : j < checkpoints.length) :
    (checkpoints.getD i default).sequence < (checkpoints.getD j default).sequence := by
  have hi : i < checkpoints.length := hij.trans hj
  rw [List.getD_eq_getElem _ _ hi, List.getD_eq_getElem _ _ hj]
  exact List.pairwise_iff_getElem.mp hsorted i j hi hj hij

/-- The binary search finds the split point of a sorted list. -/
theorem StrictlySorted.isCut (hsorted : StrictlySorted checkpoints) (atSequence : ℕ) :
    IsCut checkpoints atSequence (cutAt checkpoints atSequence) := by
  obtain ⟨hle, hlow, hhigh⟩ := bisect_spec
    (fun i => decide (atSequence < (checkpoints.getD i default).sequence)) checkpoints.length
    (fun i j hij hj hi => by
      rcases hij.eq_or_lt with rfl | hlt
      · exact hi
      · exact decide_eq_true ((of_decide_eq_true hi).trans (hsorted.lt hlt hj)))
    checkpoints.length 0 checkpoints.length (by omega) (Nat.zero_le _) le_rfl
    (fun i hi => absurd hi (Nat.not_lt_zero i)) (fun i hi hi' => absurd hi' (by omega))
  exact ⟨hle, fun i hi => not_lt.mp (of_decide_eq_false (hlow i hi)),
    fun i hi hi' => of_decide_eq_true (hhigh i hi hi')⟩

/-- Two split points of one list at one instant coincide. -/
theorem IsCut.unique {atSequence first second : ℕ} (hfirst : IsCut checkpoints atSequence first)
    (hsecond : IsCut checkpoints atSequence second) : first = second := by
  rcases lt_trichotomy first second with hlt | heq | hgt
  · have hlater := hfirst.after first le_rfl (hlt.trans_le hsecond.le_length)
    exact absurd (hsecond.before first hlt) (not_le.mpr hlater)
  · exact heq
  · have hlater := hsecond.after second le_rfl (hgt.trans_le hfirst.le_length)
    exact absurd (hfirst.before second hgt) (not_le.mpr hlater)

/-- Reading depends only on where the queried instant splits the list. -/
theorem lookup_eq (hsorted : StrictlySorted checkpoints) {atSequence cut : ℕ}
    (hcut : IsCut checkpoints atSequence cut) :
    lookup checkpoints atSequence =
      if cut = 0 then 0 else (checkpoints.getD (cut - 1) default).balance := by
  simp only [lookup, (hsorted.isCut atSequence).unique hcut]

/-- The checkpoint list answers every query up to `now` with the recorded
history, and no entry is later than `now`. -/
structure Records (checkpoints : List Checkpoint) (now : ℕ) (history : ℕ → ℕ) : Prop where
  sorted : StrictlySorted checkpoints
  bounded : ∀ c ∈ checkpoints, c.sequence ≤ now
  answers : ∀ s ≤ now, lookup checkpoints s = history s

theorem records_nil (hzero : history 0 = 0) : Records [] 0 history where
  sorted := List.Pairwise.nil
  bounded := by simp
  answers s hs := by
    obtain rfl : s = 0 := Nat.le_zero.mp hs
    rw [hzero]
    rfl

section

variable {checkpoints : List Checkpoint} {now value : ℕ}

theorem strictlySorted_append (hsorted : StrictlySorted checkpoints)
    (hlater : ∀ c ∈ checkpoints, c.sequence < now) :
    StrictlySorted (checkpoints ++ [⟨now, value⟩]) := by
  refine List.pairwise_append.mpr ⟨hsorted, List.pairwise_singleton _ _, ?_⟩
  intro c hc d hd
  obtain rfl : d = ⟨now, value⟩ := by simpa using hd
  exact hlater c hc

private theorem getD_append_last :
    (checkpoints ++ [(⟨now, value⟩ : Checkpoint)]).getD checkpoints.length default =
      ⟨now, value⟩ := by
  rw [List.getD_append_right _ _ _ _ le_rfl]
  simp

/-- A query older than an appended entry is answered by the list before it. -/
theorem lookup_append_of_lt (hsorted : StrictlySorted checkpoints)
    (hlater : ∀ c ∈ checkpoints, c.sequence < now) {s : ℕ} (hs : s < now) :
    lookup (checkpoints ++ [⟨now, value⟩]) s = lookup checkpoints s := by
  have hcut := hsorted.isCut s
  have hcut' : IsCut (checkpoints ++ [⟨now, value⟩]) s (cutAt checkpoints s) := by
    refine ⟨by simpa using Nat.le_succ_of_le hcut.le_length, fun i hi => ?_, fun i hi hlen => ?_⟩
    · rw [List.getD_append _ _ _ _ (hi.trans_le hcut.le_length)]
      exact hcut.before i hi
    · rcases Nat.lt_or_ge i checkpoints.length with hlt | hge
      · rw [List.getD_append _ _ _ _ hlt]
        exact hcut.after i hi hlt
      · obtain rfl : i = checkpoints.length := by
          simp only [List.length_append, List.length_cons, List.length_nil] at hlen
          omega
        rw [getD_append_last]
        exact hs
  rw [lookup_eq hsorted hcut, lookup_eq (strictlySorted_append hsorted hlater) hcut']
  by_cases hzero : cutAt checkpoints s = 0
  · rw [if_pos hzero, if_pos hzero]
  · rw [if_neg hzero, if_neg hzero, List.getD_append]
    have hle := hcut.le_length
    omega

/-- The appended entry answers its own instant. -/
theorem lookup_append_self (hsorted : StrictlySorted checkpoints)
    (hlater : ∀ c ∈ checkpoints, c.sequence < now) :
    lookup (checkpoints ++ [⟨now, value⟩]) now = value := by
  have hcut : IsCut (checkpoints ++ [⟨now, value⟩]) now (checkpoints.length + 1) := by
    refine ⟨by simp, fun i hi => ?_, fun i hi hlen => ?_⟩
    · rcases Nat.lt_succ_iff_lt_or_eq.mp hi with hlt | rfl
      · rw [List.getD_append _ _ _ _ hlt, List.getD_eq_getElem _ _ hlt]
        exact (hlater _ (List.getElem_mem hlt)).le
      · rw [getD_append_last]
    · simp only [List.length_append, List.length_cons, List.length_nil] at hlen
      omega
  rw [lookup_eq (strictlySorted_append hsorted hlater) hcut, if_neg (Nat.succ_ne_zero _),
    Nat.add_sub_cancel, getD_append_last]

end

/-- The history after setting its value at one instant. -/
theorem Records.append {before now value : ℕ} (hrec : Records checkpoints before history)
    (hlater : ∀ c ∈ checkpoints, c.sequence < now) (hnow : now ≤ before + 1) :
    Records (checkpoints ++ [⟨now, value⟩]) now (update history now value) where
  sorted := strictlySorted_append hrec.sorted hlater
  bounded := by
    intro c hc
    rcases List.mem_append.mp hc with hold | hnew
    · exact (hlater c hold).le
    · obtain rfl : c = ⟨now, value⟩ := by simpa using hnew
      exact le_rfl
  answers s hs := by
    rcases hs.eq_or_lt with rfl | hlt
    · rw [lookup_append_self hrec.sorted hlater, update_self]
    · rw [lookup_append_of_lt hrec.sorted hlater hlt, update_of_ne hlt.ne]
      exact hrec.answers s (by omega)

/-- Dropping an entry made at the current instant forgets that instant only. -/
theorem Records.dropLast {last : Checkpoint} {now : ℕ} (hrec : Records checkpoints now history)
    (hlast : checkpoints.getLast? = some last) (hnow : last.sequence = now) :
    (∀ c ∈ checkpoints.dropLast, c.sequence < now) ∧
      StrictlySorted checkpoints.dropLast ∧
      ∀ s < now, lookup checkpoints.dropLast s = history s := by
  obtain ⟨rest, hrest⟩ := List.getLast?_eq_some_iff.mp hlast
  subst hrest
  have hdrop : (rest ++ [last]).dropLast = rest := List.dropLast_concat
  obtain ⟨hsorted, -, hcross⟩ := List.pairwise_append.mp hrec.sorted
  have hlater : ∀ c ∈ rest, c.sequence < now := fun c hc =>
    hnow ▸ hcross c hc last (by simp)
  rw [hdrop]
  refine ⟨hlater, hsorted, fun s hs => ?_⟩
  have heq : last = ⟨now, last.balance⟩ := by rw [← hnow]
  rw [← hrec.answers s hs.le, heq, lookup_append_of_lt hsorted hlater hs]

/-- **Write rule.** Writing at the current instant, or at the one right after
it, records the value there and disturbs no earlier answer. -/
theorem Records.write {before now value : ℕ} (hrec : Records checkpoints before history)
    (hle : before ≤ now) (hnow : now ≤ before + 1) :
    Records (writeCheckpoint checkpoints now value) now (update history now value) := by
  unfold writeCheckpoint
  cases hlast : checkpoints.getLast? with
  | none =>
      obtain rfl : checkpoints = [] := List.getLast?_eq_none_iff.mp hlast
      exact hrec.append (by simp) hnow
  | some last =>
      dsimp only
      by_cases hsame : last.sequence = now
      · rw [if_pos hsame]
        have hbefore : before = now := by
          have hbound := hrec.bounded last (List.mem_of_getLast? hlast)
          omega
        subst hbefore
        obtain ⟨hlater, hsorted, hanswers⟩ := hrec.dropLast hlast hsame
        refine ⟨strictlySorted_append hsorted hlater, ?_, fun s hs => ?_⟩
        · intro c hc
          rcases List.mem_append.mp hc with hold | hnew
          · exact (hlater c hold).le
          · obtain rfl : c = ⟨before, value⟩ := by simpa using hnew
            exact le_rfl
        · rcases hs.eq_or_lt with rfl | hlt
          · rw [lookup_append_self hsorted hlater, update_self]
          · rw [lookup_append_of_lt hsorted hlater hlt, update_of_ne hlt.ne]
            exact hanswers s hlt
      · rw [if_neg hsame]
        refine hrec.append (fun c hc => ?_) hnow
        -- the list is sorted, so its last entry dominates
        obtain ⟨rest, rfl⟩ := List.getLast?_eq_some_iff.mp hlast
        obtain ⟨-, -, hcross⟩ := List.pairwise_append.mp hrec.sorted
        have hbound := hrec.bounded last (by simp)
        rcases List.mem_append.mp hc with hold | hnew
        · have := hcross c hold last (by simp)
          omega
        · obtain rfl : c = last := by simpa using hnew
          omega

/-- **Gap rule.** An instant that passes without a write repeats the value. -/
theorem Records.skip {now : ℕ} (hrec : Records checkpoints now history) :
    Records checkpoints (now + 1) (update history (now + 1) (history now)) where
  sorted := hrec.sorted
  bounded c hc := Nat.le_succ_of_le (hrec.bounded c hc)
  answers s hs := by
    rcases hs.eq_or_lt with rfl | hlt
    · rw [update_self, ← hrec.answers now le_rfl]
      have hsame : IsCut checkpoints now checkpoints.length :=
        ⟨le_rfl, fun i hi => by
          rw [List.getD_eq_getElem _ _ hi]
          exact hrec.bounded _ (List.getElem_mem hi), fun i hi hi' => absurd hi' (by omega)⟩
      have hnext : IsCut checkpoints (now + 1) checkpoints.length :=
        ⟨le_rfl, fun i hi => Nat.le_succ_of_le (hsame.before i hi),
          fun i hi hi' => absurd hi' (by omega)⟩
      rw [lookup_eq hrec.sorted hsame, lookup_eq hrec.sorted hnext]
    · rw [update_of_ne hlt.ne]
      exact hrec.answers s (Nat.lt_succ_iff.mp hlt)

end Mordant.Foundation
