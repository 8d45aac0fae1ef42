/-
# Calls that revert, and runs of them

A contract entry point either commits a new state or reverts and leaves the old
one in force.  `Except` carries exactly that distinction: an error is a revert,
a value is the committed result.  This module supplies the guards and the
checked arithmetic such code is written with, one inversion lemma for each of
them, and the induction rules that lift a fact about one committed call to
every finite run.

Nothing here names a particular contract.  The error type is a parameter; a
contract declares which of its errors an arithmetic fault raises.
-/

import Mathlib.Algebra.GroupWithZero.Nat
import Mathlib.Data.List.Induction
import Mathlib.Data.Nat.Init

namespace Mordant.Foundation

universe u v

/-! The literals of small `Fin` types take one proof each, in every module. -/

instance neZero_two : NeZero 2 := ⟨by decide⟩

instance neZero_three : NeZero 3 := ⟨by decide⟩

/-- The error an arithmetic fault raises. Keeping it abstract lets one library
serve every contract, each with its own error enumeration. -/
class ArithmeticFault (ε : Type u) where
  panic : ε

section

variable {ε : Type u} {α β : Type} {head x : Except ε α} {tail : α → Except ε β} {result : β}
  {error : ε} {a : α}

/-- A guarded revert: `if (condition) revert error`. -/
def revertIf (p : Prop) [Decidable p] (error : ε) : Except ε Unit :=
  if p then .error error else .ok ()

/-- Bubble up the failure of a call into another contract. -/
def require (error : ε) : Option α → Except ε α
  | some a => .ok a
  | none => .error error

theorem ok_bind (a : α) (tail : α → Except ε β) : (Except.ok a >>= tail) = tail a := rfl

/-- A sequence commits exactly when its head commits some value and its tail
commits from there. -/
theorem bind_ok_iff :
    (head >>= tail) = .ok result ↔ ∃ value, head = .ok value ∧ tail value = .ok result := by
  rcases head with error | value
  · constructor
    · intro hbind
      exact nomatch hbind
    · rintro ⟨value, hhead, -⟩
      exact nomatch hhead
  · exact ⟨fun h => ⟨value, rfl, h⟩, by rintro ⟨_, ⟨⟩, htail⟩; exact htail⟩

/-- A sequence reverts where its head does, or where its tail does after the
head committed. -/
theorem bind_error_iff :
    (head >>= tail) = .error error ↔
      head = .error error ∨ ∃ value, head = .ok value ∧ tail value = .error error := by
  rcases head with failure | value
  · constructor
    · intro hbind
      exact .inl (congrArg Except.error (Except.error.inj hbind))
    · rintro (hhead | ⟨value, hhead, -⟩)
      · exact congrArg Except.error (Except.error.inj hhead)
      · exact nomatch hhead
  · constructor
    · intro hbind
      exact .inr ⟨value, rfl, hbind⟩
    · rintro (hhead | ⟨_, ⟨⟩, htail⟩)
      · exact nomatch hhead
      · exact htail

/-- Nothing is chosen where a sequence goes on without a value. -/
theorem exists_unit {p : Unit → Prop} : (∃ u, p u) ↔ p () :=
  ⟨fun ⟨_, h⟩ => h, fun h => ⟨_, h⟩⟩

theorem pure_ok_iff {b : α} : (pure a : Except ε α) = .ok b ↔ a = b :=
  ⟨fun h => Except.ok.inj h, fun h => congrArg Except.ok h⟩

theorem pure_ne_error : (pure a : Except ε α) ≠ .error error :=
  fun h => nomatch h

theorem map_ok_iff {f : α → β} :
    f <$> x = .ok result ↔ ∃ value, x = .ok value ∧ f value = result := by
  cases x with
  | error e =>
      constructor
      · intro hmap
        exact nomatch hmap
      · rintro ⟨value, hvalue, -⟩
        exact nomatch hvalue
  | ok value =>
      constructor
      · intro hmap
        exact ⟨value, rfl, Except.ok.inj hmap⟩
      · rintro ⟨_, ⟨⟩, hresult⟩
        exact congrArg Except.ok hresult

theorem revertIf_ok_iff {p : Prop} [Decidable p] {u : Unit} :
    revertIf p error = .ok u ↔ ¬ p := by
  by_cases hp : p <;> simp [revertIf, hp]

theorem revertIf_error_iff {p : Prop} [Decidable p] {raised : ε} :
    revertIf p error = .error raised ↔ p ∧ error = raised := by
  by_cases hp : p <;> simp [revertIf, hp]

/-- A leading guard contributes its negation and nothing else. -/
theorem revertIf_bind_ok_iff {p : Prop} [Decidable p] {tail : Unit → Except ε β} :
    (revertIf p error >>= tail) = .ok result ↔ ¬ p ∧ tail () = .ok result := by
  simp only [bind_ok_iff, revertIf_ok_iff]
  exact ⟨fun ⟨_, hp, htail⟩ => ⟨hp, htail⟩, fun ⟨hp, htail⟩ => ⟨(), hp, htail⟩⟩

theorem require_ok_iff {x : Option α} :
    require error x = .ok a ↔ x = some a := by
  cases x <;> simp [require]

/-- A leading call into another contract contributes the value it returned. -/
theorem require_bind_ok_iff {x : Option α} :
    (require error x >>= tail) = .ok result ↔ ∃ a, x = some a ∧ tail a = .ok result := by
  simp only [bind_ok_iff, require_ok_iff]

/-- A caller that only sees whether a call failed sees a value exactly when the
call commits it. -/
theorem toOption_eq_some_iff : x.toOption = some a ↔ x = .ok a := by
  cases x <;> simp [Except.toOption]

/-- What the caller of a sequence sees. -/
@[simp]
theorem toOption_bind :
    (head >>= tail).toOption = head.toOption.bind fun a => (tail a).toOption := by
  cases head <;> rfl

@[simp]
theorem toOption_pure : (pure a : Except ε α).toOption = some a := rfl

@[simp]
theorem toOption_error : (Except.error error : Except ε α).toOption = none := rfl

@[simp]
theorem toOption_revertIf {p : Prop} [Decidable p] :
    (revertIf p error).toOption = if p then none else some () := by
  by_cases hp : p <;> simp [revertIf, hp, Except.toOption]

@[simp]
theorem toOption_mapError {ε' : Type v} {f : ε → ε'} :
    (x.mapError f).toOption = x.toOption := by
  cases x <;> rfl

/-- Renaming errors leaves what commits alone. -/
theorem mapError_ok_iff {ε' : Type v} {f : ε → ε'} :
    x.mapError f = .ok a ↔ x = .ok a := by
  cases x <;> simp [Except.mapError]

/-- That a closed computation commits is found out by evaluating it. -/
theorem toBool_eq_true_iff : x.toBool = true ↔ ∃ a, x = .ok a := by
  cases x <;> simp [Except.toBool]

/-- So is that it commits a value that passes a test. -/
theorem any_ok_iff {test : α → Bool} :
    x.toOption.any test = true ↔ ∃ a, x = .ok a ∧ test a = true := by
  simp only [Option.any_eq_true, toOption_eq_some_iff]

end

section

variable {ε : Type u} [ArithmeticFault ε]

/-- Unsigned addition at a given width, faulting on overflow. -/
def checkedAdd (width a b : ℕ) : Except ε ℕ :=
  if a + b < 2 ^ width then .ok (a + b) else .error ArithmeticFault.panic

/-- Unsigned subtraction, faulting when the result would be negative. -/
def checkedSub (a b : ℕ) : Except ε ℕ :=
  if b ≤ a then .ok (a - b) else .error ArithmeticFault.panic

/-- `⌊a * b / d⌋` through a double-width product: only a zero divisor or a
quotient that does not fit faults. -/
def mulDiv (width a b d : ℕ) : Except ε ℕ :=
  if d ≠ 0 ∧ a * b / d < 2 ^ width then .ok (a * b / d) else .error ArithmeticFault.panic

theorem checkedAdd_ok_iff {width a b c : ℕ} :
    (checkedAdd width a b : Except ε ℕ) = .ok c ↔ a + b < 2 ^ width ∧ a + b = c := by
  by_cases h : a + b < 2 ^ width <;> simp [checkedAdd, h]

theorem checkedSub_ok_iff {a b c : ℕ} :
    (checkedSub a b : Except ε ℕ) = .ok c ↔ b ≤ a ∧ a - b = c := by
  by_cases h : b ≤ a <;> simp [checkedSub, h]

theorem checkedAdd_error_iff {width a b : ℕ} {error : ε} :
    (checkedAdd width a b : Except ε ℕ) = .error error ↔
      ¬ a + b < 2 ^ width ∧ ArithmeticFault.panic = error := by
  by_cases h : a + b < 2 ^ width <;> simp [checkedAdd, h]

theorem checkedSub_error_iff {a b : ℕ} {error : ε} :
    (checkedSub a b : Except ε ℕ) = .error error ↔ ¬ b ≤ a ∧ ArithmeticFault.panic = error := by
  by_cases h : b ≤ a <;> simp [checkedSub, h]

theorem mulDiv_ok_iff {width a b d c : ℕ} :
    (mulDiv width a b d : Except ε ℕ) = .ok c ↔
      (d ≠ 0 ∧ a * b / d < 2 ^ width) ∧ a * b / d = c := by
  unfold mulDiv
  split
  · next hfits => simp [hfits]
  · next hfaults => simp only [reduceCtorEq, hfaults, false_and]

end

section

variable {ε : Type u} {σ : Type} {ι : Type v}

/-- Execute a finite list of events in order. A revert anywhere makes the whole
list fail, so a successful result is a run of committed calls only. -/
def run (exec : σ → ι → Except ε σ) : σ → List ι → Except ε σ
  | s, [] => .ok s
  | s, e :: es => exec s e >>= fun s' => run exec s' es

@[simp]
theorem run_nil (exec : σ → ι → Except ε σ) (s : σ) : run exec s [] = .ok s := rfl

theorem run_cons_ok_iff {exec : σ → ι → Except ε σ} {s t : σ} {e : ι} {es : List ι} :
    run exec s (e :: es) = .ok t ↔ ∃ s', exec s e = .ok s' ∧ run exec s' es = .ok t :=
  bind_ok_iff

theorem run_append_ok_iff {exec : σ → ι → Except ε σ} {before after : List ι} {s t : σ} :
    run exec s (before ++ after) = .ok t ↔
      ∃ s', run exec s before = .ok s' ∧ run exec s' after = .ok t := by
  induction before generalizing s with
  | nil =>
      constructor
      · intro hrun
        exact ⟨s, rfl, hrun⟩
      · rintro ⟨s', hnil, hrun⟩
        obtain rfl : s = s' := by simpa using hnil
        exact hrun
  | cons first before ih =>
      simp only [List.cons_append, run_cons_ok_iff, ih]
      constructor
      · rintro ⟨s₁, hfirst, s', hbefore, hafter⟩
        exact ⟨s', ⟨s₁, hfirst, hbefore⟩, hafter⟩
      · rintro ⟨s', ⟨s₁, hfirst, hbefore⟩, hafter⟩
        exact ⟨s₁, hfirst, s', hbefore, hafter⟩

/-- A run can be cut at any event. -/
theorem run_append_ok {exec : σ → ι → Except ε σ} {before after : List ι} {e : ι} {s t : σ}
    (hrun : run exec s (before ++ e :: after) = .ok t) :
    ∃ s₁ s₂, run exec s before = .ok s₁ ∧ exec s₁ e = .ok s₂ := by
  obtain ⟨s₁, hbefore, hrest⟩ := run_append_ok_iff.mp hrun
  obtain ⟨s₂, hexec, -⟩ := run_cons_ok_iff.mp hrest
  exact ⟨s₁, s₂, hbefore, hexec⟩

theorem run_snoc_ok_iff {exec : σ → ι → Except ε σ} {before : List ι} {e : ι} {s t : σ} :
    run exec s (before ++ [e]) = .ok t ↔
      ∃ s', run exec s before = .ok s' ∧ exec s' e = .ok t := by
  rw [run_append_ok_iff]
  constructor
  · rintro ⟨s', hbefore, hlast⟩
    obtain ⟨t', hexec, hnil⟩ := run_cons_ok_iff.mp hlast
    obtain rfl : t' = t := by simpa using hnil
    exact ⟨s', hbefore, hexec⟩
  · rintro ⟨s', hbefore, hexec⟩
    exact ⟨s', hbefore, run_cons_ok_iff.mpr ⟨t, hexec, rfl⟩⟩

/-- **History rule.** A relation between the events so far and the state they
led to holds of every run when it holds of the empty one and one more event
keeps it.  The run so far is available at each event. -/
theorem run_history {exec : σ → ι → Except ε σ} {P : List ι → σ → Prop} {s : σ} (hnil : P [] s)
    (hsnoc : ∀ before e s₁ s₂, run exec s before = .ok s₁ → P before s₁ → exec s₁ e = .ok s₂ →
      P (before ++ [e]) s₂)
    {t : σ} {es : List ι} (hrun : run exec s es = .ok t) : P es t := by
  induction es using List.reverseRecOn generalizing t with
  | nil =>
      obtain rfl : s = t := by simpa using hrun
      exact hnil
  | append_singleton before e ih =>
      obtain ⟨s', hbefore, hexec⟩ := run_snoc_ok_iff.mp hrun
      exact hsnoc before e s' t hbefore (ih hbefore) hexec

/-- **Invariant rule.** A property every admitted event preserves holds at the
end of every run of admitted events. -/
theorem run_invariant {exec : σ → ι → Except ε σ} {admitted : ι → Prop} {P : σ → Prop}
    (hstep : ∀ s e s', admitted e → P s → exec s e = .ok s' → P s')
    {s t : σ} {es : List ι} (hrun : run exec s es = .ok t)
    (hadmitted : ∀ e ∈ es, admitted e) (hs : P s) : P t := by
  induction es generalizing s with
  | nil =>
      obtain rfl : s = t := by simpa using hrun
      exact hs
  | cons e es ih =>
      obtain ⟨s', hexec, hrest⟩ := run_cons_ok_iff.mp hrun
      exact ih hrest (fun e' he' => hadmitted e' (List.mem_cons_of_mem _ he'))
        (hstep s e s' (hadmitted e List.mem_cons_self) hs hexec)

/-- The invariant rule when every event is admitted. -/
theorem run_always {exec : σ → ι → Except ε σ} {P : σ → Prop}
    (hstep : ∀ s e s', P s → exec s e = .ok s' → P s')
    {s t : σ} {es : List ι} (hrun : run exec s es = .ok t) (hs : P s) : P t :=
  run_invariant (fun s e s' (_ : True) => hstep s e s') hrun (fun _ _ => trivial) hs

/-- **Two-state rule.** A reflexive and transitive relation between the state
before and after every event relates the two ends of every run.  The invariant
is available at each intermediate state. -/
theorem run_relates {exec : σ → ι → Except ε σ} {P : σ → Prop} {R : σ → σ → Prop}
    (hrefl : ∀ s, R s s) (htrans : ∀ {a b c}, R a b → R b c → R a c)
    (hkeep : ∀ s e s', P s → exec s e = .ok s' → P s')
    (hstep : ∀ s e s', P s → exec s e = .ok s' → R s s')
    {s t : σ} {es : List ι} (hrun : run exec s es = .ok t) (hs : P s) : R s t := by
  induction es generalizing s with
  | nil =>
      obtain rfl : s = t := by simpa using hrun
      exact hrefl s
  | cons e es ih =>
      obtain ⟨s', hexec, hrest⟩ := run_cons_ok_iff.mp hrun
      exact htrans (hstep s e s' hs hexec) (ih hrest (hkeep s e s' hs hexec))

/-- What a run leaves behind when each event adds some entries, oldest first. -/
def trace {β : Type} (exec : σ → ι → Except ε σ) (entries : σ → ι → List β) :
    σ → List ι → List β
  | _, [] => []
  | s, e :: es => match exec s e with
    | .ok s' => entries s e ++ trace exec entries s' es
    | .error _ => []

theorem trace_append {β : Type} {exec : σ → ι → Except ε σ} {entries : σ → ι → List β}
    {s s' : σ} {before : List ι} (after : List ι) (hbefore : run exec s before = .ok s') :
    trace exec entries s (before ++ after) =
      trace exec entries s before ++ trace exec entries s' after := by
  induction before generalizing s with
  | nil =>
      obtain rfl : s = s' := by simpa using hbefore
      rfl
  | cons first before ih =>
      obtain ⟨s₁, hfirst, hrest⟩ := run_cons_ok_iff.mp hbefore
      simp only [List.cons_append, trace, hfirst, ih hrest, List.append_assoc]

theorem trace_snoc {β : Type} {exec : σ → ι → Except ε σ} {entries : σ → ι → List β} {s s₁ s₂ : σ}
    {before : List ι} {e : ι} (hbefore : run exec s before = .ok s₁) (hexec : exec s₁ e = .ok s₂) :
    trace exec entries s (before ++ [e]) = trace exec entries s before ++ entries s₁ e := by
  rw [trace_append [e] hbefore]
  simp [trace, hexec]

/-- Every entry of a trace comes from one of its events. -/
theorem mem_trace {β : Type} {exec : σ → ι → Except ε σ} {entries : σ → ι → List β} {s : σ}
    {es : List ι} {b : β} (h : b ∈ trace exec entries s es) : ∃ e ∈ es, ∃ s', b ∈ entries s' e := by
  induction es generalizing s with
  | nil => exact nomatch h
  | cons first es ih =>
      rw [trace] at h
      split at h
      · rcases List.mem_append.mp h with hfirst | hrest
        · exact ⟨first, List.mem_cons_self, s, hfirst⟩
        · obtain ⟨e, hmem, s', hentry⟩ := ih hrest
          exact ⟨e, List.mem_cons_of_mem _ hmem, s', hentry⟩
      · exact nomatch h

section

variable {ε' : Type u} {τ κ : Type} {exec : σ → ι → Except ε σ} {exec' : τ → κ → Except ε' τ}
variable {mirror : σ → ι → κ} {s s' : σ} {t : τ} {es : List ι}

/-- The events of another system that answer those of a run, each chosen in the
state its event happens in. -/
def mirrored (exec : σ → ι → Except ε σ) (mirror : σ → ι → κ) : σ → List ι → List κ :=
  trace exec fun s e => [mirror s e]

theorem mirrored_cons {e : ι} (hexec : exec s e = .ok s') :
    mirrored exec mirror s (e :: es) = mirror s e :: mirrored exec mirror s' es := by
  simp only [mirrored, trace, hexec, List.singleton_append]

/-- The image of the first events of a run is the first part of its image. -/
theorem take_mirrored (hrun : run exec s es = .ok s') (n : ℕ) :
    (mirrored exec mirror s es).take n = mirrored exec mirror s (es.take n) := by
  induction es generalizing s n with
  | nil => simp [mirrored, trace]
  | cons e es ih =>
      obtain ⟨s₁, hexec, hrest⟩ := run_cons_ok_iff.mp hrun
      cases n with
      | zero => rfl
      | succ n =>
          rw [mirrored_cons hexec, List.take_succ_cons, ih hrest, List.take_succ_cons,
            mirrored_cons hexec]

/-- **Simulation rule.** When every event of a run is answered by one event of
another system that leaves the two states related again, the other system
follows the whole run event by event.  The step may use where in the run its
event stands. -/
theorem run_simulates {R : List ι → σ → τ → Prop} (hstart : R [] s t)
    (hstep : ∀ before e after s₁ s₂ t₁, es = before ++ e :: after → run exec s before = .ok s₁ →
      R before s₁ t₁ → exec s₁ e = .ok s₂ →
        ∃ t₂, exec' t₁ (mirror s₁ e) = .ok t₂ ∧ R (before ++ [e]) s₂ t₂)
    (hrun : run exec s es = .ok s') (n : ℕ) :
    ∃ s₁ t₁, run exec s (es.take n) = .ok s₁ ∧
      run exec' t ((mirrored exec mirror s es).take n) = .ok t₁ ∧ R (es.take n) s₁ t₁ := by
  have hprefix : ∀ before after, es = before ++ after → ∃ s₁ t₁, run exec s before = .ok s₁ ∧
      run exec' t (mirrored exec mirror s before) = .ok t₁ ∧ R before s₁ t₁ := by
    intro before
    induction before using List.reverseRecOn with
    | nil =>
        intro _ _
        exact ⟨s, t, rfl, run_nil exec' t, hstart⟩
    | append_singleton before e ih =>
        intro after hsplit
        rw [List.append_assoc] at hsplit
        obtain ⟨s₁, t₁, hbefore, hmirrored, hrelated⟩ := ih _ hsplit
        rw [hsplit] at hrun
        obtain ⟨s₁', s₂, hbefore', hexec⟩ := run_append_ok hrun
        obtain rfl := Except.ok.inj (hbefore.symm.trans hbefore')
        obtain ⟨t₂, hexec', hrelated'⟩ := hstep _ _ _ _ _ _ hsplit hbefore hrelated hexec
        refine ⟨s₂, t₂, run_snoc_ok_iff.mpr ⟨s₁, hbefore, hexec⟩, ?_, hrelated'⟩
        rw [mirrored, trace_snoc hbefore hexec]
        exact run_snoc_ok_iff.mpr ⟨t₁, hmirrored, hexec'⟩
  rw [take_mirrored hrun]
  exact hprefix _ _ (List.take_append_drop n es).symm

end

end

end Mordant.Foundation
