/-
# Programs whose steps interleave

A program performs operations on a shared state, one after another, and returns or
throws.  Any number of parties run one program each.  Between two operations of one
party any number of operations of the others may happen, and a party can be lost between
two operations of its own; what it held is then given back.

`Upholds` says what a program knows of the shared state whenever it performs an
operation, however the others interfere.  It may use that they interfere only in the way
the party relies on.  `Discipline` collects what each party knows and relies on, with the
proof that what the others know keeps their operations within it; the knowledge then
holds at every step of every run, and invariants are proved from it one operation at a
time.
-/

import Mordant.Foundation.Call

namespace Mordant.Foundation

/-! ## Programs -/

section

variable {Op : Type} {Answer : Op → Type} {ε α β : Type}

/-- A program: it is over, or it performs an operation and goes on with the answer. -/
inductive Program (Op : Type) (Answer : Op → Type) (ε α : Type) where
  | ret (result : Except ε α)
  | perform (op : Op) (next : Answer op → Program Op Answer ε α)

namespace Program

/-- A program and what is done with its outcome, whether it returns or throws. -/
def onReturn : Program Op Answer ε α → (Except ε α → Program Op Answer ε β) →
    Program Op Answer ε β
  | ret result, f => f result
  | perform op next, f => perform op fun answer => (next answer).onReturn f

/-- Go on with a value, or stop at an error. -/
def proceed (f : α → Program Op Answer ε β) : Except ε α → Program Op Answer ε β
  | .ok a => f a
  | .error error => ret (.error error)

instance : Monad (Program Op Answer ε) where
  pure a := ret (.ok a)
  bind x f := x.onReturn (proceed f)

/-- What needs no operation. -/
def lift (x : Except ε α) : Program Op Answer ε α := ret x

/-- A refusal, where a condition holds. -/
def throwIf (p : Prop) [Decidable p] (error : ε) : Program Op Answer ε Unit :=
  lift (revertIf p error)

/-- One operation and its answer. -/
def ask (op : Op) : Program Op Answer ε (Answer op) := perform op fun answer => ret (.ok answer)

/-- A program and what it leaves for its end, whether it returns or throws. -/
def deferring (x : Program Op Answer ε α) (last : Program Op Answer ε Unit) :
    Program Op Answer ε α :=
  x.onReturn fun result => last.onReturn fun _ => ret result

/-- A program whose outcome, returned or thrown, is what it returns. -/
def outcome {ε' : Type} : Program Op Answer ε α → Program Op Answer ε' (Except ε α)
  | ret result => ret (.ok result)
  | perform op next => perform op fun answer => (next answer).outcome

theorem bind_assoc {γ : Type} (x : Program Op Answer ε α) (f : α → Program Op Answer ε β)
    (g : β → Program Op Answer ε γ) : x >>= f >>= g = x >>= fun a => f a >>= g := by
  induction x with
  | ret result =>
      cases result with
      | error error => rfl
      | ok a => rfl
  | perform op next ih => exact congrArg (perform op) (funext ih)

/-- Every operation the program can come to satisfies `P`, and what it returns `R`. -/
def Obeys (P : Op → Prop) (R : α → Prop) : Program Op Answer ε α → Prop
  | ret (.ok a) => R a
  | ret (.error _) => True
  | perform op next => P op ∧ ∀ answer, Obeys P R (next answer)

section

variable {P : Op → Prop} {R S : α → Prop} {x : Program Op Answer ε α}

theorem Obeys.mono (h : Obeys P R x) (hR : ∀ a, R a → S a) : Obeys P S x := by
  induction x with
  | ret result =>
      cases result with
      | error error => exact trivial
      | ok a => exact hR a h
  | perform op next ih => exact ⟨h.1, fun answer => ih answer (h.2 answer)⟩

@[simp] theorem obeys_pure {a : α} :
    Obeys P R (pure a : Program Op Answer ε α) ↔ R a := Iff.rfl

@[simp] theorem obeys_lift {y : Except ε α} :
    Obeys P R (lift y : Program Op Answer ε α) ↔ ∀ a, y = .ok a → R a := by
  cases y with
  | error error => exact ⟨fun _ a h => (nomatch h), fun _ => trivial⟩
  | ok a =>
      constructor
      · intro h b hb
        obtain rfl := Except.ok.inj hb
        exact h
      · intro h
        exact h a rfl

@[simp] theorem obeys_throwIf {p : Prop} [Decidable p] {error : ε} {R : Unit → Prop} :
    Obeys P R (throwIf p error : Program Op Answer ε Unit) ↔ (¬ p → R ()) := by
  rw [throwIf, obeys_lift]
  exact ⟨fun h hp => h () (revertIf_ok_iff.mpr hp), fun h _ hp => h (revertIf_ok_iff.mp hp)⟩

@[simp] theorem obeys_ask {op : Op} {R : Answer op → Prop} :
    Obeys P R (ask op : Program Op Answer ε (Answer op)) ↔ P op ∧ ∀ answer, R answer := Iff.rfl

@[simp] theorem obeys_bind {f : α → Program Op Answer ε β} {R : β → Prop} :
    Obeys P R (x >>= f) ↔ Obeys P (fun a => Obeys P R (f a)) x := by
  induction x with
  | ret result => cases result <;> exact Iff.rfl
  | perform op next ih =>
      constructor
      · intro h
        exact ⟨h.1, fun answer => (ih answer).mp (h.2 answer)⟩
      · intro h
        exact ⟨h.1, fun answer => (ih answer).mpr (h.2 answer)⟩

theorem Obeys.weaken {P' : Op → Prop} (h : Obeys P R x) (hP : ∀ op, P op → P' op) :
    Obeys P' R x := by
  induction x with
  | ret result => cases result <;> exact h
  | perform op next ih => exact ⟨hP op h.1, fun answer => ih answer (h.2 answer)⟩

/-- What is left for the end of a program obeys as well, and takes nothing from it. -/
theorem Obeys.deferring {last : Program Op Answer ε Unit} {T : Unit → Prop} (h : Obeys P R x)
    (hlast : Obeys P T last) : Obeys P R (x.deferring last) := by
  induction x with
  | ret result =>
      induction last with
      | ret => exact h
      | perform op next ih => exact ⟨hlast.1, fun answer => ih answer (hlast.2 answer)⟩
  | perform op next ih => exact ⟨h.1, fun answer => ih answer (h.2 answer)⟩

end

end Program

end

/-! ## What each party knows and relies on -/

section

variable {ι σ Op : Type} {Answer : Op → Type} {ε α β κ : Type}

/-- The effect of operations, and of losing a party. -/
structure Effects (ι σ Op : Type) (Answer : Op → Type) where
  act : ι → (op : Op) → σ → Answer op × σ
  lost : ι → σ → σ

/-- What a party knows when it performs an operation, what it knows before it starts,
and what it relies on the others to leave as it is. -/
structure Discipline (effects : Effects ι σ Op Answer) where
  knows : ι → Op → σ → Prop
  ready : ι → σ → Prop
  rely : ι → σ → σ → Prop
  refl : ∀ i s, rely i s s
  trans : ∀ {i s t u}, rely i s t → rely i t u → rely i s u
  ready_rely : ∀ {i s t}, ready i s → rely i s t → ready i t
  rely_act : ∀ {i j op s}, i ≠ j → knows j op s → rely i s (effects.act j op s).2
  rely_lost : ∀ {i j s}, i ≠ j → rely i s (effects.lost j s)

variable {effects : Effects ι σ Op Answer} (D : Discipline effects) (i : ι)

/-- Whenever the program performs an operation, the party knows what it should, and the
outcome satisfies `Q`, however the others interfere. -/
def Upholds (Q : Except ε α → σ → Prop) : Program Op Answer ε α → σ → Prop
  | .ret result, s => ∀ t, D.rely i s t → Q result t
  | .perform op next, s => ∀ t, D.rely i s t → D.knows i op t ∧
      Upholds Q (next (effects.act i op t).1) (effects.act i op t).2

/-- A postcondition on what is returned, none on what is thrown. -/
def onOk (Q : α → σ → Prop) (result : Except ε α) (s : σ) : Prop := ∀ a, result = .ok a → Q a s

section

variable {D i} {Q R : Except ε α → σ → Prop} {x : Program Op Answer ε α} {s t : σ}

/-- Interference does no harm. -/
theorem Upholds.rely (h : Upholds D i Q x s) (hrely : D.rely i s t) : Upholds D i Q x t := by
  cases x with
  | ret result =>
      intro u hu
      exact h u (D.trans hrely hu)
  | perform op next =>
      intro u hu
      exact h u (D.trans hrely hu)

theorem Upholds.mono (h : Upholds D i Q x s) (hQ : ∀ result t, Q result t → R result t) :
    Upholds D i R x s := by
  induction x generalizing s with
  | ret result =>
      intro t ht
      exact hQ result t (h t ht)
  | perform op next ih =>
      intro t ht
      exact ⟨(h t ht).1, ih _ (h t ht).2⟩

theorem Upholds.onReturn {f : Except ε α → Program Op Answer ε β} {R : Except ε β → σ → Prop}
    (h : Upholds D i (fun result t => Upholds D i R (f result) t) x s) :
    Upholds D i R (x.onReturn f) s := by
  induction x generalizing s with
  | ret result => exact h s (D.refl i s)
  | perform op next ih =>
      intro t ht
      exact ⟨(h t ht).1, ih _ (h t ht).2⟩

/-- In sequence, the second program starts from what the first establishes. -/
theorem Upholds.andThen {P : α → σ → Prop} {R : β → σ → Prop} {f : α → Program Op Answer ε β}
    (h : Upholds D i (onOk P) x s) (hf : ∀ a t, P a t → Upholds D i (onOk R) (f a) t) :
    Upholds D i (onOk R) (x >>= f) s := by
  apply Upholds.onReturn
  apply h.mono
  intro result t ht
  cases result with
  | error error => exact fun u _ a ha => nomatch ha
  | ok a => exact hf a t (ht a rfl)

theorem Upholds.outcome {ε' : Type} (h : Upholds D i Q x s) :
    Upholds D i (onOk Q) (x.outcome : Program Op Answer ε' (Except ε α)) s := by
  induction x generalizing s with
  | ret result =>
      intro t ht _ ha
      obtain rfl := Except.ok.inj ha
      exact h t ht
  | perform op next ih =>
      intro t ht
      exact ⟨(h t ht).1, ih _ (h t ht).2⟩

theorem upholds_lift_bind {R : β → σ → Prop} {y : Except ε α} {f : α → Program Op Answer ε β}
    (h : ∀ a, y = .ok a → Upholds D i (onOk R) (f a) s) :
    Upholds D i (onOk R) (Program.lift y >>= f) s := by
  cases y with
  | error error => exact fun t _ a ha => nomatch ha
  | ok a => exact h a rfl

theorem upholds_throwIf_bind {R : β → σ → Prop} {p : Prop} [Decidable p] {refusal : ε}
    {f : Unit → Program Op Answer ε β} (h : ¬ p → Upholds D i (onOk R) (f ()) s) :
    Upholds D i (onOk R) (Program.throwIf p refusal >>= f) s :=
  upholds_lift_bind fun _ hp => h (revertIf_ok_iff.mp hp)

theorem upholds_ask_bind {op : Op} {f : Answer op → Program Op Answer ε β}
    {R : Except ε β → σ → Prop}
    (h : ∀ t, D.rely i s t → D.knows i op t ∧
      Upholds D i R (f (effects.act i op t).1) (effects.act i op t).2) :
    Upholds D i R (Program.ask op >>= f) s := h

/-- What the operations of a program keep holds at its end, whatever its outcome. -/
theorem Upholds.keeping {P : Op → Prop} {S : α → Prop} {A : σ → Prop} (h : Upholds D i Q x s)
    (hobeys : x.Obeys P S) (hrely : ∀ {s t}, D.rely i s t → A s → A t)
    (hact : ∀ {op s}, P op → D.knows i op s → A s → A (effects.act i op s).2) (hs : A s) :
    Upholds D i (fun result t => Q result t ∧ A t) x s := by
  induction x generalizing s with
  | ret result =>
      intro t ht
      exact ⟨h t ht, hrely ht hs⟩
  | perform op next ih =>
      intro t ht
      obtain ⟨hknows, hnext⟩ := h t ht
      exact ⟨hknows, ih _ hnext (hobeys.2 _) (hact hobeys.1 hknows (hrely ht hs))⟩

/-- Operations that keep what neither the others nor they disturb. -/
theorem Program.Obeys.upholds {P : Op → Prop} {R : α → Prop} {A : σ → Prop}
    (hrely : ∀ {s t}, D.rely i s t → A s → A t)
    (hact : ∀ {op s}, P op → A s → D.knows i op s ∧ A (effects.act i op s).2)
    (h : x.Obeys P R) (hs : A s) :
    Upholds D i (fun result t => A t ∧ ∀ a, result = .ok a → R a) x s := by
  induction x generalizing s with
  | ret result =>
      intro t ht
      refine ⟨hrely ht hs, ?_⟩
      rintro a rfl
      exact h
  | perform op next ih =>
      intro t ht
      have ht := hact h.1 (hrely ht hs)
      exact ⟨ht.1, ih _ (h.2 _) ht.2⟩

end

/-! ## Pools of parties -/

/-- Where a party stands. -/
inductive Thread (Op : Type) (Answer : Op → Type) (ε α : Type) where
  | idle
  | active (program : Program Op Answer ε α)
  | gone

/-- The shared state and where each party stands. -/
structure Pool (ι σ Op : Type) (Answer : Op → Type) (ε α : Type) where
  state : σ
  thread : ι → Thread Op Answer ε α

/-- A party starts on a request, performs one operation, or is lost. -/
inductive Move (ι κ : Type) where
  | start (i : ι) (request : κ)
  | step (i : ι)
  | crash (i : ι)

/-- Why a move cannot happen. -/
inductive Unscheduled
  | unscheduled
  deriving DecidableEq

variable [DecidableEq ι] (effects) (program : ι → κ → Program Op Answer ε α)

/-- One move. A party starts once and is lost only while it runs. -/
def Pool.exec (pool : Pool ι σ Op Answer ε α) :
    Move ι κ → Except Unscheduled (Pool ι σ Op Answer ε α)
  | .start i request =>
    match pool.thread i with
    | .idle => .ok { pool with
        thread := Function.update pool.thread i (.active (program i request)) }
    | _ => .error .unscheduled
  | .step i =>
    match pool.thread i with
    | .active (.perform op next) => .ok
        { state := (effects.act i op pool.state).2
          thread := Function.update pool.thread i
            (.active (next (effects.act i op pool.state).1)) }
    | _ => .error .unscheduled
  | .crash i =>
    match pool.thread i with
    | .active (.perform _ _) => .ok
        { state := effects.lost i pool.state
          thread := Function.update pool.thread i .gone }
    | _ => .error .unscheduled

variable {effects program} {pool pool' : Pool ι σ Op Answer ε α} {move : Move ι κ}

/-- What one move does. -/
theorem Pool.exec_ok (h : pool.exec effects program move = .ok pool') :
    (∃ i request, move = .start i request ∧ pool.thread i = .idle ∧
      pool' = { pool with
        thread := Function.update pool.thread i (.active (program i request)) }) ∨
    (∃ i op next, move = .step i ∧ pool.thread i = .active (.perform op next) ∧
      pool' =
        { state := (effects.act i op pool.state).2
          thread := Function.update pool.thread i
            (.active (next (effects.act i op pool.state).1)) }) ∨
    (∃ i, move = .crash i ∧
      pool' =
        { state := effects.lost i pool.state
          thread := Function.update pool.thread i .gone }) := by
  cases move with
  | start i request =>
      simp only [Pool.exec] at h
      split at h
      · next hidle => exact .inl ⟨i, request, rfl, hidle, (Except.ok.inj h).symm⟩
      · exact nomatch h
  | step i =>
      simp only [Pool.exec] at h
      split at h
      · next op next hactive =>
          exact .inr (.inl ⟨i, op, next, rfl, hactive, (Except.ok.inj h).symm⟩)
      · exact nomatch h
  | crash i =>
      simp only [Pool.exec] at h
      split at h
      · exact .inr (.inr ⟨i, rfl, (Except.ok.inj h).symm⟩)
      · exact nomatch h

/-- Where a party stands in a sound pool: it has yet to start, or its program upholds
the discipline from here. -/
def Thread.Sound (D : Discipline effects) (i : ι) (Q : Except ε α → σ → Prop) (s : σ) :
    Thread Op Answer ε α → Prop
  | .idle => D.ready i s
  | .active x => Upholds D i Q x s
  | .gone => True

/-- Every party stands as it should. -/
def Pool.Sound (D : Discipline effects) (Q : ι → Except ε α → σ → Prop)
    (pool : Pool ι σ Op Answer ε α) : Prop :=
  ∀ i, (pool.thread i).Sound D i (Q i) pool.state

/-- A condition on the state in which each operation is performed. -/
def Pool.Admits (condition : ι → Op → σ → Prop) (pool : Pool ι σ Op Answer ε α) :
    Move ι κ → Prop
  | .step i =>
    match pool.thread i with
    | .active (.perform op _) => condition i op pool.state
    | _ => True
  | _ => True

omit [DecidableEq ι] in
theorem Pool.admits_step_iff {condition : ι → Op → σ → Prop} {i : ι} :
    pool.Admits (κ := κ) condition (.step i) ↔
      ∀ op next, pool.thread i = .active (.perform op next) → condition i op pool.state := by
  show (match pool.thread i with
    | .active (.perform op _) => condition i op pool.state
    | _ => True) ↔ _
  split
  · next op next hactive =>
      rw [hactive]
      constructor
      · rintro h _ _ ⟨⟩
        exact h
      · intro h
        exact h op next rfl
  · next hother => exact ⟨fun _ op next hactive => (hother op next hactive).elim, fun _ => trivial⟩

/-- Every move of a run is made in a state that admits it. -/
def Orderly (effects : Effects ι σ Op Answer) (program : ι → κ → Program Op Answer ε α)
    (condition : ι → Op → σ → Prop) : Pool ι σ Op Answer ε α → List (Move ι κ) → Prop
  | _, [] => True
  | pool, move :: moves => pool.Admits condition move ∧
      match pool.exec effects program move with
      | .ok pool' => Orderly effects program condition pool' moves
      | .error _ => True

section

variable {condition : ι → Op → σ → Prop} [∀ i op s, Decidable (condition i op s)]

omit [DecidableEq ι] in
instance Pool.decidableAdmits (pool : Pool ι σ Op Answer ε α) :
    (move : Move ι κ) → Decidable (pool.Admits condition move)
  | .start _ _ | .crash _ => isTrue trivial
  | .step i =>
    match h : pool.thread i with
    | .active (.perform op _) => decidable_of_iff (condition i op pool.state) (by
        rw [Pool.admits_step_iff, h]
        constructor
        · rintro hcondition _ _ ⟨⟩
          exact hcondition
        · intro hall
          exact hall op _ rfl)
    | .idle | .gone | .active (.ret _) => isTrue (Pool.admits_step_iff.mpr (by simp [h]))

instance decidableOrderly : (pool : Pool ι σ Op Answer ε α) → (moves : List (Move ι κ)) →
    Decidable (Orderly effects program condition pool moves)
  | _, [] => isTrue trivial
  | pool, move :: moves =>
    match h : pool.exec effects program move with
    | .ok pool' =>
      have := decidableOrderly pool' moves
      decidable_of_iff (pool.Admits condition move ∧
        Orderly effects program condition pool' moves) (by rw [Orderly, h])
    | .error _ => decidable_of_iff (pool.Admits condition move) (by rw [Orderly, h, and_true])

end

section

variable {D : Discipline effects} {Q : ι → Except ε α → σ → Prop}

omit [DecidableEq ι] in
theorem Thread.Sound.rely {thread : Thread Op Answer ε α} {i : ι} {Q : Except ε α → σ → Prop}
    {s t : σ} (h : thread.Sound D i Q s) (hrely : D.rely i s t) : thread.Sound D i Q t := by
  cases thread with
  | idle => exact D.ready_rely h hrely
  | active x => exact Upholds.rely h hrely
  | gone => exact trivial

/-- One party moves; the others stand by what they relied on. -/
theorem Pool.Sound.update {i : ι} {thread : Thread Op Answer ε α} {t : σ} (h : pool.Sound D Q)
    (hothers : ∀ j, j ≠ i → D.rely j pool.state t) (hthread : thread.Sound D i (Q i) t) :
    Pool.Sound D Q ⟨t, Function.update pool.thread i thread⟩ := by
  intro j
  by_cases hji : j = i
  · subst hji
    show Thread.Sound D j (Q j) t (Function.update pool.thread j thread j)
    rw [Function.update_self]
    exact hthread
  · show Thread.Sound D j (Q j) t (Function.update pool.thread i thread j)
    rw [Function.update_of_ne hji]
    exact (h j).rely (hothers j hji)

omit [DecidableEq ι] in
theorem Pool.Sound.ready {i : ι} (h : pool.Sound D Q) (hidle : pool.thread i = .idle) :
    D.ready i pool.state := by
  have hthread := h i
  rwa [hidle] at hthread

omit [DecidableEq ι] in
theorem Pool.Sound.upholds {i : ι} {x : Program Op Answer ε α} (h : pool.Sound D Q)
    (hactive : pool.thread i = .active x) : Upholds D i (Q i) x pool.state := by
  have hthread := h i
  rwa [hactive] at hthread

omit [DecidableEq ι] in
/-- In a sound pool a party that performs an operation knows what it should. -/
theorem Pool.Sound.knows {i : ι} {op : Op} {next : Answer op → Program Op Answer ε α}
    (h : pool.Sound D Q) (hactive : pool.thread i = .active (.perform op next)) :
    D.knows i op pool.state :=
  (h.upholds hactive _ (D.refl i _)).1

omit [DecidableEq ι] in
/-- What a party returned satisfies its postcondition. -/
theorem Pool.Sound.returned {i : ι} {result : Except ε α} (h : pool.Sound D Q)
    (hreturned : pool.thread i = .active (.ret result)) : Q i result pool.state :=
  h.upholds hreturned _ (D.refl i _)

variable (hprogram : ∀ i request s, D.ready i s → Upholds D i (Q i) (program i request) s)
  {moves : List (Move ι κ)}
include hprogram

theorem Pool.Sound.exec (h : pool.Sound D Q) (hexec : pool.exec effects program move = .ok pool') :
    pool'.Sound D Q := by
  rcases Pool.exec_ok hexec with ⟨i, request, -, hidle, rfl⟩ | ⟨i, op, next, -, hactive, rfl⟩ |
    ⟨i, -, rfl⟩
  · exact h.update (fun j _ => D.refl j _) (hprogram i request _ (h.ready hidle))
  · exact h.update (fun j hj => D.rely_act hj (h.knows hactive))
      (h.upholds hactive _ (D.refl i _)).2
  · exact h.update (fun j hj => D.rely_lost hj) trivial

/-- Every run of a sound pool stays sound. -/
theorem run_sound (hrun : run (Pool.exec effects program) pool moves = .ok pool')
    (h : pool.Sound D Q) :
    pool'.Sound D Q :=
  run_always (fun _ _ _ h hexec => h.exec hprogram hexec) hrun h

/-- **Invariant rule.** What every operation preserves, performed by a party that knows
what it should in a state that admits it, holds throughout an orderly run. -/
theorem run_orderly {I : σ → Prop} {condition : ι → Op → σ → Prop}
    (hact : ∀ i op s, D.knows i op s → condition i op s → I s → I (effects.act i op s).2)
    (hlost : ∀ i s, I s → I (effects.lost i s))
    (hrun : run (Pool.exec effects program) pool moves = .ok pool') (h : pool.Sound D Q)
    (horderly : Orderly effects program condition pool moves) (hI : I pool.state) :
    I pool'.state := by
  induction moves generalizing pool with
  | nil =>
      obtain rfl : pool = pool' := by simpa using hrun
      exact hI
  | cons move moves ih =>
      obtain ⟨middle, hexec, hrest⟩ := run_cons_ok_iff.mp hrun
      have hlater := horderly.2
      rw [hexec] at hlater
      refine ih hrest (h.exec hprogram hexec) hlater ?_
      rcases Pool.exec_ok hexec with ⟨i, request, -, -, rfl⟩ | ⟨i, op, next, rfl, hactive, rfl⟩ |
        ⟨i, -, rfl⟩
      · exact hI
      · have hcondition := Pool.admits_step_iff.mp horderly.1 op next hactive
        exact hact i op _ (h.knows hactive) hcondition hI
      · exact hlost i _ hI

omit hprogram in
/-- A run is orderly under a condition that always holds. -/
theorem orderly_of_forall {condition : ι → Op → σ → Prop} (hall : ∀ i op s, condition i op s)
    (moves : List (Move ι κ)) (pool : Pool ι σ Op Answer ε α) :
    Orderly effects program condition pool moves := by
  induction moves generalizing pool with
  | nil => exact trivial
  | cons move moves ih =>
      constructor
      · cases move with
        | step i => exact Pool.admits_step_iff.mpr fun op _ _ => hall i op _
        | start | crash => exact trivial
      · split
        · exact ih _
        · exact trivial

/-- The invariant rule for every run. -/
theorem run_always_known {I : σ → Prop}
    (hact : ∀ i op s, D.knows i op s → I s → I (effects.act i op s).2)
    (hlost : ∀ i s, I s → I (effects.lost i s))
    (hrun : run (Pool.exec effects program) pool moves = .ok pool') (h : pool.Sound D Q)
    (hI : I pool.state) : I pool'.state :=
  run_orderly hprogram (fun i op s hknows (_ : True) => hact i op s hknows) hlost hrun h
    (orderly_of_forall (fun _ _ _ => trivial) moves pool) hI

end

/-- The invariant rule for programs whose operations are known beforehand: what such
operations preserve holds throughout. -/
theorem run_performed {P : Op → Prop} {R : α → Prop} {I : σ → Prop} {moves : List (Move ι κ)}
    (hprogram : ∀ i request, Move.start i request ∈ moves → (program i request).Obeys P R)
    (hact : ∀ i op s, P op → I s → I (effects.act i op s).2)
    (hlost : ∀ i s, I s → I (effects.lost i s))
    (hrun : run (Pool.exec effects program) pool moves = .ok pool')
    (hactive : ∀ i x, pool.thread i = .active x → x.Obeys P R) (hI : I pool.state) :
    I pool'.state := by
  induction moves generalizing pool with
  | nil =>
      obtain rfl : pool = pool' := by simpa using hrun
      exact hI
  | cons move moves ih =>
      obtain ⟨middle, hexec, hrest⟩ := run_cons_ok_iff.mp hrun
      have hupdate : ∀ (i : ι) (thread : Thread Op Answer ε α),
          (∀ x, thread = .active x → x.Obeys P R) →
          ∀ j x, Function.update pool.thread i thread j = .active x → x.Obeys P R := by
        intro i thread hthread j x hx
        by_cases hji : j = i
        · subst hji
          rw [Function.update_self] at hx
          exact hthread x hx
        · rw [Function.update_of_ne hji] at hx
          exact hactive j x hx
      have hlater : ∀ i request, Move.start i request ∈ moves → (program i request).Obeys P R :=
        fun i request hmem => hprogram i request (List.mem_cons_of_mem _ hmem)
      rcases Pool.exec_ok hexec with ⟨i, request, rfl, -, rfl⟩ | ⟨i, op, next, -, hnext, rfl⟩ |
        ⟨i, -, rfl⟩
      · refine ih hlater hrest (hupdate i _ ?_) hI
        rintro x ⟨⟩
        exact hprogram i request List.mem_cons_self
      · obtain ⟨hop, hobeys⟩ := hactive i _ hnext
        refine ih hlater hrest (hupdate i _ ?_) (hact i op _ hop hI)
        rintro x ⟨⟩
        exact hobeys _
      · exact ih hlater hrest (hupdate i _ fun _ hgone => nomatch hgone) (hlost i _ hI)

end

end Mordant.Foundation
