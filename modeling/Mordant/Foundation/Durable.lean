/-
# Programs that can be lost at any moment

A program reads a disk and writes to it, one atomic write after another, and returns or
throws.  Its process can die before it starts, between two writes, or at the end, and
what it leaves is then the disk as the last write before left it.

`Meets` is what holds of every disk a program can leave and, if it returns, of its answer;
`Returns` is that it returns.  Both are computed from a program by rewriting.
-/

import Mordant.Foundation.Call

namespace Mordant.Foundation

universe u v

/-- What a program did: the disk after each of its writes, in order, and its answer. -/
structure DiskTrace (σ : Type u) (ε : Type v) (α : Type) where
  disks : List σ
  result : Except ε α

/-- A program over a disk. -/
def Durable (σ : Type u) (ε : Type v) (α : Type) : Type (max u v) := σ → DiskTrace σ ε α

namespace Durable

variable {σ : Type u} {ε : Type v} {α β : Type}

/-- The disk when the program is over. -/
def last (x : Durable σ ε α) (s : σ) : σ := (x s).disks.getLastD s

instance : Monad (Durable σ ε) where
  pure a := fun _ => ⟨[], .ok a⟩
  bind x f := fun s =>
    match (x s).result with
    | .error error => ⟨(x s).disks, .error error⟩
    | .ok a => ⟨(x s).disks ++ (f a (last x s)).disks, (f a (last x s)).result⟩

/-- A look at the disk, which may throw. -/
def reads (f : σ → Except ε α) : Durable σ ε α := fun s => ⟨[], f s⟩

/-- What does not look at the disk. -/
def lift (x : Except ε α) : Durable σ ε α := reads fun _ => x

/-- A refusal, where a condition holds. -/
def throwIf (p : Prop) [Decidable p] (error : ε) : Durable σ ε Unit := lift (revertIf p error)

/-- One atomic write. -/
def modify (f : σ → σ) : Durable σ ε Unit := fun s => ⟨[f s], .ok ()⟩

/-- A program and one more write, whether it returns or throws. -/
def thenAlways (x : Durable σ ε α) (f : σ → σ) : Durable σ ε α := fun s =>
  ⟨(x s).disks ++ [f (x.last s)], (x s).result⟩

/-- A program and one more write, where it throws. -/
def onError (x : Durable σ ε α) (f : σ → σ) : Durable σ ε α := fun s =>
  match (x s).result with
  | .ok a => ⟨(x s).disks, .ok a⟩
  | .error error => ⟨(x s).disks ++ [f (x.last s)], .error error⟩

/-- The disks a process can leave that dies after its first write. -/
def Leaves (x : Durable σ ε α) (s t : σ) : Prop := t ∈ (x s).disks

/-- Every disk that is left satisfies `I`, and what is returned with the last of them `Q`. -/
def Meets (I : σ → Prop) (Q : α → σ → Prop) (x : Durable σ ε α) (s : σ) : Prop :=
  (∀ t, x.Leaves s t → I t) ∧ ∀ a, (x s).result = .ok a → Q a (x.last s)

/-- The program returns, and what it returns with the last disk satisfies `Q`. -/
def Returns (Q : α → σ → Prop) (x : Durable σ ε α) (s : σ) : Prop :=
  ∃ a, (x s).result = .ok a ∧ Q a (x.last s)

/-! ## The last disk -/

section

variable {x : Durable σ ε α} {f : α → Durable σ ε β} {s : σ} {a : α}

/-- The last disk is one that was left, or the one that was there. -/
theorem last_eq_or_leaves (x : Durable σ ε α) (s : σ) : x.last s = s ∨ x.Leaves s (x.last s) := by
  unfold last Leaves
  cases h : (x s).disks using List.reverseRecOn with
  | nil => exact .inl rfl
  | append_singleton before t _ =>
      rw [List.getLastD_concat]
      exact .inr (List.mem_append_right _ List.mem_cons_self)

theorem bind_of_ok (h : (x s).result = .ok a) :
    (x >>= f) s = ⟨(x s).disks ++ (f a (x.last s)).disks, (f a (x.last s)).result⟩ := by
  show (match (x s).result with | .error _ => _ | .ok _ => _) = _
  rw [h]

theorem bind_of_error {error : ε} (h : (x s).result = .error error) :
    (x >>= f) s = ⟨(x s).disks, .error error⟩ := by
  show (match (x s).result with | .error _ => _ | .ok _ => _) = _
  rw [h]

theorem last_append {before after : List σ} (s : σ) :
    (before ++ after).getLastD s = after.getLastD (before.getLastD s) := by
  rcases List.eq_nil_or_concat after with rfl | ⟨rest, t, rfl⟩
  · rw [List.append_nil, List.getLastD_nil]
  · rw [List.concat_eq_append, ← List.append_assoc, List.getLastD_concat, List.getLastD_concat]

theorem last_bind (h : (x s).result = .ok a) : (x >>= f).last s = (f a).last (x.last s) := by
  rw [last, bind_of_ok h]
  exact last_append s

end

/-! ## Every disk that is left -/

section

variable {I J : σ → Prop} {Q R : α → σ → Prop} {x : Durable σ ε α} {s t : σ}

theorem Meets.mono (h : Meets I Q x s) (hI : ∀ t, I t → J t) (hQ : ∀ a t, Q a t → R a t) :
    Meets J R x s :=
  ⟨fun t ht => hI t (h.1 t ht), fun a ha => hQ a _ (h.2 a ha)⟩

/-- What holds of the disk and of every one that is left holds of the last. -/
theorem Meets.last (h : Meets I Q x s) (hs : I s) : I (x.last s) := by
  rcases last_eq_or_leaves x s with hsame | hleft
  · rw [hsame]
    exact hs
  · exact h.1 _ hleft

theorem Meets.and {R : α → σ → Prop} (h : Meets I Q x s) (h' : Meets J R x s) :
    Meets (fun t => I t ∧ J t) (fun a t => Q a t ∧ R a t) x s :=
  ⟨fun t ht => ⟨h.1 t ht, h'.1 t ht⟩, fun a ha => ⟨h.2 a ha, h'.2 a ha⟩⟩

/-- What holds of the disk and of every one that is left holds where the program returns. -/
theorem Meets.atEnd (h : Meets I Q x s) (hs : I s) : Meets I (fun a t => Q a t ∧ I t) x s :=
  ⟨h.1, fun a ha => ⟨h.2 a ha, h.last hs⟩⟩

@[simp] theorem meets_pure {a : α} : Meets (ε := ε) I Q (pure a) s ↔ Q a s := by
  constructor
  · intro h
    exact h.2 a rfl
  · intro h
    refine ⟨fun _ ht => (List.not_mem_nil ht).elim, ?_⟩
    intro _ ha
    obtain rfl := Except.ok.inj ha
    exact h

@[simp] theorem meets_reads {f : σ → Except ε α} :
    Meets I Q (reads f) s ↔ ∀ a, f s = .ok a → Q a s :=
  ⟨fun h => h.2, fun h => ⟨fun _ ht => (List.not_mem_nil ht).elim, h⟩⟩

@[simp] theorem meets_lift {y : Except ε α} : Meets I Q (lift y) s ↔ ∀ a, y = .ok a → Q a s :=
  meets_reads

@[simp] theorem meets_throwIf {p : Prop} [Decidable p] {error : ε} {Q : Unit → σ → Prop} :
    Meets I Q (throwIf p error) s ↔ (¬ p → Q () s) := by
  rw [throwIf, meets_lift]
  simp only [revertIf_ok_iff]
  exact ⟨fun h => h (), fun h _ => h⟩

@[simp] theorem meets_modify {f : σ → σ} {Q : Unit → σ → Prop} :
    Meets (ε := ε) I Q (modify f) s ↔ I (f s) ∧ Q () (f s) := by
  constructor
  · intro h
    exact ⟨h.1 _ List.mem_cons_self, h.2 _ rfl⟩
  · intro h
    exact ⟨fun _ ht => List.mem_singleton.mp ht ▸ h.1, fun _ _ => h.2⟩

@[simp] theorem meets_bind {f : α → Durable σ ε β} {Q : β → σ → Prop} :
    Meets I Q (x >>= f) s ↔ Meets I (fun a t => Meets I Q (f a) t) x s := by
  cases h : (x s).result with
  | error error =>
      unfold Meets Leaves
      rw [bind_of_error h, h]
      simp
  | ok a =>
      unfold Meets Leaves
      rw [last_bind h, bind_of_ok h, h]
      simp only [List.mem_append, Except.ok.injEq, forall_eq']
      constructor
      · intro hall
        exact ⟨fun t ht => hall.1 t (.inl ht), fun t ht => hall.1 t (.inr ht), hall.2⟩
      · rintro ⟨hbefore, hafter, hlast⟩
        exact ⟨fun t ht => ht.elim (hbefore t) (hafter t), hlast⟩

/-- The write that is made in any case is made on any disk that can be left. -/
theorem Meets.thenAlways {f : σ → σ} (h : Meets (fun t => I t ∧ I (f t)) (fun a t => Q a (f t)) x s)
    (hs : I (f s)) : Meets I Q (x.thenAlways f) s := by
  have hlast : I (f (x.last s)) := by
    rcases last_eq_or_leaves x s with hsame | hleft
    · rw [hsame]
      exact hs
    · exact (h.1 _ hleft).2
  constructor
  · intro t ht
    rcases List.mem_append.mp ht with hbefore | hend
    · exact (h.1 t hbefore).1
    · rw [List.mem_singleton.mp hend]
      exact hlast
  · intro a ha
    have hend : (x.thenAlways f).last s = f (x.last s) := List.getLastD_concat
    rw [hend]
    exact h.2 a ha

/-- The write that is made where a program throws is made on any disk that can be left. -/
theorem Meets.onError {f : σ → σ} (h : Meets (fun t => I t ∧ I (f t)) Q x s) (hs : I (f s)) :
    Meets I Q (x.onError f) s := by
  cases hresult : (x s).result with
  | ok a =>
      have heq : x.onError f s = ⟨(x s).disks, .ok a⟩ := by rw [Durable.onError, hresult]
      unfold Meets Leaves Durable.last
      rw [heq]
      refine ⟨fun t ht => (h.1 t ht).1, fun b hb => ?_⟩
      obtain rfl := Except.ok.inj hb
      exact h.2 a hresult
  | error error =>
      have heq : x.onError f s = ⟨(x s).disks ++ [f (x.last s)], .error error⟩ := by
        rw [Durable.onError, hresult]
      unfold Meets Leaves Durable.last
      rw [heq]
      refine ⟨fun t ht => ?_, fun b hb => nomatch hb⟩
      rcases List.mem_append.mp ht with hbefore | hend
      · exact (h.1 t hbefore).1
      · obtain rfl := List.mem_singleton.mp hend
        rcases last_eq_or_leaves x s with hsame | hleft
        · rw [hsame]
          exact hs
        · exact (h.1 _ hleft).2

end

/-! ## A disk that is left -/

section

variable {I : σ → Prop} {Q : α → σ → Prop} {x : Durable σ ε α} {f : α → Durable σ ε β} {s t : σ}

/-- What the first part of a program leaves, the program leaves. -/
theorem leaves_bind_left (h : x.Leaves s t) : (x >>= f).Leaves s t := by
  unfold Leaves
  cases hresult : (x s).result with
  | error error =>
      rw [bind_of_error hresult]
      exact h
  | ok a =>
      rw [bind_of_ok hresult]
      exact List.mem_append_left _ h

/-- And what the rest leaves, where the first part returns. -/
theorem leaves_bind_right (h : Returns (fun a u => (f a).Leaves u t) x s) :
    (x >>= f).Leaves s t := by
  obtain ⟨a, hresult, hleaves⟩ := h
  unfold Leaves
  rw [bind_of_ok hresult]
  exact List.mem_append_right _ hleaves

/-- What a program leaves, it leaves also where it is cleaned up after. -/
theorem leaves_onError {g : σ → σ} (h : x.Leaves s t) : (x.onError g).Leaves s t := by
  unfold Leaves Durable.onError at *
  cases (x s).result with
  | ok a => exact h
  | error error => exact List.mem_append_left _ h

/-- Once something was written, what holds of all that is left holds at the end. -/
theorem Meets.last_of_leaves (h : Meets I Q x s) (hleaves : x.Leaves s t) : I (x.last s) := by
  apply h.1
  unfold Leaves Durable.last at *
  cases hdisks : (x s).disks using List.reverseRecOn with
  | nil =>
      rw [hdisks] at hleaves
      exact (List.not_mem_nil hleaves).elim
  | append_singleton before last _ =>
      rw [List.getLastD_concat]
      exact List.mem_append_right _ List.mem_cons_self

/-- A program that only drops its answer ends where it did. -/
theorem last_bind_pure {b : α → β} : (x >>= fun a => pure (b a)).last s = x.last s := by
  cases hresult : (x s).result with
  | error error =>
      unfold Durable.last
      rw [bind_of_error hresult]
  | ok a => exact last_bind hresult

end

/-! ## Programs that return -/

section

variable {Q R : α → σ → Prop} {x : Durable σ ε α} {s : σ}

theorem Returns.mono (h : Returns Q x s) (hQ : ∀ a t, Q a t → R a t) : Returns R x s := by
  obtain ⟨a, ha, hlast⟩ := h
  exact ⟨a, ha, hQ a _ hlast⟩

/-- What is known of every disk that is left is known at the end. -/
theorem Returns.and {I : σ → Prop} (h : Returns Q x s) (hmeets : Meets I R x s) :
    Returns (fun a t => Q a t ∧ R a t) x s := by
  obtain ⟨a, ha, hlast⟩ := h
  exact ⟨a, ha, hlast, hmeets.2 a ha⟩

@[simp] theorem returns_pure {a : α} : Returns (ε := ε) Q (pure a) s ↔ Q a s := by
  constructor
  · rintro ⟨_, ha, h⟩
    obtain rfl := Except.ok.inj ha
    exact h
  · intro h
    exact ⟨a, rfl, h⟩

@[simp] theorem returns_reads {f : σ → Except ε α} :
    Returns Q (reads f) s ↔ ∃ a, f s = .ok a ∧ Q a s :=
  Iff.rfl

@[simp] theorem returns_lift {y : Except ε α} : Returns Q (lift y) s ↔ ∃ a, y = .ok a ∧ Q a s :=
  Iff.rfl

@[simp] theorem returns_throwIf {p : Prop} [Decidable p] {error : ε} {Q : Unit → σ → Prop} :
    Returns Q (throwIf p error) s ↔ ¬ p ∧ Q () s := by
  rw [throwIf, returns_lift]
  simp only [revertIf_ok_iff, exists_unit]

@[simp] theorem returns_modify {f : σ → σ} {Q : Unit → σ → Prop} :
    Returns (ε := ε) Q (modify f) s ↔ Q () (f s) := by
  constructor
  · rintro ⟨_, -, h⟩
    exact h
  · intro h
    exact ⟨_, rfl, h⟩

@[simp] theorem returns_bind {f : α → Durable σ ε β} {Q : β → σ → Prop} :
    Returns Q (x >>= f) s ↔ Returns (fun a t => Returns Q (f a) t) x s := by
  cases h : (x s).result with
  | error error =>
      unfold Returns
      rw [bind_of_error h, h]
      simp
  | ok a =>
      unfold Returns
      rw [last_bind h, bind_of_ok h, h]
      simp

@[simp] theorem returns_thenAlways {f : σ → σ} :
    Returns Q (x.thenAlways f) s ↔ Returns (fun a t => Q a (f t)) x s := by
  have hlast : (x.thenAlways f).last s = f (x.last s) := List.getLastD_concat
  unfold Returns
  rw [hlast]
  rfl

end

end Durable

end Mordant.Foundation
