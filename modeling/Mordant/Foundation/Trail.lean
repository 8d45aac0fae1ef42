/-
# What a program does, write by write

Every write takes a disk to one that is related to it.  `Trail` says that all writes of a
program are of that kind, and what holds of its outcome, whether it returns or throws; it is
computed from the program by rewriting.  An invariant that every such write keeps then holds
of every disk that the program can leave.

A program may go on after an error, and one that runs on a part of a disk runs on the whole.
-/

import Mathlib.Data.List.Chain
import Mordant.Foundation.Durable

namespace Mordant.Foundation

namespace Durable

variable {σ : Type} {ε α β : Type}

/-- A program, and another in place of its error. -/
def rescue (x : Durable σ ε α) (handler : ε → Durable σ ε α) : Durable σ ε α := fun s =>
  match (x s).result with
  | .ok a => ⟨(x s).disks, .ok a⟩
  | .error error =>
    ⟨(x s).disks ++ (handler error (x.last s)).disks, (handler error (x.last s)).result⟩

/-- Every write is one of `R`, and the outcome satisfies `Q`. -/
def Trail (R : σ → σ → Prop) (Q : Except ε α → σ → Prop) (x : Durable σ ε α) (s : σ) : Prop :=
  List.IsChain R (s :: (x s).disks) ∧ Q (x s).result (x.last s)

/-! ## Computing trails -/

section

variable {R : σ → σ → Prop} {Q : Except ε α → σ → Prop} {x : Durable σ ε α} {s : σ}

theorem isChain_append {before after : List σ} :
    List.IsChain R (s :: (before ++ after)) ↔
      List.IsChain R (s :: before) ∧ List.IsChain R (before.getLastD s :: after) := by
  induction before generalizing s with
  | nil => simp
  | cons t before ih =>
      rw [List.cons_append, List.isChain_cons_cons, List.isChain_cons_cons, ih, and_assoc,
        List.getLastD_cons]

@[simp] theorem trail_pure {a : α} : Trail R Q (pure a) s ↔ Q (.ok a) s :=
  and_iff_right (List.isChain_singleton _)

@[simp] theorem trail_reads {f : σ → Except ε α} : Trail R Q (reads f) s ↔ Q (f s) s :=
  and_iff_right (List.isChain_singleton _)

@[simp] theorem trail_lift {y : Except ε α} : Trail R Q (lift y) s ↔ Q y s := trail_reads

@[simp] theorem trail_throwIf {p : Prop} [Decidable p] {error : ε}
    {Q : Except ε Unit → σ → Prop} :
    Trail R Q (throwIf p error) s ↔ (p → Q (.error error) s) ∧ (¬ p → Q (.ok ()) s) := by
  rw [throwIf, trail_lift, revertIf]
  split
  · next hp => simp [hp]
  · next hp => simp [hp]

@[simp] theorem trail_modify {f : σ → σ} {Q : Except ε Unit → σ → Prop} :
    Trail R Q (modify f) s ↔ R s (f s) ∧ Q (.ok ()) (f s) :=
  and_congr_left fun _ => List.isChain_pair

/-- What comes next starts from what the first program leaves, unless it throws. -/
theorem trail_bind {f : α → Durable σ ε β} {Q : Except ε β → σ → Prop} :
    Trail R Q (x >>= f) s ↔ Trail R (fun result t =>
      match result with
      | .ok a => Trail R Q (f a) t
      | .error error => Q (.error error) t) x s := by
  cases h : (x s).result with
  | error error =>
      unfold Trail Durable.last
      rw [bind_of_error h, h]
  | ok a =>
      unfold Trail
      rw [last_bind h, bind_of_ok h, h, isChain_append, and_assoc]
      rfl

/-- A handler starts from what the program leaves that throws. -/
theorem trail_rescue {handler : ε → Durable σ ε α} :
    Trail R Q (x.rescue handler) s ↔ Trail R (fun result t =>
      match result with
      | .ok a => Q (.ok a) t
      | .error error => Trail R Q (handler error) t) x s := by
  cases h : (x s).result with
  | ok a =>
      have heq : x.rescue handler s = ⟨(x s).disks, .ok a⟩ := by rw [rescue, h]
      unfold Trail Durable.last
      rw [heq, h]
  | error error =>
      have heq : x.rescue handler s = ⟨(x s).disks ++ (handler error (x.last s)).disks,
          (handler error (x.last s)).result⟩ := by rw [rescue, h]
      have hlast : (x.rescue handler).last s = (handler error).last (x.last s) := by
        rw [Durable.last, heq]
        exact last_append s
      unfold Trail
      rw [hlast, heq, h, isChain_append, and_assoc]
      rfl

end

end Durable

end Mordant.Foundation
