/-
# Programs that run alone

Where no other party acts and none is lost, a program has one outcome.  `Solo` says of it
what is left where it returns and what is left where it throws.

An archive is calm where nothing goes wrong with its operations.  What a program does in
a calm archive depends on nothing but the objects.

A store with a quota is objects and nothing else; it may lack room for an object.  The parts
of a program either write nothing, and go on or throw, or write one object; what is written
is never taken back.
-/

import Mordant.Foundation.CreateOnce

namespace Mordant.Foundation

open Function (update)

section

variable {ι σ Op : Type} {Answer : Op → Type} {ε α β : Type} {effects : Effects ι σ Op Answer}
  {i : ι}

/-- What a program returns or throws, and the state it leaves. -/
def Program.alone (effects : Effects ι σ Op Answer) (i : ι) :
    Program Op Answer ε α → σ → Except ε α × σ
  | .ret result, s => (result, s)
  | .perform op next, s =>
    (next (effects.act i op s).1).alone effects i (effects.act i op s).2

/-- Alone, the program leaves `R` where it returns and `E` where it throws. -/
def Solo (effects : Effects ι σ Op Answer) (i : ι) (R : α → σ → Prop) (E : ε → σ → Prop)
    (x : Program Op Answer ε α) (s : σ) : Prop :=
  match x.alone effects i s with
  | (.ok a, t) => R a t
  | (.error error, t) => E error t

variable {R R' : α → σ → Prop} {E E' : ε → σ → Prop} {x : Program Op Answer ε α} {s t : σ}

theorem Solo.ok {a : α} (h : Solo effects i R E x s) (hx : x.alone effects i s = (.ok a, t)) :
    R a t := by
  rw [Solo, hx] at h
  exact h

theorem Solo.error {error : ε} (h : Solo effects i R E x s)
    (hx : x.alone effects i s = (.error error, t)) : E error t := by
  rw [Solo, hx] at h
  exact h

theorem Solo.mono (h : Solo effects i R E x s) (hR : ∀ a t, R a t → R' a t)
    (hE : ∀ error t, E error t → E' error t) : Solo effects i R' E' x s := by
  rw [Solo] at h ⊢
  split at h
  · exact hR _ _ h
  · exact hE _ _ h

theorem solo_pure {a : α} (h : R a s) :
    Solo effects i R E (pure a : Program Op Answer ε α) s := h

theorem solo_lift {y : Except ε α} (hok : ∀ a, y = .ok a → R a s)
    (herror : ∀ error, y = .error error → E error s) :
    Solo effects i R E (Program.lift y) s := by
  cases y with
  | ok a => exact hok a rfl
  | error error => exact herror error rfl

theorem solo_bind {R : β → σ → Prop} {f : α → Program Op Answer ε β}
    (h : Solo effects i (fun a t => Solo effects i R E (f a) t) E x s) :
    Solo effects i R E (x >>= f) s := by
  induction x generalizing s with
  | ret result =>
      cases result with
      | ok a => exact h
      | error error => exact h
  | perform op next ih => exact ih _ h

/-- What needs no operation and succeeds is passed over. -/
theorem alone_lift_bind {y : Except ε α} {a : α} {f : α → Program Op Answer ε β}
    (h : y = .ok a) :
    (Program.lift y >>= f).alone effects i s = (f a).alone effects i s := by
  rw [h]
  rfl

theorem alone_throwIf_bind {p : Prop} [Decidable p] {refusal : ε}
    {f : Unit → Program Op Answer ε β} (hp : ¬ p) :
    (Program.throwIf p refusal >>= f).alone effects i s = (f ()).alone effects i s :=
  alone_lift_bind (revertIf_ok_iff.mpr hp)

theorem solo_throwIf {p : Prop} [Decidable p] {refusal : ε} {R : Unit → σ → Prop}
    (hok : ¬ p → R () s) (herror : p → E refusal s) :
    Solo effects i R E (Program.throwIf p refusal) s := by
  apply solo_lift
  · intro _ h
    exact hok (revertIf_ok_iff.mp h)
  · intro error h
    by_cases hp : p
    · rw [revertIf, if_pos hp] at h
      obtain rfl := Except.error.inj h
      exact herror hp
    · rw [revertIf, if_neg hp] at h
      cases h

end

/-! ## Calm archives -/

section

variable {ι κ ν N ε α : Type} [DecidableEq κ] {i : ι} {w w' : Archive ι κ ν N}

/-- Nothing goes wrong. -/
def Archive.Calm (w : Archive ι κ ν N) : Prop :=
  ∀ n, (w.trouble n).hidden = (fun _ => false) ∧ (w.trouble n).refused = false

/-- An archive in which nothing goes wrong, with certain objects. -/
structure Archive.Holds (objects : Objects κ ν) (w : Archive ι κ ν N) : Prop where
  calm : w.Calm
  objects : w.objects = objects

variable {objects : Objects κ ν} {E : ε → Archive ι κ ν N → Prop}

theorem solo_look {R : Objects κ ν → Archive ι κ ν N → Prop} (hw : w.Holds objects)
    (h : ∀ t, t.Holds objects → R objects t) :
    Solo (archiveEffects ι κ ν N) i R E look w := by
  have hseen : w.objects.except (w.trouble w.performed).hidden = objects := by
    funext name
    rw [Objects.except, (hw.calm _).1, hw.objects]
    rfl
  show R (w.objects.except (w.trouble w.performed).hidden) w.tick
  rw [hseen]
  exact h w.tick ⟨hw.calm, hw.objects⟩

theorem solo_permit {R : Bool → Archive ι κ ν N → Prop} (hw : w.Holds objects)
    (h : ∀ t, t.Holds objects → R true t) :
    Solo (archiveEffects ι κ ν N) i R E permit w := by
  show R (!(w.trouble w.performed).refused) w.tick
  rw [(hw.calm _).2]
  exact h w.tick ⟨hw.calm, hw.objects⟩

theorem solo_takeNote {R : Unit → Archive ι κ ν N → Prop} {note : N} (hw : w.Holds objects)
    (h : ∀ t, t.Holds objects → R () t) :
    Solo (archiveEffects ι κ ν N) i R E (takeNote note) w :=
  h _ ⟨hw.calm, hw.objects⟩

theorem solo_create {R : Bool → Archive ι κ ν N → Prop} {name : κ} {value : ν}
    (hw : w.Holds objects) (htrue : objects name = none →
      ∀ t, t.Holds (update objects name (some value)) → R true t)
    (hfalse : (objects name).isSome → ∀ t, t.Holds objects → R false t) :
    Solo (archiveEffects ι κ ν N) i R E (create name value) w := by
  show R ((ArchiveOp.create name value).act i w).1 ((ArchiveOp.create name value).act i w).2
  cases hname : objects name with
  | none =>
      have hnot : ¬ ((w.trouble w.performed).refused = true ∨ (w.objects name).isSome) := by
        rw [(hw.calm _).2, hw.objects, hname]
        exact not_or.mpr ⟨nofun, nofun⟩
      rw [ArchiveOp.act, if_neg hnot]
      refine htrue hname _ ⟨hw.calm, ?_⟩
      exact congrArg (update · name (some value)) hw.objects
  | some found =>
      have hsome : (w.trouble w.performed).refused = true ∨ (w.objects name).isSome := by
        rw [hw.objects, hname]
        exact .inr rfl
      rw [ArchiveOp.act, if_pos hsome]
      exact hfalse (hname ▸ rfl) _ ⟨hw.calm, hw.objects⟩

/-- What a program comes to, and the objects it leaves, depend on the objects alone. -/
theorem alone_congr {x : Program (ArchiveOp κ ν N) ArchiveOp.Answer ε α}
    (hw : w.Holds objects) (hw' : w'.Holds objects) :
    (x.alone (archiveEffects ι κ ν N) i w).1 = (x.alone (archiveEffects ι κ ν N) i w').1 ∧
      (x.alone (archiveEffects ι κ ν N) i w).2.objects =
        (x.alone (archiveEffects ι κ ν N) i w').2.objects := by
  induction x generalizing w w' objects with
  | ret result => exact ⟨rfl, hw.objects.trans hw'.objects.symm⟩
  | perform op next ih =>
      -- the operation answers the same, and leaves the same objects
      have hstep : (op.act i w).1 = (op.act i w').1 ∧
          ∃ objects, (op.act i w).2.Holds objects ∧ (op.act i w').2.Holds objects := by
        have htick := And.intro (show w.tick.Holds objects from ⟨hw.calm, hw.objects⟩)
          (show w'.tick.Holds objects from ⟨hw'.calm, hw'.objects⟩)
        cases op with
        | look =>
            refine ⟨?_, objects, htick⟩
            show w.objects.except _ = w'.objects.except _
            rw [(hw.calm _).1, (hw'.calm _).1, hw.objects, hw'.objects]
        | permit =>
            refine ⟨?_, objects, htick⟩
            show (!_) = (!_)
            rw [(hw.calm _).2, (hw'.calm _).2]
        | note taken => exact ⟨rfl, objects, ⟨hw.calm, hw.objects⟩, ⟨hw'.calm, hw'.objects⟩⟩
        | create name value =>
            have hnot {v : Archive ι κ ν N} (hv : v.Holds objects) :
                ((v.trouble v.performed).refused = true ∨ (v.objects name).isSome) ↔
                  (objects name).isSome := by
              rw [(hv.calm _).2, hv.objects]
              exact or_iff_right Bool.false_ne_true
            by_cases hname : (objects name).isSome
            · rw [ArchiveOp.act, if_pos ((hnot hw).mpr hname), ArchiveOp.act,
                if_pos ((hnot hw').mpr hname)]
              exact ⟨rfl, objects, htick⟩
            · rw [ArchiveOp.act, if_neg (mt (hnot hw).mp hname), ArchiveOp.act,
                if_neg (mt (hnot hw').mp hname)]
              refine ⟨rfl, update objects name (some value), ⟨hw.calm, ?_⟩,
                ⟨hw'.calm, ?_⟩⟩
              · exact congrArg (update · name (some value)) hw.objects
              · exact congrArg (update · name (some value)) hw'.objects
      obtain ⟨hanswer, later, hleft, hright⟩ := hstep
      have hnext : next (op.act i w).1 = next (op.act i w').1 := congrArg next hanswer
      show ((next (op.act i w).1).alone (archiveEffects ι κ ν N) i (op.act i w).2).1 =
          ((next (op.act i w').1).alone (archiveEffects ι κ ν N) i (op.act i w').2).1 ∧
        ((next (op.act i w).1).alone (archiveEffects ι κ ν N) i (op.act i w).2).2.objects =
          ((next (op.act i w').1).alone (archiveEffects ι κ ν N) i (op.act i w').2).2.objects
      rw [hnext]
      exact ih (op.act i w').1 hleft hright

/-- What goes wrong is settled beforehand. -/
theorem trouble_alone (x : Program (ArchiveOp κ ν N) ArchiveOp.Answer ε α)
    (w : Archive ι κ ν N) :
    (x.alone (archiveEffects ι κ ν N) i w).2.trouble = w.trouble := by
  induction x generalizing w with
  | ret result => rfl
  | perform op next ih =>
      refine (ih (op.act i w).1 (op.act i w).2).trans ?_
      cases op with
      | look | permit | note => rfl
      | create name value =>
          rw [ArchiveOp.act]
          split
          · rfl
          · rfl

end

/-! ## Stores with quotas -/

section

variable {κ ν N ε α β : Type} [DecidableEq κ]

/-- Whether a store leaves room for an object. -/
abbrev Room (κ ν : Type) : Type := Objects κ ν → κ → ν → Bool

/-- Objects of which one party makes use. An object is created where there is none, and there
is room. -/
def storeEffects (room : Room κ ν) :
    Effects Unit (Objects κ ν) (ArchiveOp κ ν N) ArchiveOp.Answer where
  act _ op objects := match op with
    | .look => (objects, objects)
    | .create name value =>
      if objects name = none ∧ room objects name value = true then
        (true, update objects name (some value))
      else (false, objects)
    | .permit => (true, objects)
    | .note _ => ((), objects)
  lost _ objects := objects

/-- An object is not there, and there is room for it. -/
def Creates (room : Room κ ν) (objects : Objects κ ν) (name : κ) (value : ν) : Prop :=
  objects name = none ∧ room objects name value = true

variable {room : Room κ ν} {objects : Objects κ ν}
  {task : Program (ArchiveOp κ ν N) ArchiveOp.Answer ε α}
  {f : α → Program (ArchiveOp κ ν N) ArchiveOp.Answer ε β} {W T T' : Prop} {P : α → Prop}

/-- What is there stays there. -/
theorem solo_extends (task : Program (ArchiveOp κ ν N) ArchiveOp.Answer ε α)
    (objects : Objects κ ν) :
    Solo (storeEffects room) () (fun _ after => objects.Extends after)
      (fun _ after => objects.Extends after) task objects := by
  induction task generalizing objects with
  | ret result => cases result <;> exact .refl objects
  | perform op next ih =>
      have hstep : objects.Extends ((storeEffects room).act () op objects).2 := by
        cases op with
        | look | permit | note => exact .refl objects
        | create name value =>
            rw [storeEffects]
            dsimp only
            split
            · next hfree => exact Objects.extends_update value hfree.1
            · exact .refl objects
      exact (ih _ _).mono (fun _ _ => hstep.trans) (fun _ _ => hstep.trans)

/-- A look shows what is there. -/
theorem solo_look_bind {R : β → Objects κ ν → Prop} {E : ε → Objects κ ν → Prop}
    {f : Objects κ ν → Program (ArchiveOp κ ν N) ArchiveOp.Answer ε β}
    (h : Solo (storeEffects room) () R E (f objects) objects) :
    Solo (storeEffects room) () R E (look >>= f) objects := h

/-- An object is created, or nothing is. -/
theorem solo_create_bind {R : β → Objects κ ν → Prop} {E : ε → Objects κ ν → Prop}
    {f : Bool → Program (ArchiveOp κ ν N) ArchiveOp.Answer ε β} {name : κ} {value : ν}
    (htrue : objects name = none → room objects name value = true →
      Solo (storeEffects room) () R E (f true) (update objects name (some value)))
    (hfalse : ¬ Creates room objects name value →
      Solo (storeEffects room) () R E (f false) objects) :
    Solo (storeEffects room) () R E (create name value >>= f) objects := by
  show Solo (storeEffects room) () R E
    (f ((storeEffects room).act () (.create name value) objects).1)
    ((storeEffects room).act () (.create name value) objects).2
  by_cases hfree : objects name = none ∧ room objects name value = true
  · rw [storeEffects]
    dsimp only
    rw [if_pos hfree]
    exact htrue hfree.1 hfree.2
  · rw [storeEffects]
    dsimp only
    rw [if_neg hfree]
    exact hfalse hfree

theorem alone_create_bind {f : Bool → Program (ArchiveOp κ ν N) ArchiveOp.Answer ε β} {name : κ}
    {value : ν} (hfree : Creates room objects name value) :
    (create name value >>= f).alone (storeEffects room) () objects =
      (f true).alone (storeEffects room) () (update objects name (some value)) := by
  show (f ((storeEffects room).act () (.create name value) objects).1).alone (storeEffects room) ()
    ((storeEffects room).act () (.create name value) objects).2 = _
  have hact : (storeEffects room).act () (ArchiveOp.create name value : ArchiveOp κ ν N) objects =
      (true, update objects name (some value)) := if_pos hfree
  rw [hact]

/-! ## What is left of a program that throws -/

/-- A part of a program. It writes under `W`; where it writes nothing, it goes on with an `a`
of which `P` holds, or throws. -/
def WritesUnder (room : Room κ ν) (objects : Objects κ ν) (W : Prop) (P : α → Prop)
    (task : Program (ArchiveOp κ ν N) ArchiveOp.Answer ε α) : Prop :=
  Solo (storeEffects room) ()
    (fun a after => (after = objects ∧ ¬ W ∧ P a ∧ ∀ b, P b → b = a) ∨
      (W ∧ ∃ name value, objects name = none ∧ after name = some value))
    (fun _ after => after = objects ∧ ¬ W ∧ ∀ a, ¬ P a) task objects

/-- Where the rest of a program throws, it has left a trace under `T`. -/
def Traced (room : Room κ ν) (objects : Objects κ ν) (T : Prop)
    (task : Program (ArchiveOp κ ν N) ArchiveOp.Answer ε α) : Prop :=
  Solo (storeEffects room) () (fun _ _ => True) (fun _ after => after = objects ↔ ¬ T) task objects

/-- What is written in a part is a trace, whatever becomes of the rest. -/
theorem WritesUnder.bind {T : α → Prop} (h : WritesUnder room objects W P task)
    (hf : ∀ a, P a → Traced room objects (T a) (f a)) :
    Traced room objects (W ∨ ∃ a, P a ∧ T a) (task >>= f) := by
  apply solo_bind
  refine Solo.mono h ?_ ?_
  · rintro a after (⟨rfl, hW, hP, hunique⟩ | ⟨hW, name, value, hnone, hsome⟩)
    · refine Solo.mono (hf a hP) (fun _ _ h => h) fun error last hiff => hiff.trans (not_congr ?_)
      constructor
      · intro hT
        exact .inr ⟨a, hP, hT⟩
      · rintro (hW' | ⟨b, hb, hT⟩)
        · exact (hW hW').elim
        · obtain rfl := hunique b hb
          exact hT
    · refine (solo_extends (f a) after).mono (fun _ _ _ => trivial) fun error last hextends => ?_
      constructor
      · rintro rfl
        exact nomatch hnone.symm.trans (hextends name value hsome)
      · intro hnot
        exact (hnot (.inl hW)).elim
  · rintro error after ⟨rfl, hW, hP⟩
    refine ⟨fun _ => ?_, fun _ => rfl⟩
    rintro (hW' | ⟨a, ha, -⟩)
    · exact hW hW'
    · exact hP a ha

theorem Traced.congr (h : Traced room objects T task) (hiff : T ↔ T') :
    Traced room objects T' task :=
  Solo.mono h (fun _ _ h => h) fun _ _ h => h.trans (not_congr hiff)

/-- A part that can go on in one way only. -/
theorem WritesUnder.bind_of {Q : Prop} {a : α}
    (h : WritesUnder room objects W (fun b => b = a ∧ Q) task)
    (hf : Q → Traced room objects T (f a)) : Traced room objects (W ∨ Q ∧ T) (task >>= f) := by
  have hbind : Traced room objects (W ∨ ∃ b, (b = a ∧ Q) ∧ T) (task >>= f) := by
    apply h.bind
    rintro _ ⟨rfl, hQ⟩
    exact hf hQ
  apply hbind.congr
  refine or_congr_right ⟨fun ⟨_, ⟨_, hQ⟩, hT⟩ => ⟨hQ, hT⟩, fun ⟨hQ, hT⟩ => ⟨a, ⟨rfl, hQ⟩, hT⟩⟩

theorem writesUnder_lift {y : Except ε α} :
    WritesUnder room objects False (fun a => y = .ok a)
      (Program.lift y : Program (ArchiveOp κ ν N) ArchiveOp.Answer ε α) := by
  apply solo_lift
  · intro a ha
    exact .inl ⟨rfl, id, ha, fun b hb => Except.ok.inj (hb.symm.trans ha)⟩
  · intro error herror
    exact ⟨rfl, id, fun a ha => nomatch herror.symm.trans ha⟩

theorem writesUnder_throwIf {p : Prop} [Decidable p] {refusal : ε} :
    WritesUnder room objects False (fun u => u = () ∧ ¬ p)
      (Program.throwIf p refusal : Program (ArchiveOp κ ν N) ArchiveOp.Answer ε Unit) := by
  apply solo_throwIf
  · intro hp
    exact .inl ⟨rfl, id, ⟨rfl, hp⟩, fun _ _ => rfl⟩
  · intro hp
    exact ⟨rfl, id, fun _ hnot => hnot.2 hp⟩

end

end Mordant.Foundation
