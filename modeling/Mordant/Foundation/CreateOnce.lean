/-
# Stores whose objects are created once

An archive holds objects by name.  An object is created as a whole, once, and stays as it
was created.  Any number of parties look at the archive and create objects in it, their
operations in any order; a look may miss objects, and any operation may be refused.

Parties also take note of what they do elsewhere.  A note is of some kind, and each kind
is reserved to the party that created a certain object, once.

A charter says what justifies a deed.  In an archive whose parties only do what is
justified, every object and every note is justified by the deeds before it, and no object
is created twice, nor a note of one kind taken twice.
-/

import Mordant.Foundation.Chronicle
import Mordant.Foundation.Interleaving

namespace Mordant.Foundation

/-! ## Archives -/

/-- Objects by name. -/
abbrev Objects (κ ν : Type) : Type := κ → Option ν

/-- What was there is there, as it was. -/
def Objects.Extends {κ ν : Type} (objects later : Objects κ ν) : Prop :=
  ∀ name value, objects name = some value → later name = some value

/-- What a party did: it created an object, or took note of something. -/
inductive Deed (ι κ ν N : Type)
  | created (party : ι) (name : κ) (value : ν)
  | noted (party : ι) (note : N)

/-- What can go wrong with an operation: objects that are not seen, and a refusal. -/
structure Trouble (κ : Type) where
  hidden : κ → Bool := fun _ => false
  refused : Bool := false

/-- The objects, what goes wrong with which operation, how many were performed, and what
was done, newest first. -/
structure Archive (ι κ ν N : Type) where
  objects : Objects κ ν
  trouble : ℕ → Trouble κ := fun _ => {}
  performed : ℕ := 0
  history : List (Deed ι κ ν N) := []

/-- A party looks at the objects, creates one, asks for a permit, or takes note. -/
inductive ArchiveOp (κ ν N : Type)
  | look
  | create (name : κ) (value : ν)
  | permit
  | note (note : N)

abbrev ArchiveOp.Answer {κ ν N : Type} : ArchiveOp κ ν N → Type
  | .look => Objects κ ν
  | .create _ _ => Bool
  | .permit => Bool
  | .note _ => Unit

section

variable {ι κ ν N : Type} [DecidableEq κ]

def Deed.party : Deed ι κ ν N → ι
  | .created i _ _ => i
  | .noted i _ => i

/-- What an archive shows where some objects are hidden. -/
def Objects.except (objects : Objects κ ν) (hidden : κ → Bool) : Objects κ ν :=
  fun name => if hidden name then none else objects name

namespace Archive

def tick (w : Archive ι κ ν N) : Archive ι κ ν N := { w with performed := w.performed + 1 }

/-- An object is added. -/
def add (w : Archive ι κ ν N) (i : ι) (name : κ) (value : ν) : Archive ι κ ν N :=
  { w with
    objects := Function.update w.objects name (some value)
    history := .created i name value :: w.history }

def write (w : Archive ι κ ν N) (i : ι) (note : N) : Archive ι κ ν N :=
  { w with history := .noted i note :: w.history }

end Archive

/-- What an operation answers and does. An object is created where there is none. -/
def ArchiveOp.act (i : ι) : (op : ArchiveOp κ ν N) → Archive ι κ ν N →
    op.Answer × Archive ι κ ν N
  | .look, w => (w.objects.except (w.trouble w.performed).hidden, w.tick)
  | .create name value, w =>
    if (w.trouble w.performed).refused = true ∨ (w.objects name).isSome then (false, w.tick)
    else (true, w.tick.add i name value)
  | .permit, w => (!(w.trouble w.performed).refused, w.tick)
  | .note taken, w => ((), w.tick.write i taken)

/-- Losing a party changes nothing that is shared. -/
def archiveEffects (ι κ ν N : Type) [DecidableEq κ] :
    Effects ι (Archive ι κ ν N) (ArchiveOp κ ν N) ArchiveOp.Answer :=
  ⟨ArchiveOp.act, fun _ w => w⟩

end

section

variable {κ ν N ε : Type}

def look : Program (ArchiveOp κ ν N) ArchiveOp.Answer ε (Objects κ ν) :=
  Program.ask (ArchiveOp.look : ArchiveOp κ ν N)

def create (name : κ) (value : ν) : Program (ArchiveOp κ ν N) ArchiveOp.Answer ε Bool :=
  Program.ask (ArchiveOp.create name value)

def permit : Program (ArchiveOp κ ν N) ArchiveOp.Answer ε Bool :=
  Program.ask (ArchiveOp.permit : ArchiveOp κ ν N)

def takeNote (note : N) : Program (ArchiveOp κ ν N) ArchiveOp.Answer ε Unit :=
  Program.ask (ArchiveOp.note note)

end

section

variable {κ ν : Type} {objects later latest : Objects κ ν}

theorem Objects.Extends.refl (objects : Objects κ ν) : objects.Extends objects :=
  fun _ _ h => h

theorem Objects.Extends.trans (h : objects.Extends later) (h' : later.Extends latest) :
    objects.Extends latest :=
  fun name value hvalue => h' name value (h name value hvalue)

/-- Nothing is seen that is not there. -/
theorem Objects.except_extends (objects : Objects κ ν) (hidden : κ → Bool) :
    (objects.except hidden).Extends objects := by
  intro name value h
  rw [Objects.except] at h
  split at h
  · exact nomatch h
  · exact h

theorem Objects.extends_update [DecidableEq κ] {name : κ} (value : ν)
    (hnone : objects name = none) :
    objects.Extends (Function.update objects name (some value)) := by
  intro other found h
  have hne : other ≠ name := by
    rintro rfl
    exact nomatch h.symm.trans hnone
  rw [Function.update_of_ne hne]
  exact h

end

/-! ## Charters -/

/-- What parties may do, in an archive that starts with some objects. A note of a kind is
reserved to the party that created the object behind it. -/
structure Charter (ι κ ν N K : Type) where
  initial : Objects κ ν
  kind : N → K
  backing : K → κ
  Justified : List (Deed ι κ ν N) → Deed ι κ ν N → Prop
  mono : ∀ {history history' deed}, history ⊆ history' → Justified history deed →
    Justified history' deed
  backed : ∀ {history i note}, Justified history (.noted i note) →
    ∃ value, .created i (backing (kind note)) value ∈ history

variable {ι κ ν N K : Type} {charter : Charter ι κ ν N K} {w w' w'' : Archive ι κ ν N} {i j : ι}
  {name : κ} {value value' : ν}

/-- What a deed claims: the name of an object, or a kind of note. -/
def Charter.claim (charter : Charter ι κ ν N K) : Deed ι κ ν N → Option (κ ⊕ K)
  | .created _ name _ => some (.inl name)
  | .noted _ note => some (.inr (charter.kind note))

/-- What holds at all times. -/
structure Archive.Sound (charter : Charter ι κ ν N K) (w : Archive ι κ ν N) : Prop where
  stored : ∀ {name value}, w.objects name = some value ↔
    charter.initial name = some value ∨ ∃ i, .created i name value ∈ w.history
  fresh : ∀ {i name value}, .created i name value ∈ w.history → charter.initial name = none
  chronicle : Chronicle charter.Justified w.history
  claimed : ClaimedOnce charter.claim w.history

section

variable {deed : Deed ι κ ν N}

theorem Archive.Sound.start (trouble : ℕ → Trouble κ) :
    Archive.Sound charter { objects := charter.initial, trouble } where
  stored := ⟨.inl, fun h => h.elim id fun ⟨_, h⟩ => nomatch h⟩
  fresh h := nomatch h
  chronicle := trivial
  claimed := List.nodup_nil

theorem Archive.Sound.tick (h : w.Sound charter) : w.tick.Sound charter :=
  ⟨h.stored, h.fresh, h.chronicle, h.claimed⟩

/-- What was done is justified by what was done. -/
theorem Archive.Sound.justified (h : w.Sound charter) (hdeed : deed ∈ w.history) :
    charter.Justified w.history deed :=
  h.chronicle.of_mem charter.mono hdeed

/-- And by what was done before. -/
theorem Archive.Sound.justified_before (h : w.Sound charter)
    {later earlier : List (Deed ι κ ν N)} (heq : w.history = later ++ deed :: earlier) :
    charter.Justified earlier deed := by
  have hchronicle := h.chronicle
  rw [heq] at hchronicle
  exact hchronicle.of_split

/-- An object has one creator. -/
theorem Archive.Sound.creator (h : w.Sound charter) (hcreated : .created i name value ∈ w.history)
    (hcreated' : .created j name value' ∈ w.history) : i = j ∧ value = value' := by
  obtain ⟨rfl, -, rfl⟩ := Deed.created.inj (h.claimed.eq hcreated hcreated' rfl rfl)
  exact ⟨rfl, rfl⟩

/-- A note of one kind is taken once. -/
theorem Archive.Sound.noted (h : w.Sound charter) {note note' : N}
    (hnoted : .noted i note ∈ w.history) (hnoted' : .noted j note' ∈ w.history)
    (hkind : charter.kind note = charter.kind note') : i = j ∧ note = note' := by
  have hclaim : charter.claim (.noted i note : Deed ι κ ν N) =
      charter.claim (.noted j note' : Deed ι κ ν N) := by
    rw [Charter.claim, Charter.claim, hkind]
  exact Deed.noted.inj (h.claimed.eq hnoted hnoted' rfl hclaim.symm)

/-- What is there was there at the start or was created since. -/
theorem Archive.Sound.created (h : w.Sound charter) (hvalue : w.objects name = some value)
    (hinitial : charter.initial name = none) : ∃ i, .created i name value ∈ w.history := by
  rcases h.stored.mp hvalue with hstart | hcreated
  · exact nomatch hinitial.symm.trans hstart
  · exact hcreated

theorem Archive.Sound.there (h : w.Sound charter) (hcreated : .created i name value ∈ w.history) :
    w.objects name = some value :=
  h.stored.mpr (.inr ⟨i, hcreated⟩)

theorem Archive.Sound.write (h : w.Sound charter) {note : N}
    (hjustified : charter.Justified w.history (.noted i note))
    (hfirst : ∀ note', charter.kind note' = charter.kind note → .noted i note' ∉ w.history) :
    (w.write i note).Sound charter where
  stored := by
    refine h.stored.trans (or_congr_right (exists_congr fun j => ?_))
    exact ⟨List.mem_cons_of_mem _, fun hmem => (List.mem_cons.mp hmem).resolve_left nofun⟩
  fresh hmem := h.fresh ((List.mem_cons.mp hmem).resolve_left nofun)
  chronicle := ⟨hjustified, h.chronicle⟩
  claimed := by
    refine h.claimed.cons fun claimed hclaimed other hother hsame => ?_
    obtain rfl := Option.some.inj hclaimed
    cases other with
    | created j name value => exact nomatch Option.some.inj hsame
    | noted j note' =>
        have hkind := Sum.inr.inj (Option.some.inj hsame)
        -- both notes are reserved to the creator of one object
        obtain ⟨first, hbacked⟩ := charter.backed hjustified
        obtain ⟨second, hbacked'⟩ := charter.backed (h.justified hother)
        rw [hkind] at hbacked'
        obtain ⟨rfl, -⟩ := h.creator hbacked hbacked'
        exact hfirst note' hkind hother

variable [DecidableEq κ]

theorem Archive.Sound.add (h : w.Sound charter) (hnone : w.objects name = none)
    (hjustified : charter.Justified w.history (.created i name value)) :
    (w.add i name value).Sound charter where
  stored {other found} := by
    show Function.update w.objects name (some value) other = some found ↔ _
    by_cases hother : other = name
    · subst hother
      rw [Function.update_self]
      constructor
      · intro heq
        obtain rfl := Option.some.inj heq
        exact .inr ⟨i, List.mem_cons_self⟩
      · rintro (hstart | ⟨j, hmem⟩)
        · exact nomatch hnone.symm.trans (h.stored.mpr (.inl hstart))
        · rcases List.mem_cons.mp hmem with heq | hmem
          · obtain ⟨-, -, rfl⟩ := Deed.created.inj heq
            rfl
          · exact nomatch hnone.symm.trans (h.there hmem)
    · rw [Function.update_of_ne hother, h.stored]
      refine or_congr_right (exists_congr fun j => ?_)
      constructor
      · exact List.mem_cons_of_mem _
      · intro hmem
        refine (List.mem_cons.mp hmem).resolve_left fun heq => ?_
        exact hother (Deed.created.inj heq).2.1
  fresh hmem := by
    rcases List.mem_cons.mp hmem with heq | hmem
    · obtain ⟨rfl, rfl, rfl⟩ := Deed.created.inj heq
      by_contra hsome
      obtain ⟨found, hfound⟩ := Option.ne_none_iff_exists'.mp hsome
      exact nomatch hnone.symm.trans (h.stored.mpr (.inl hfound))
    · exact h.fresh hmem
  chronicle := ⟨hjustified, h.chronicle⟩
  claimed := by
    refine h.claimed.cons fun claimed hclaimed other hother hsame => ?_
    obtain rfl := Option.some.inj hclaimed
    cases other with
    | created j name' value' =>
        obtain rfl := Sum.inl.inj (Option.some.inj hsame)
        exact nomatch hnone.symm.trans (h.there hother)
    | noted j note => exact nomatch Option.some.inj hsame

end

/-! ## What the parties leave -/

/-- What is left where only parties of a kind acted: the archive is as sound as before, no
object is gone, and the history has grown. -/
structure Archive.After (charter : Charter ι κ ν N K) (acted : ι → Prop)
    (w w' : Archive ι κ ν N) : Prop where
  sound : w.Sound charter → w'.Sound charter
  objects : w.objects.Extends w'.objects
  history : ∃ deeds, w'.history = deeds ++ w.history ∧ ∀ deed ∈ deeds, acted deed.party

variable {acted acted' : ι → Prop}

theorem Archive.After.refl (w : Archive ι κ ν N) : w.After charter acted w :=
  ⟨id, .refl _, [], rfl, fun _ h => nomatch h⟩

theorem Archive.After.trans (h : w.After charter acted w') (h' : w'.After charter acted w'') :
    w.After charter acted w'' where
  sound hsound := h'.sound (h.sound hsound)
  objects := h.objects.trans h'.objects
  history := by
    obtain ⟨deeds, heq, hdeeds⟩ := h.history
    obtain ⟨deeds', heq', hdeeds'⟩ := h'.history
    refine ⟨deeds' ++ deeds, by rw [heq', heq, List.append_assoc], fun deed hmem => ?_⟩
    exact (List.mem_append.mp hmem).elim (hdeeds' deed) (hdeeds deed)

theorem Archive.After.mono (h : w.After charter acted w') (hacted : ∀ i, acted i → acted' i) :
    w.After charter acted' w' where
  sound := h.sound
  objects := h.objects
  history := by
    obtain ⟨deeds, heq, hdeeds⟩ := h.history
    exact ⟨deeds, heq, fun deed hmem => hacted _ (hdeeds deed hmem)⟩

/-- No object is gone and nothing that was done is forgotten. -/
structure Archive.Later (w w' : Archive ι κ ν N) : Prop where
  objects : w.objects.Extends w'.objects
  history : ∃ deeds, w'.history = deeds ++ w.history

theorem Archive.After.later (h : w.After charter acted w') : w.Later w' where
  objects := h.objects
  history := by
    obtain ⟨deeds, heq, -⟩ := h.history
    exact ⟨deeds, heq⟩

theorem Archive.Later.refl (w : Archive ι κ ν N) : w.Later w := ⟨.refl _, [], rfl⟩

theorem Archive.Later.trans (h : w.Later w') (h' : w'.Later w'') : w.Later w'' where
  objects := h.objects.trans h'.objects
  history := by
    obtain ⟨deeds, heq⟩ := h.history
    obtain ⟨deeds', heq'⟩ := h'.history
    exact ⟨deeds' ++ deeds, by rw [heq', heq, List.append_assoc]⟩

theorem Archive.Later.subset (h : w.Later w') : w.history ⊆ w'.history := by
  obtain ⟨deeds, heq⟩ := h.history
  rw [heq]
  exact List.subset_append_right _ _

theorem Archive.after_tick (w : Archive ι κ ν N) : w.After charter acted w.tick :=
  ⟨.tick, .refl _, [], rfl, fun _ h => nomatch h⟩

theorem Archive.Later.tick (h : w.Later w') : w.Later w'.tick := ⟨h.objects, h.history⟩

/-! ## What the parties know -/

variable [DecidableEq κ]

/-- What a party must know to perform an operation. -/
def Charter.Knows (charter : Charter ι κ ν N K) (i : ι) :
    ArchiveOp κ ν N → Archive ι κ ν N → Prop
  | .look, _ | .permit, _ => True
  | .create name value, w => charter.Justified w.history (.created i name value)
  | .note note, w => charter.Justified w.history (.noted i note) ∧
      ∀ note', charter.kind note' = charter.kind note → .noted i note' ∉ w.history

/-- **Step.** An operation performed with the knowledge it needs. -/
theorem Charter.act_after {op : ArchiveOp κ ν N} (hknows : charter.Knows i op w) :
    w.After charter (· = i) (op.act i w).2 := by
  cases op with
  | look => exact w.after_tick
  | permit => exact w.after_tick
  | note taken =>
      refine ⟨fun h => h.tick.write hknows.1 hknows.2, .refl _, [_], rfl, fun deed hmem => ?_⟩
      obtain rfl := List.mem_singleton.mp hmem
      rfl
  | create name value =>
      by_cases hrefused : (w.trouble w.performed).refused = true ∨ (w.objects name).isSome
      · rw [ArchiveOp.act, if_pos hrefused]
        exact w.after_tick
      · rw [ArchiveOp.act, if_neg hrefused]
        have hnone : w.objects name = none :=
          Option.not_isSome_iff_eq_none.mp (not_or.mp hrefused).2
        refine ⟨fun h => h.tick.add hnone hknows, Objects.extends_update value hnone, [_], rfl,
          fun deed hmem => ?_⟩
        obtain rfl := List.mem_singleton.mp hmem
        rfl

/-- What parties know and rely on. A party starts before it did anything. -/
def Charter.discipline (charter : Charter ι κ ν N K) :
    Discipline (archiveEffects ι κ ν N) where
  knows := charter.Knows
  ready i w := w.Sound charter ∧ ∀ deed ∈ w.history, deed.party ≠ i
  rely i := Archive.After charter (· ≠ i)
  refl _ w := .refl w
  trans h h' := h.trans h'
  ready_rely hready h := by
    refine ⟨h.sound hready.1, fun deed hmem => ?_⟩
    obtain ⟨deeds, heq, hdeeds⟩ := h.history
    rw [heq] at hmem
    exact (List.mem_append.mp hmem).elim (hdeeds deed) (hready.2 deed)
  rely_act hne hknows := by
    refine (charter.act_after hknows).mono ?_
    rintro _ rfl
    exact hne.symm
  rely_lost _ := .refl _

section

variable [DecidableEq ι] {ε α β : Type} {mine : List (Deed ι κ ν N)}

/-- What a party has done itself. -/
def Archive.own (w : Archive ι κ ν N) (i : ι) : List (Deed ι κ ν N) :=
  w.history.filter fun deed => deed.party = i

/-- Where a party stands: in a sound archive, after some deeds of its own. -/
structure Charter.At (charter : Charter ι κ ν N K) (i : ι) (mine : List (Deed ι κ ν N))
    (w : Archive ι κ ν N) : Prop where
  sound : w.Sound charter
  own : w.own i = mine

omit [DecidableEq κ] in
theorem Charter.At.mem {deed : Deed ι κ ν N} (h : charter.At i mine w) (hdeed : deed ∈ mine) :
    deed ∈ w.history :=
  (List.mem_filter.mp (h.own ▸ hdeed)).1

omit [DecidableEq κ] in
theorem Charter.At.own_cons (h : charter.At i mine w) (deed : Deed ι κ ν N)
    (hparty : deed.party = i) :
    (deed :: w.history).filter (fun deed => deed.party = i) = deed :: mine := by
  have hmine : (decide (deed.party = i)) = true := decide_eq_true hparty
  rw [List.filter_cons, if_pos hmine]
  exact congrArg _ h.own

/-- The others leave a party where it stands. -/
theorem Charter.At.rely (h : charter.At i mine w) (hrely : charter.discipline.rely i w w') :
    charter.At i mine w' where
  sound := hrely.sound h.sound
  own := by
    obtain ⟨deeds, heq, hdeeds⟩ := hrely.history
    have hnone : deeds.filter (fun deed => deed.party = i) = [] :=
      List.filter_eq_nil_iff.mpr fun deed hmem hparty => hdeeds deed hmem (of_decide_eq_true hparty)
    rw [Archive.own, heq, List.filter_append, hnone, List.nil_append]
    exact h.own

theorem Charter.at_of_ready (h : charter.discipline.ready i w) : charter.At i [] w where
  sound := h.1
  own := List.filter_eq_nil_iff.mpr fun deed hmem hparty => h.2 deed hmem (of_decide_eq_true hparty)

variable {R : β → Archive ι κ ν N → Prop}

/-- What a look shows is there, and stays. -/
theorem upholds_look_bind
    {f : Objects κ ν → Program (ArchiveOp κ ν N) ArchiveOp.Answer ε β} (hat : charter.At i mine w)
    (h : ∀ t seen, w.Later t → charter.At i mine t → seen.Extends t.objects →
      Upholds charter.discipline i (onOk R) (f seen) t) :
    Upholds charter.discipline i (onOk R) (look >>= f) w := by
  apply upholds_ask_bind
  intro t ht
  have hat := hat.rely ht
  refine ⟨trivial, ?_⟩
  exact h t.tick _ ht.later.tick ⟨hat.sound.tick, hat.own⟩ (t.objects.except_extends _)

theorem upholds_permit_bind {f : Bool → Program (ArchiveOp κ ν N) ArchiveOp.Answer ε β}
    (hat : charter.At i mine w)
    (h : ∀ t permitted, w.Later t → charter.At i mine t →
      Upholds charter.discipline i (onOk R) (f permitted) t) :
    Upholds charter.discipline i (onOk R) (permit >>= f) w := by
  apply upholds_ask_bind
  intro t ht
  have hat := hat.rely ht
  exact ⟨trivial, h t.tick _ ht.later.tick ⟨hat.sound.tick, hat.own⟩⟩

/-- An object that is created is there and stays; where it is not, nothing happened. -/
theorem upholds_create_bind {f : Bool → Program (ArchiveOp κ ν N) ArchiveOp.Answer ε β}
    (hat : charter.At i mine w)
    (hjustified : ∀ t, w.Later t → charter.At i mine t →
      charter.Justified t.history (.created i name value))
    (htrue : ∀ t, w.Later t → charter.At i (.created i name value :: mine) t →
      Upholds charter.discipline i (onOk R) (f true) t)
    (hfalse : ∀ t, w.Later t → charter.At i mine t →
      Upholds charter.discipline i (onOk R) (f false) t) :
    Upholds charter.discipline i (onOk R) (create name value >>= f) w := by
  apply upholds_ask_bind
  intro t ht
  have hat := hat.rely ht
  have hknows : charter.Knows i (.create name value) t := hjustified t ht.later hat
  refine ⟨hknows, ?_⟩
  have hafter := (charter.act_after hknows).later
  show Upholds charter.discipline i (onOk R)
    (f ((ArchiveOp.create name value).act i t).1) ((ArchiveOp.create name value).act i t).2
  by_cases hrefused : (t.trouble t.performed).refused = true ∨ (t.objects name).isSome
  · rw [ArchiveOp.act, if_pos hrefused]
    exact hfalse _ ht.later.tick ⟨hat.sound.tick, hat.own⟩
  · rw [ArchiveOp.act, if_neg hrefused] at hafter ⊢
    have hnone : t.objects name = none :=
      Option.not_isSome_iff_eq_none.mp (not_or.mp hrefused).2
    exact htrue _ (ht.later.trans hafter)
      ⟨hat.sound.tick.add hnone hknows, hat.own_cons (.created i name value) rfl⟩

/-- A note of a kind the party has not taken before. -/
theorem upholds_note_bind {f : Unit → Program (ArchiveOp κ ν N) ArchiveOp.Answer ε β} {taken : N}
    (hat : charter.At i mine w)
    (hjustified : ∀ t, w.Later t → charter.At i mine t →
      charter.Justified t.history (.noted i taken))
    (hfirst : ∀ other, charter.kind other = charter.kind taken → .noted i other ∉ mine)
    (h : ∀ t, w.Later t → charter.At i (.noted i taken :: mine) t →
      Upholds charter.discipline i (onOk R) (f ()) t) :
    Upholds charter.discipline i (onOk R) (takeNote taken >>= f) w := by
  apply upholds_ask_bind
  intro t ht
  have hat := hat.rely ht
  have hfirst : ∀ other, charter.kind other = charter.kind taken →
      .noted i other ∉ t.history := by
    intro other hkind hmem
    apply hfirst other hkind
    rw [← hat.own]
    exact List.mem_filter.mpr ⟨hmem, decide_eq_true rfl⟩
  have hknows : charter.Knows i (.note taken) t := ⟨hjustified t ht.later hat, hfirst⟩
  refine ⟨hknows, h _ (ht.later.trans (charter.act_after hknows).later)
    ⟨hat.sound.tick.write hknows.1 hfirst, hat.own_cons (.noted i taken) rfl⟩⟩

/-- What is returned holds however the others go on. -/
theorem upholds_pure {b : β} (hat : charter.At i mine w)
    (h : ∀ t, w.Later t → charter.At i mine t → R b t) :
    Upholds charter.discipline i (onOk R)
      (pure b : Program (ArchiveOp κ ν N) ArchiveOp.Answer ε β) w := by
  intro t ht a ha
  obtain rfl := Except.ok.inj ha
  exact h t ht.later (hat.rely ht)

/-- What needs no operation holds however the others go on. -/
theorem upholds_lift {y : Except ε β} (hat : charter.At i mine w)
    (h : ∀ t b, w.Later t → charter.At i mine t → y = .ok b → R b t) :
    Upholds charter.discipline i (onOk R)
      (Program.lift y : Program (ArchiveOp κ ν N) ArchiveOp.Answer ε β) w :=
  fun t ht b hb => h t b ht.later (hat.rely ht) hb

end

/-! ## Runs -/

section

variable [DecidableEq ι] {ε α κ' : Type}
  {program : ι → κ' → Program (ArchiveOp κ ν N) ArchiveOp.Answer ε α}
  {Q : ι → Except ε α → Archive ι κ ν N → Prop} {moves : List (Move ι κ')}
  {middle pool : Pool ι (Archive ι κ ν N) (ArchiveOp κ ν N) ArchiveOp.Answer ε α}

/-- Before anyone does anything. -/
def Charter.start (charter : Charter ι κ ν N K) (trouble : ℕ → Trouble κ) :
    Pool ι (Archive ι κ ν N) (ArchiveOp κ ν N) ArchiveOp.Answer ε α :=
  ⟨{ objects := charter.initial, trouble }, fun _ => .idle⟩

variable (hprogram : ∀ i request w, charter.At i [] w →
  Upholds charter.discipline i (Q i) (program i request) w)
include hprogram

/-- Every archive that is reached is sound, and so is where each party stands. -/
theorem Charter.run_sound {trouble : ℕ → Trouble κ}
    (hrun : run (Pool.exec (archiveEffects ι κ ν N) program) (charter.start trouble) moves =
      .ok pool) :
    pool.state.Sound charter ∧ pool.Sound charter.discipline Q := by
  have hready := fun i request w h => hprogram i request w (charter.at_of_ready h)
  have hstart : (charter.start trouble :
      Pool ι (Archive ι κ ν N) (ArchiveOp κ ν N) ArchiveOp.Answer ε α).Sound
        charter.discipline Q :=
    fun _ => ⟨.start trouble, fun _ h => nomatch h⟩
  refine ⟨?_, Foundation.run_sound hready hrun hstart⟩
  exact run_always_known hready (fun _ _ _ hknows hsound => (charter.act_after hknows).sound hsound)
    (fun _ _ h => h) hrun hstart (.start trouble)

/-- In a run that goes on, no object is gone and nothing is forgotten. -/
theorem Charter.run_later (hrun : run (Pool.exec (archiveEffects ι κ ν N) program) middle moves =
      .ok pool) (hsound : middle.Sound charter.discipline Q) :
    middle.state.Later pool.state :=
  run_always_known (fun i request w h => hprogram i request w (charter.at_of_ready h))
    (fun _ _ _ hknows h => h.trans (charter.act_after hknows).later) (fun _ _ h => h) hrun hsound
    (.refl _)

end

end Mordant.Foundation
