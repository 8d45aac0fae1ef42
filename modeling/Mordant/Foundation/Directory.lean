/-
# Directories and what is published in them

A directory maps names to inodes; an inode may have several names.  A file is published by
writing it under a temporary name and linking it, so that a reader who finds the name finds
the whole file.

`Directory.Holds` describes a directory in the middle of a publication: an earlier directory
and one more inode, which has some further names.
-/

import Mordant.Foundation.Durable

namespace Mordant.Foundation

open Function (update update_self update_of_ne)

structure Inode (β : Type) where
  contents : List β
  mode : ℕ

/-- Entries, inodes by number, and the number of the next one. -/
structure Directory (ν β : Type) where
  entries : List (ν × ℕ) := []
  inode : ℕ → Inode β := fun _ => ⟨[], 0⟩
  next : ℕ := 0

namespace Directory

variable {ν β : Type}

/-! ## System calls -/

def names (d : Directory ν β) : List ν := d.entries.map Prod.fst

/-- The inode that a name points to. -/
def find [DecidableEq ν] (d : Directory ν β) (name : ν) : Option ℕ := d.entries.lookup name

/-- The file that a name points to. -/
def read [DecidableEq ν] (d : Directory ν β) (name : ν) : Option (List β) :=
  (d.find name).map fun n => (d.inode n).contents

/-- How many names an inode has. -/
def links (d : Directory ν β) (n : ℕ) : ℕ := d.entries.countP (·.2 = n)

/-- A new file, under a name that is free. -/
def createExclusive (name : ν) (mode : ℕ) (d : Directory ν β) : Directory ν β where
  entries := (name, d.next) :: d.entries
  inode := update d.inode d.next ⟨[], mode⟩
  next := d.next + 1

def append (n : ℕ) (data : List β) (d : Directory ν β) : Directory ν β :=
  { d with inode := update d.inode n ⟨(d.inode n).contents ++ data, (d.inode n).mode⟩ }

def chmod (n mode : ℕ) (d : Directory ν β) : Directory ν β :=
  { d with inode := update d.inode n ⟨(d.inode n).contents, mode⟩ }

/-- One more name. -/
def link (name : ν) (n : ℕ) (d : Directory ν β) : Directory ν β :=
  { d with entries := (name, n) :: d.entries }

def unlink [DecidableEq ν] (name : ν) (d : Directory ν β) : Directory ν β :=
  { d with entries := d.entries.filter (·.1 ≠ name) }

/-- The names that satisfy a condition, the others removed. -/
def keeping (p : ν → Bool) (d : Directory ν β) : Directory ν β :=
  { d with entries := d.entries.filter (p ·.1) }

/-- Bytes are written one after another. -/
def appendAll {ε : Type} (n : ℕ) : List β → Durable (Directory ν β) ε Unit
  | [] => pure ()
  | b :: rest => do
    Durable.modify (append n [b])
    appendAll n rest

/-- Every name is there once, and points to an inode that exists. -/
structure WellFormed (d : Directory ν β) : Prop where
  nodup : d.names.Nodup
  lt_next : ∀ entry ∈ d.entries, entry.2 < d.next

/-! ## A directory in the middle of a publication -/

/-- A directory, and one more inode with some names. -/
structure Holds (before : Directory ν β) (added : List ν) (node : Inode β)
    (d : Directory ν β) : Prop where
  entries : d.entries = added.map (fun name => (name, before.next)) ++ before.entries
  inode : added ≠ [] → d.inode before.next = node
  old : ∀ n < before.next, d.inode n = before.inode n
  le_next : before.next ≤ d.next
  lt_next : added ≠ [] → before.next < d.next

variable {before d : Directory ν β} {added : List ν} {node node' : Inode β} {name : ν}

theorem Holds.createExclusive (name : ν) (mode : ℕ) (before : Directory ν β) :
    before.Holds [name] ⟨[], mode⟩ (before.createExclusive name mode) where
  entries := rfl
  inode _ := update_self ..
  old _ hn := update_of_ne (Nat.ne_of_lt hn) ..
  le_next := Nat.le_succ _
  lt_next _ := Nat.lt_succ_self _

/-- A change of the new inode. -/
theorem Holds.update (h : before.Holds added node d) (node' : Inode β) :
    before.Holds added node' { d with inode := update d.inode before.next node' } where
  entries := h.entries
  inode _ := update_self ..
  old n hn := (update_of_ne (Nat.ne_of_lt hn) ..).trans (h.old n hn)
  le_next := h.le_next
  lt_next := h.lt_next

theorem Holds.append (h : before.Holds added node d) (hadded : added ≠ []) (data : List β) :
    before.Holds added { node with contents := node.contents ++ data }
      (d.append before.next data) := by
  have hupdate := h.update { node with contents := node.contents ++ data }
  rw [← h.inode hadded] at hupdate ⊢
  exact hupdate

theorem Holds.chmod (h : before.Holds added node d) (hadded : added ≠ []) (mode : ℕ) :
    before.Holds added { node with mode } (d.chmod before.next mode) := by
  have hupdate := h.update { node with mode }
  rw [← h.inode hadded] at hupdate ⊢
  exact hupdate

theorem Holds.link (h : before.Holds added node d) (hadded : added ≠ []) (name : ν) :
    before.Holds (name :: added) node (d.link name before.next) where
  entries := congrArg ((name, before.next) :: ·) h.entries
  inode _ := h.inode hadded
  old := h.old
  le_next := h.le_next
  lt_next _ := h.lt_next hadded

theorem Holds.unlink [DecidableEq ν] (h : before.Holds added node d) (hname : name ∉ before.names) :
    before.Holds (added.filter (· ≠ name)) node (d.unlink name) where
  entries := by
    have hkept : before.entries.filter (·.1 ≠ name) = before.entries := by
      refine List.filter_eq_self.mpr fun entry hentry => decide_eq_true ?_
      rintro rfl
      exact hname (List.mem_map_of_mem hentry)
    show d.entries.filter _ = _
    rw [h.entries, List.filter_append, hkept, List.filter_map]
    rfl
  inode hadded := h.inode fun hnil => hadded (by rw [hnil]; rfl)
  old := h.old
  le_next := h.le_next
  lt_next hadded := h.lt_next fun hnil => hadded (by rw [hnil]; rfl)

theorem Holds.keeping (h : before.Holds added node d) (p : ν → Bool) :
    (before.keeping p).Holds (added.filter p) node (d.keeping p) where
  entries := by
    show d.entries.filter _ = _
    rw [h.entries, List.filter_append, List.filter_map]
    rfl
  inode hadded := h.inode fun hnil => hadded (by rw [hnil]; rfl)
  old := h.old
  le_next := h.le_next
  lt_next hadded := h.lt_next fun hnil => hadded (by rw [hnil]; rfl)

theorem keeping_eq_self {p : ν → Bool} (h : ∀ name ∈ d.names, p name = true) :
    d.keeping p = d := by
  have hentries : d.entries.filter (p ·.1) = d.entries :=
    List.filter_eq_self.mpr fun entry hentry => h _ (List.mem_map_of_mem hentry)
  rw [keeping, hentries]

/-! ## What is read -/

section

variable [DecidableEq ν]

theorem find_eq_none_iff : d.find name = none ↔ name ∉ d.names := by
  rw [find, List.lookup_eq_none_iff, names, List.mem_map]
  constructor
  · rintro h ⟨entry, hentry, rfl⟩
    simpa using h entry hentry
  · intro h entry hentry
    simpa using fun heq => h ⟨entry, hentry, heq.symm⟩

theorem read_eq_none_iff : d.read name = none ↔ name ∉ d.names := by
  rw [read, Option.map_eq_none_iff, find_eq_none_iff]

theorem mem_entries_of_find {n : ℕ} (h : d.find name = some n) : (name, n) ∈ d.entries := by
  rw [find, List.lookup_eq_some_iff] at h
  obtain ⟨earlier, later, heq, -⟩ := h
  rw [heq]
  exact List.mem_append_right _ List.mem_cons_self

/-- A name that is kept points where it did. -/
theorem find_keeping {p : ν → Bool} (hname : p name = true) :
    (d.keeping p).find name = d.find name := by
  show (d.entries.filter _).lookup name = d.entries.lookup name
  induction d.entries with
  | nil => rfl
  | cons entry rest ih =>
      by_cases hentry : name = entry.1
      · rw [List.filter_cons_of_pos (hentry ▸ hname), List.lookup_cons, List.lookup_cons,
          beq_iff_eq.mpr hentry]
      · rw [List.lookup_cons, beq_eq_false_iff_ne.mpr hentry, List.filter_cons]
        split
        · rw [List.lookup_cons, beq_eq_false_iff_ne.mpr hentry]
          exact ih
        · exact ih

theorem read_keeping {p : ν → Bool} (hname : p name = true) :
    (d.keeping p).read name = d.read name := by
  rw [read, find_keeping hname]
  rfl

omit [DecidableEq ν] in
theorem Holds.names (h : before.Holds added node d) : d.names = added ++ before.names := by
  rw [Directory.names, h.entries, List.map_append, List.map_map]
  exact congrArg (· ++ before.entries.map Prod.fst) (List.map_id added)

/-- A new name points to the new inode. -/
theorem Holds.find_of_mem (h : before.Holds added node d) (hname : name ∈ added) :
    d.find name = some before.next := by
  rw [find, h.entries, List.lookup_append]
  have hfound : (added.map fun name => (name, before.next)).lookup name = some before.next := by
    clear h
    induction added with
    | nil => exact nomatch hname
    | cons first rest ih =>
        rw [List.map_cons, List.lookup_cons]
        by_cases heq : name = first
        · rw [beq_iff_eq.mpr heq]
        · rw [beq_eq_false_iff_ne.mpr heq]
          exact ih ((List.mem_cons.mp hname).resolve_left heq)
  rw [hfound, Option.some_or]

theorem Holds.find_of_not_mem (h : before.Holds added node d) (hname : name ∉ added) :
    d.find name = before.find name := by
  have hnone : (added.map fun name => (name, before.next)).lookup name = none := by
    rw [List.lookup_eq_none_iff]
    rintro entry hentry
    obtain ⟨other, hother, rfl⟩ := List.mem_map.mp hentry
    have hne : name ≠ other := fun heq => hname (heq ▸ hother)
    simpa using hne
  rw [find, h.entries, List.lookup_append, hnone, Option.none_or, find]

theorem Holds.read_of_mem (h : before.Holds added node d) (hname : name ∈ added) :
    d.read name = some node.contents := by
  rw [read, h.find_of_mem hname, Option.map_some, h.inode (List.ne_nil_of_mem hname)]

/-- The other names are read as before. -/
theorem Holds.read_of_not_mem (h : before.Holds added node d) (hbefore : before.WellFormed)
    (hname : name ∉ added) : d.read name = before.read name := by
  rw [read, h.find_of_not_mem hname, read]
  cases hfind : before.find name with
  | none => rfl
  | some n =>
      have hlt := hbefore.lt_next _ (mem_entries_of_find hfind)
      rw [Option.map_some, Option.map_some, h.old n hlt]

end

/-- The new inode has the new names, and no others. -/
theorem Holds.links_new (h : before.Holds added node d) (hbefore : before.WellFormed) :
    d.links before.next = added.length := by
  have hold : before.entries.countP (·.2 = before.next) = 0 := by
    refine List.countP_eq_zero.mpr fun entry hentry heq => ?_
    exact Nat.ne_of_lt (hbefore.lt_next entry hentry) (of_decide_eq_true heq)
  have hnew : (added.map fun name => (name, before.next)).countP (·.2 = before.next) =
      added.length := by
    rw [List.countP_map]
    exact List.countP_eq_length.mpr fun _ _ => decide_eq_true rfl
  rw [links, h.entries, List.countP_append, hold, hnew, Nat.add_zero]

theorem Holds.wellFormed (h : before.Holds added node d) (hbefore : before.WellFormed)
    (hadded : added.Nodup) (hnew : ∀ name ∈ added, name ∉ before.names) : d.WellFormed where
  nodup := by
    rw [h.names]
    refine List.nodup_append.mpr ⟨hadded, hbefore.nodup, ?_⟩
    rintro name hname _ hother rfl
    exact hnew name hname hother
  lt_next entry hentry := by
    rw [h.entries] at hentry
    rcases List.mem_append.mp hentry with hentry | hentry
    · obtain ⟨name, hname, rfl⟩ := List.mem_map.mp hentry
      exact h.lt_next (List.ne_nil_of_mem hname)
    · exact Nat.lt_of_lt_of_le (hbefore.lt_next entry hentry) h.le_next

/-! ## Writing -/

section

variable {ε : Type} {I : Directory ν β → Prop} {Q : Unit → Directory ν β → Prop}

/-- While data is written, the new inode holds what was written so far. -/
theorem meets_appendAll (h : before.Holds added node d) (hadded : added ≠ []) (data : List β)
    (hI : ∀ k t, before.Holds added { node with contents := node.contents ++ data.take k } t → I t)
    (hQ : ∀ t, before.Holds added { node with contents := node.contents ++ data } t → Q () t) :
    Durable.Meets I Q (appendAll before.next data : Durable (Directory ν β) ε Unit) d := by
  induction data generalizing node d with
  | nil =>
      refine Durable.meets_pure.mpr (hQ d ?_)
      rwa [List.append_nil]
  | cons b rest ih =>
      have hstep := h.append hadded [b]
      refine Durable.meets_bind.mpr (Durable.meets_modify.mpr ⟨hI 1 _ hstep, ?_⟩)
      apply ih hstep
      · intro k t ht
        apply hI (k + 1) t
        rwa [List.take_succ_cons, ← List.append_cons] at *
      · intro t ht
        apply hQ t
        rwa [← List.append_cons] at *

/-- Data is left as a whole before what comes next. -/
theorem leaves_appendAll (h : before.Holds added node d) (hadded : added ≠ []) {data : List β}
    (hdata : data ≠ []) :
    ∃ t, (appendAll before.next data : Durable (Directory ν β) ε Unit).Leaves d t ∧
      before.Holds added { node with contents := node.contents ++ data } t := by
  induction data generalizing node d with
  | nil => exact (hdata rfl).elim
  | cons b rest ih =>
      have hstep := h.append hadded [b]
      by_cases hrest : rest = []
      · subst hrest
        exact ⟨_, Durable.leaves_bind_left List.mem_cons_self, hstep⟩
      · obtain ⟨t, hleft, hholds⟩ := ih hstep hrest
        refine ⟨t, Durable.leaves_bind_right (Durable.returns_modify.mpr hleft), ?_⟩
        rwa [← List.append_cons] at hholds

end

end Directory

end Mordant.Foundation
