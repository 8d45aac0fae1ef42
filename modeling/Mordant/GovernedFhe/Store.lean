/-
# A store on disk

An object is written under a temporary name, linked under its own, and the temporary name is
removed.  Whoever opens a store looks at every entry, and refuses the store if one is a
temporary.

A process may be cut off between any two system calls.  The object is then there as a whole
or not at all, and the store opens again exactly if no temporary is left.
-/

import Mordant.Foundation.Directory
import Mordant.GovernedFhe.Case

namespace Mordant.GovernedFhe

open Evm Foundation
open Durable (throwIf meets_bind reads meets_throwIf modify meets_reads meets_modify meets_pure)
open Coalition (Digest)

/-- `ErrStore`, `ErrResourceAdmission` and `ErrArtifact`. -/
inductive StoreError
  | store
  | resource
  | artifact
  deriving DecidableEq

/-- `objectStore`: its limits, the mode of its files, and whether it is private. -/
structure StoreConfig where
  quota : ℕ
  maxObjects : ℕ
  fileMode : ℕ
  isPrivate : Bool

def publicStoreConfig (quota : ℕ) : StoreConfig := ⟨quota, 40, 0o444, false⟩

def privateStoreConfig (quota : ℕ) : StoreConfig := ⟨quota, 16, 0o400, true⟩

/-- `ObjectRef`, of a name in bytes. -/
structure FileRef where
  path : Bytes
  digest : Digest
  length : ℕ
  deriving DecidableEq

/-- Entries are regular files. -/
abbrev StoreDir : Type := Directory Bytes UInt8

/-! ## Names -/

def temporaryPrefix : Bytes := stringBytes ".mordant-create-"

def isTemporary (name : Bytes) : Bool := temporaryPrefix.isPrefixOf name

def hexDigit (n : UInt8) : UInt8 := if n < 10 then n + 48 else n + 87

/-- `%x`, in bytes. -/
def hexBytes (bytes : Bytes) : Bytes :=
  bytes.flatMap fun b => [hexDigit (b / 16), hexDigit (b % 16)]

def temporaryObjectName (nonce : Vector UInt8 16) : Bytes :=
  temporaryPrefix ++ hexBytes nonce.toList

theorem isTemporary_temporaryObjectName (nonce : Vector UInt8 16) :
    isTemporary (temporaryObjectName nonce) = true :=
  List.isPrefixOf_iff_prefix.mpr (List.prefix_append _ _)

/-- `validateObjectName`; "." is the directory itself, which is not a regular file. -/
def validObjectName (name : Bytes) : Bool :=
  name ≠ [] && name ≠ [46] && !name.contains 47 && !name.contains 92 && !name.contains 0 &&
    !name.tails.any ([46, 46].isPrefixOf ·)

/-! ## Opening -/

section

variable (s : StoreConfig)

/-- The size of a file. -/
def sizeOf (d : StoreDir) (n : ℕ) : ℕ := (d.inode n).contents.length

/-- The loop of `usedBytes`. -/
def scanEntries (d : StoreDir) : List (Bytes × ℕ) → ℕ → Except StoreError ℕ
  | [], total => .ok total
  | (name, n) :: rest, total => do
    revertIf (isTemporary name = true) .store
    -- `openRegular`
    revertIf (validObjectName name = false ∨ (s.isPrivate = true ∧ d.links n ≠ 1)) .store
    revertIf (s.quota < total + sizeOf d n) .resource
    scanEntries d rest (total + sizeOf d n)

def usedBytes (d : StoreDir) : Except StoreError ℕ := do
  revertIf (s.maxObjects < d.entries.length) .resource
  scanEntries s d d.entries 0

/-- `openObjectStore`, of a root that is there. -/
def openObjectStore (d : StoreDir) : Except StoreError Unit := do
  revertIf (s.quota = 0) .store
  let _ ← usedBytes s d

/-! ## Creating -/

/-- The calls that can fail. -/
inductive Stage
  | lock
  | sync
  | chmod
  | settle
  | publish
  | link
  | unlink
  | commit
  | settled
  | retract
  | withdraw
  deriving DecidableEq

/-- What the operating system does: the random names it gives until it fails to, a write that
fails after some bytes, and the other calls that fail. -/
structure Weather where
  nonces : List (Vector UInt8 16)
  wrote : Option ℕ := none
  fails : Stage → Bool := fun _ => false

/-- The file of a name, and the inode behind it. -/
structure Temporary where
  name : Bytes
  inode : ℕ

/-- The loop that opens a temporary file. -/
def openTemporary : List (Vector UInt8 16) → Durable StoreDir StoreError Temporary
  | [] => Durable.lift (.error .store)
  | nonce :: rest => do
    let taken ← reads fun d => .ok (d.find (temporaryObjectName nonce)).isSome
    if taken then openTemporary rest
    else
      let inode ← reads fun d => .ok d.next
      modify (Directory.createExclusive (temporaryObjectName nonce) 0o600)
      pure ⟨temporaryObjectName nonce, inode⟩

/-- The bytes are written, or some of them. -/
def writeTemporary (temporary : Temporary) (data : Bytes) (weather : Weather) :
    Durable StoreDir StoreError Unit := do
  Directory.appendAll temporary.inode (data.take (weather.wrote.getD data.length))
  throwIf (weather.wrote ≠ none) .store

/-- The file is synced, given its mode, and linked under its name. -/
def linkTemporary (name : Bytes) (temporary : Temporary) (weather : Weather) :
    Durable StoreDir StoreError Unit := do
  throwIf (weather.fails .sync = true) .store
  throwIf (weather.fails .chmod = true) .store
  modify (Directory.chmod temporary.inode s.fileMode)
  throwIf (weather.fails .settle = true) .store
  throwIf (weather.fails .publish = true) .store
  let taken ← reads fun d => .ok (d.find name).isSome
  throwIf (taken = true ∨ weather.fails .link = true) .store
  modify (Directory.link name temporary.inode)

def unlinkTemporary (temporary : Temporary) (weather : Weather) :
    Durable StoreDir StoreError Unit := do
  throwIf (weather.fails .unlink = true) .store
  modify (Directory.unlink temporary.name)

/-- A call that removes a name, or fails to. -/
def withdraw (name : Bytes) (weather : Weather) (d : StoreDir) : StoreDir :=
  if weather.fails .withdraw then d else d.unlink name

/-- What every create checks before it writes, and what is in use. -/
def admitCreate (name : Bytes) (needed : ℕ) (weather : Weather) :
    Durable StoreDir StoreError ℕ := do
  throwIf (weather.fails .lock = true) .store
  let used ← reads fun d => (usedBytes s d).mapError fun _ => .resource
  throwIf (s.quota < used + needed) .resource
  let count ← reads fun d => .ok d.entries.length
  throwIf (s.maxObjects ≤ count) .resource
  let existing ← reads fun d => .ok (d.find name).isSome
  throwIf (existing = true) .store
  pure used

def createWithHooks (sha256 : Bytes → Digest) (name data : Bytes) (weather : Weather) :
    Durable StoreDir StoreError FileRef := do
  throwIf (validObjectName name = false ∨ data.length = 0 ∨ s.quota < data.length) .store
  let _ ← admitCreate s name data.length weather
  let temporary ← openTemporary (weather.nonces.take 16)
  Durable.onError (do
    writeTemporary temporary data weather
    linkTemporary s name temporary weather
    unlinkTemporary temporary weather) (withdraw temporary.name weather)
  throwIf (weather.fails .commit = true) .store
  pure ⟨name, sha256 data, data.length⟩

end

/-! ## Stores that open -/

section

variable {s : StoreConfig} {d : StoreDir}

/-- The bytes in a store. -/
def usage (d : StoreDir) : ℕ := (d.entries.map fun entry => sizeOf d entry.2).sum

/-- A store without temporaries, within its limits, whose files have one name each. -/
structure Tidy (s : StoreConfig) (d : StoreDir) : Prop where
  wellFormed : d.WellFormed
  single : (d.entries.map Prod.snd).Nodup
  valid : ∀ entry ∈ d.entries, validObjectName entry.1 = true
  settled : ∀ entry ∈ d.entries, isTemporary entry.1 = false
  count : d.entries.length ≤ s.maxObjects
  room : usage d ≤ s.quota

theorem scanEntries_ok_iff {entries : List (Bytes × ℕ)} {before total : ℕ}
    (hbefore : before ≤ s.quota) :
    scanEntries s d entries before = .ok total ↔
      (∀ entry ∈ entries, isTemporary entry.1 = false ∧ validObjectName entry.1 = true ∧
        (s.isPrivate = true → d.links entry.2 = 1)) ∧
      total = before + (entries.map fun entry => sizeOf d entry.2).sum ∧ total ≤ s.quota := by
  induction entries generalizing before with
  | nil =>
      rw [scanEntries, Except.ok.injEq]
      constructor
      · rintro rfl
        exact ⟨(fun _ h => nomatch h), (Nat.add_zero _).symm, hbefore⟩
      · rintro ⟨-, rfl, -⟩
        exact (Nat.add_zero _).symm
  | cons entry rest ih =>
      obtain ⟨name, n⟩ := entry
      simp only [scanEntries, bind_ok_iff, exists_const, revertIf_ok_iff, List.forall_mem_cons,
        List.map_cons, List.sum_cons, ← Nat.add_assoc, Bool.not_eq_true, not_or, not_and,
        Nat.not_lt, Bool.not_eq_false, not_not]
      constructor
      · rintro ⟨htemporary, ⟨hvalid, hlinks⟩, hroom, hrest⟩
        obtain ⟨haccepted, htotal, hle⟩ := (ih hroom).mp hrest
        exact ⟨⟨⟨htemporary, hvalid, hlinks⟩, haccepted⟩, htotal, hle⟩
      · rintro ⟨⟨⟨htemporary, hvalid, hlinks⟩, haccepted⟩, htotal, hle⟩
        have hroom : before + sizeOf d n ≤ s.quota := by omega
        exact ⟨htemporary, ⟨hvalid, hlinks⟩, hroom, (ih hroom).mpr ⟨haccepted, htotal, hle⟩⟩

theorem usedBytes_ok_iff {total : ℕ} :
    usedBytes s d = .ok total ↔ d.entries.length ≤ s.maxObjects ∧
      (∀ entry ∈ d.entries, isTemporary entry.1 = false ∧ validObjectName entry.1 = true ∧
        (s.isPrivate = true → d.links entry.2 = 1)) ∧ total = usage d ∧ total ≤ s.quota := by
  simp only [usedBytes, bind_ok_iff, exists_const, revertIf_ok_iff, Nat.not_lt,
    scanEntries_ok_iff (Nat.zero_le _), Nat.zero_add, usage]

/-- Where every file has one name, no file has two. -/
theorem links_eq_one (hsingle : (d.entries.map Prod.snd).Nodup) {entry : Bytes × ℕ}
    (hentry : entry ∈ d.entries) : d.links entry.2 = 1 := by
  have hcount := List.count_eq_one_of_mem hsingle (List.mem_map_of_mem hentry)
  rw [List.count_eq_countP, List.countP_map] at hcount
  rw [Directory.links, ← hcount]
  exact List.countP_congr fun _ _ => by simp

theorem Tidy.used (h : Tidy s d) : usedBytes s d = .ok (usage d) :=
  usedBytes_ok_iff.mpr ⟨h.count, fun entry hentry => ⟨h.settled entry hentry,
    h.valid entry hentry, fun _ => links_eq_one h.single hentry⟩, rfl, h.room⟩

/-- A store opens if it is tidy, apart from what is never looked at. -/
theorem Tidy.opens (h : Tidy s d) (hquota : 0 < s.quota) : openObjectStore s d = .ok () := by
  simp only [openObjectStore, bind_ok_iff, revertIf_ok_iff, h.used, Except.ok.injEq]
  exact ⟨(), Nat.ne_of_gt hquota, usage d, rfl, rfl⟩

/-- A store with a temporary does not open. -/
theorem settled_of_used {total : ℕ} (h : usedBytes s d = .ok total) :
    ∀ name ∈ d.names, isTemporary name = false := by
  intro name hname
  obtain ⟨entry, hentry, rfl⟩ := List.mem_map.mp hname
  exact ((usedBytes_ok_iff.mp h).2.1 entry hentry).1

end

/-! ## In the middle of a create -/

section

variable {s : StoreConfig} {before t : StoreDir} {name τ : Bytes} {node : Inode UInt8}
  {complete : Bytes → Prop} {bound : ℕ}

/-- There is room for one more object. -/
structure Fits (s : StoreConfig) (before : StoreDir) (name contents : Bytes) : Prop where
  valid : validObjectName name = true
  free : name ∉ before.names
  count : before.entries.length < s.maxObjects
  room : usage before + contents.length ≤ s.quota

/-- A temporary as a create leaves it. -/
structure Written (s : StoreConfig) (bound : ℕ) (node : Inode UInt8) : Prop where
  length_le : node.contents.length ≤ bound
  mode : node.mode = 0o600 ∨ node.mode = s.fileMode

/-- Where a create is that writes to the temporary `τ`. -/
inductive Midway (s : StoreConfig) (before : StoreDir) (name : Bytes) (complete : Bytes → Prop)
    (bound : ℕ) (τ : Bytes) (t : StoreDir) : Prop
  | withdrawn (node : Inode UInt8) (h : before.Holds [] node t)
  | written (node : Inode UInt8) (hnode : Written s bound node) (h : before.Holds [τ] node t)
  | linked (node : Inode UInt8) (hnode : Written s bound node) (hne : name ≠ τ)
      (hfits : Fits s before name node.contents) (hcomplete : complete node.contents)
      (h : before.Holds [name, τ] node t)
  | published (node : Inode UInt8) (hne : name ≠ τ) (hfits : Fits s before name node.contents)
      (hcomplete : complete node.contents) (h : before.Holds [name] node t)

/-- With at most one more object for which there is room, a store stays tidy. -/
theorem Tidy.of_holds {added : List Bytes} (h : Tidy s before) (ht : before.Holds added node t)
    (hone : added.length ≤ 1)
    (hadded : ∀ name ∈ added, isTemporary name = false ∧ Fits s before name node.contents) :
    Tidy s t := by
  have hlt (entry : Bytes × ℕ) (hentry : entry ∈ before.entries) : entry.2 < before.next :=
    h.wellFormed.lt_next entry hentry
  have hold : before.entries.map (fun entry => sizeOf t entry.2) =
      before.entries.map fun entry => sizeOf before entry.2 :=
    List.map_congr_left fun entry hentry => by rw [sizeOf, sizeOf, ht.old _ (hlt entry hentry)]
  have hwellFormed := ht.wellFormed h.wellFormed
    (List.nodup_iff_count_le_one.mpr fun name => List.count_le_length.trans hone)
    fun name hname => (hadded name hname).2.free
  match added, hone with
  | [], _ =>
      have hentries : t.entries = before.entries := ht.entries
      have husage : usage t = usage before := by rw [usage, hentries, hold, usage]
      exact ⟨hwellFormed, hentries ▸ h.single, hentries ▸ h.valid, hentries ▸ h.settled,
        hentries ▸ h.count, husage ▸ h.room⟩
  | [name], _ =>
      obtain ⟨hsettled, hfits⟩ := hadded name List.mem_cons_self
      have hentries : t.entries = (name, before.next) :: before.entries := ht.entries
      have hnode := ht.inode (List.cons_ne_nil _ _)
      have husage : usage t = node.contents.length + usage before := by
        rw [usage, hentries, List.map_cons, List.sum_cons, hold, sizeOf, hnode, usage]
      refine ⟨hwellFormed, ?_, ?_, ?_, ?_, ?_⟩
      · rw [hentries, List.map_cons, List.nodup_cons]
        refine ⟨fun hmem => ?_, h.single⟩
        obtain ⟨entry, hentry, heq⟩ := List.mem_map.mp hmem
        exact Nat.ne_of_lt (hlt entry hentry) heq
      · rw [hentries]
        exact List.forall_mem_cons.mpr ⟨hfits.valid, h.valid⟩
      · rw [hentries]
        exact List.forall_mem_cons.mpr ⟨hsettled, h.settled⟩
      · rw [hentries]
        exact hfits.count
      · rw [husage, Nat.add_comm]
        exact hfits.room

/-- A store without its temporaries. -/
def settled (d : StoreDir) : StoreDir := d.keeping fun name => !isTemporary name

theorem settled_eq_self (h : ∀ name ∈ t.names, isTemporary name = false) : settled t = t :=
  Directory.keeping_eq_self fun name hname => by rw [h name hname, Bool.not_false]

/-- Without its temporaries, a store in the middle of a create is tidy. -/
theorem Midway.settled (h : Midway s before name complete bound τ t) (hbefore : Tidy s before)
    (hτ : isTemporary τ = true) : Tidy s (settled t) := by
  have hself : GovernedFhe.settled before = before := settled_eq_self fun name hname => by
    obtain ⟨entry, hentry, rfl⟩ := List.mem_map.mp hname
    exact hbefore.settled entry hentry
  -- what is kept of the names that a create adds is at most its own
  have hkept (added : List Bytes) (node : Inode UInt8) (ht : before.Holds added node t)
      (hadded : ∀ other ∈ added, other = τ ∨ Fits s before other node.contents)
      (hone : (added.filter fun name => !isTemporary name).length ≤ 1) :
      Tidy s (GovernedFhe.settled t) := by
    have hholds := ht.keeping fun name => !isTemporary name
    change (GovernedFhe.settled before).Holds _ _ _ at hholds
    rw [hself] at hholds
    refine hbefore.of_holds hholds hone fun other hother => ?_
    obtain ⟨hmem, hother⟩ := List.mem_filter.mp hother
    rw [Bool.not_eq_true'] at hother
    refine ⟨hother, (hadded other hmem).resolve_left fun heq => ?_⟩
    rw [heq, hτ] at hother
    exact nomatch hother
  have hfiltered (rest : List Bytes) : (τ :: rest).filter (fun name => !isTemporary name) =
      rest.filter fun name => !isTemporary name :=
    List.filter_cons_of_neg (by rw [hτ]; exact Bool.false_ne_true)
  have hsingle : ([name].filter fun name => !isTemporary name).length ≤ 1 :=
    List.length_filter_le _ _
  cases h with
  | withdrawn node h => exact hkept _ _ h (fun _ hmem => nomatch hmem) (Nat.zero_le 1)
  | written node hnode h =>
      refine hkept _ _ h (fun other hmem => .inl (List.mem_singleton.mp hmem)) ?_
      rw [hfiltered]
      exact Nat.zero_le 1
  | linked node hnode hne hfits hcomplete h =>
      refine hkept _ _ h (fun other hmem => ?_) ?_
      · rcases List.mem_cons.mp hmem with rfl | hmem
        · exact .inr hfits
        · exact .inl (List.mem_singleton.mp hmem)
      · rw [show [name, τ] = [name] ++ [τ] from rfl, List.filter_append, hfiltered,
          List.filter_nil, List.append_nil]
        exact hsingle
  | published node hne hfits hcomplete h =>
      exact hkept _ _ h (fun other hmem => .inr (List.mem_singleton.mp hmem ▸ hfits)) hsingle

/-- A name that is no temporary is read as before, or it is the new one and complete. -/
theorem Midway.read (h : Midway s before name complete bound τ t) (hbefore : Tidy s before)
    (hτ : isTemporary τ = true) {other : Bytes} (hother : isTemporary other = false) :
    t.read other = before.read other ∨
      other = name ∧ before.read other = none ∧
        ∃ data, t.read other = some data ∧ complete data := by
  have hneτ : other ≠ τ := fun heq => by
    rw [heq, hτ] at hother
    exact nomatch hother
  have hnew (added : List Bytes) (node : Inode UInt8) (ht : before.Holds added node t)
      (hname : name ∈ added) (hadded : ∀ other ∈ added, other = name ∨ other = τ)
      (hfits : Fits s before name node.contents) (hcomplete : complete node.contents) :
      t.read other = before.read other ∨ other = name ∧ before.read other = none ∧
        ∃ data, t.read other = some data ∧ complete data := by
    by_cases heq : other = name
    · subst heq
      exact .inr ⟨rfl, Directory.read_eq_none_iff.mpr hfits.free, _, ht.read_of_mem hname,
        hcomplete⟩
    · refine .inl (ht.read_of_not_mem hbefore.wellFormed fun hmem => ?_)
      exact (hadded other hmem).elim heq hneτ
  cases h with
  | withdrawn node h =>
      exact .inl (h.read_of_not_mem hbefore.wellFormed fun hmem => nomatch hmem)
  | written node hnode h =>
      exact .inl (h.read_of_not_mem hbefore.wellFormed fun hmem =>
        hneτ (List.mem_singleton.mp hmem))
  | linked node hnode hne hfits hcomplete h =>
      refine hnew _ _ h List.mem_cons_self (fun other hmem => ?_) hfits hcomplete
      exact (List.mem_cons.mp hmem).imp id List.mem_singleton.mp
  | published node hne hfits hcomplete h =>
      exact hnew _ _ h List.mem_cons_self (fun other hmem => .inl (List.mem_singleton.mp hmem))
        hfits hcomplete

/-- The temporary name is removed, at whatever point. -/
theorem Midway.unlink (h : Midway s before name complete bound τ t) (hfresh : τ ∉ before.names) :
    Midway s before name complete bound τ (t.unlink τ) := by
  cases h with
  | withdrawn node h => exact .withdrawn node (h.unlink hfresh)
  | written node hnode h =>
      have hgone := h.unlink hfresh
      rw [List.filter_cons_of_neg (by simp), List.filter_nil] at hgone
      exact .withdrawn node hgone
  | linked node hnode hne hfits hcomplete h =>
      have hgone := h.unlink hfresh
      rw [List.filter_cons_of_pos (by simpa), List.filter_cons_of_neg (by simp),
        List.filter_nil] at hgone
      exact .published node hne hfits hcomplete hgone
  | published node hne hfits hcomplete h =>
      have hgone := h.unlink hfresh
      rw [List.filter_cons_of_pos (by simpa), List.filter_nil] at hgone
      exact .published node hne hfits hcomplete hgone

/-- The object itself is removed, at whatever point. -/
theorem Midway.unlinkObject (h : Midway s before name complete bound τ t)
    (hfree : name ∉ before.names) : Midway s before name complete bound τ (t.unlink name) := by
  cases h with
  | withdrawn node h => exact .withdrawn node (h.unlink hfree)
  | written node hnode h =>
      have hgone := h.unlink hfree
      by_cases heq : τ = name
      · rw [List.filter_cons_of_neg (by simpa), List.filter_nil] at hgone
        exact .withdrawn node hgone
      · rw [List.filter_cons_of_pos (by simpa), List.filter_nil] at hgone
        exact .written node hnode hgone
  | linked node hnode hne hfits hcomplete h =>
      have hgone := h.unlink hfree
      rw [List.filter_cons_of_neg (by simp), List.filter_cons_of_pos (by simpa using hne.symm),
        List.filter_nil] at hgone
      exact .written node hnode hgone
  | published node hne hfits hcomplete h =>
      have hgone := h.unlink hfree
      rw [List.filter_cons_of_neg (by simp), List.filter_nil] at hgone
      exact .withdrawn node hgone

theorem Midway.withdraw (h : Midway s before name complete bound τ t) (hfresh : τ ∉ before.names)
    (weather : Weather) : Midway s before name complete bound τ (withdraw τ weather t) := by
  rw [GovernedFhe.withdraw]
  split
  · exact h
  · exact h.unlink hfresh

end

/-! ## What a create does -/

section

variable {s : StoreConfig} {before d : StoreDir} {name τ data : Bytes} {node : Inode UInt8}
  {complete : Bytes → Prop} {bound : ℕ} {weather : Weather} {I : StoreDir → Prop}

/-- A temporary is opened under a name that was free. -/
theorem meets_openTemporary {nonces : List (Vector UInt8 16)} {Q : Temporary → StoreDir → Prop}
    (h : ∀ nonce, temporaryObjectName nonce ∉ d.names →
      I (d.createExclusive (temporaryObjectName nonce) 0o600) ∧
      Q ⟨temporaryObjectName nonce, d.next⟩
        (d.createExclusive (temporaryObjectName nonce) 0o600)) :
    Durable.Meets I Q (openTemporary nonces) d := by
  induction nonces with
  | nil => exact Durable.meets_lift.mpr fun _ hok => nomatch hok
  | cons nonce rest ih =>
      simp only [openTemporary, meets_bind, meets_reads, Except.ok.injEq,
        forall_eq']
      split
      case isTrue => exact ih
      case isFalse hfree =>
        rw [Option.not_isSome_iff_eq_none, Directory.find_eq_none_iff] at hfree
        simpa only [meets_bind, meets_reads, Except.ok.injEq, forall_eq',
          meets_modify, meets_pure] using h nonce hfree

/-- The temporary, and nothing else, is written. -/
theorem meets_writeTemporary {Q : Unit → StoreDir → Prop} {temporary : Temporary}
    (h : before.Holds [temporary.name] ⟨[], 0o600⟩ d) (hinode : temporary.inode = before.next)
    (hI : ∀ k t, before.Holds [temporary.name] ⟨data.take k, 0o600⟩ t → I t)
    (hQ : ∀ t, before.Holds [temporary.name] ⟨data, 0o600⟩ t → Q () t) :
    Durable.Meets I Q (writeTemporary temporary data weather) d := by
  simp only [writeTemporary, meets_bind, hinode]
  refine Directory.meets_appendAll h (List.cons_ne_nil _ _) _ ?_ ?_
  · intro k t ht
    rw [List.take_take] at ht
    exact hI _ t ht
  · intro t ht
    refine Durable.meets_throwIf.mpr fun hwhole => hQ t ?_
    rw [Decidable.not_not.mp hwhole] at ht
    rwa [Option.getD_none, List.take_length] at ht

/-- A complete temporary is linked. -/
theorem meets_linkTemporary {temporary : Temporary} {Q : Unit → StoreDir → Prop}
    (h : before.Holds [temporary.name] ⟨data, 0o600⟩ d) (hinode : temporary.inode = before.next)
    (hdata : data.length ≤ bound) (hcomplete : complete data)
    (hfits : Fits s before name data)
    (hI : ∀ t, Midway s before name complete bound temporary.name t → I t)
    (hQ : ∀ t, name ≠ temporary.name →
      before.Holds [name, temporary.name] ⟨data, s.fileMode⟩ t → Q () t) :
    Durable.Meets I Q (linkTemporary s name temporary weather) d := by
  have hmode := h.chmod (List.cons_ne_nil _ _) s.fileMode
  simp only [linkTemporary, meets_bind, meets_throwIf, meets_modify,
    meets_reads, Except.ok.injEq, forall_eq', hinode]
  rintro - -
  refine ⟨hI _ (.written _ ⟨hdata, .inr rfl⟩ hmode), fun _ _ htaken => ?_⟩
  have hname : name ∉ (d.chmod before.next s.fileMode).names := by
    rw [← Directory.find_eq_none_iff, ← Option.not_isSome_iff_eq_none]
    exact fun hsome => htaken (.inl hsome)
  rw [hmode.names, List.singleton_append, List.mem_cons, not_or] at hname
  have hlinked := hmode.link (List.cons_ne_nil _ _) name
  exact ⟨hI _ (.linked _ ⟨hdata, .inr rfl⟩ hname.1 hfits hcomplete hlinked),
    hQ _ hname.1 hlinked⟩

/-- Nothing is written before a create is admitted. -/
theorem meets_admitCreate {Q : ℕ → StoreDir → Prop}
    {needed : ℕ} (h : ∀ used, usedBytes s d = .ok used → used + needed ≤ s.quota →
      d.entries.length < s.maxObjects → name ∉ d.names → Q used d) :
    Durable.Meets I Q (admitCreate s name needed weather) d := by
  simp only [admitCreate, meets_bind, meets_throwIf, meets_reads,
    mapError_ok_iff, Except.ok.injEq, forall_eq', meets_pure, Nat.not_le, Nat.not_lt,
    Bool.not_eq_true, Option.isSome_eq_false_iff, Option.isNone_iff_eq_none,
    Directory.find_eq_none_iff]
  exact fun _ => h

/-- Every point of a create in a tidy store is a point of a publication. -/
theorem meets_createWithHooks {sha256 : Bytes → Digest} (hd : Tidy s d) :
    Durable.Meets
      (fun t => ∃ nonce, temporaryObjectName nonce ∉ d.names ∧
        Midway s d name (data = ·) data.length (temporaryObjectName nonce) t)
      (fun _ t => ∃ node, node.contents = data ∧ Fits s d name data ∧ d.Holds [name] node t)
      (createWithHooks s sha256 name data weather) d := by
  simp only [createWithHooks, meets_bind, meets_throwIf]
  intro hchecked
  refine meets_admitCreate fun used hused hroom hcount hfree => ?_
  obtain ⟨hvalid, -, -⟩ : validObjectName name = true ∧ _ := by
    simpa only [not_or, Bool.not_eq_false] using hchecked
  have hused' := hd.used
  rw [hused, Except.ok.injEq] at hused'
  have hfits : Fits s d name data := ⟨hvalid, hfree, hcount, hused' ▸ hroom⟩
  refine meets_openTemporary fun nonce hfresh => ?_
  have hopened := Directory.Holds.createExclusive (temporaryObjectName nonce) 0o600 d
  have hempty : Midway s d name (data = ·) data.length (temporaryObjectName nonce) _ :=
    .written _ ⟨Nat.zero_le _, .inl rfl⟩ hopened
  refine ⟨⟨nonce, hfresh, hempty⟩, ?_⟩
  -- the temporary is withdrawn from wherever the create is
  have hkeep (t : StoreDir)
      (ht : Midway s d name (data = ·) data.length (temporaryObjectName nonce) t) :
      (∃ nonce, temporaryObjectName nonce ∉ d.names ∧
        Midway s d name (data = ·) data.length (temporaryObjectName nonce) t) ∧
      ∃ nonce', temporaryObjectName nonce' ∉ d.names ∧ Midway s d name (data = ·) data.length
        (temporaryObjectName nonce') (withdraw (temporaryObjectName nonce) weather t) :=
    ⟨⟨nonce, hfresh, ht⟩, nonce, hfresh, ht.withdraw hfresh weather⟩
  refine Durable.Meets.onError ?_ (hkeep _ hempty).2
  refine Durable.meets_bind.mpr (meets_writeTemporary hopened rfl ?_ ?_)
  · exact fun k t ht => hkeep t (.written _ ⟨List.length_take_le' _ _, .inl rfl⟩ ht)
  · intro t ht
    refine Durable.meets_bind.mpr (meets_linkTemporary ht rfl (Nat.le_refl _) rfl hfits hkeep ?_)
    intro u hne hu
    have hlinked : Midway s d name (data = ·) data.length (temporaryObjectName nonce) u :=
      .linked _ ⟨Nat.le_refl _, .inr rfl⟩ hne hfits rfl hu
    have hpublished := hu.unlink hfresh
    rw [List.filter_cons_of_pos (by simpa), List.filter_cons_of_neg (by simp),
      List.filter_nil] at hpublished
    simp only [unlinkTemporary, meets_bind, meets_throwIf, meets_modify,
      meets_pure]
    exact fun _ => ⟨hkeep _ (hlinked.unlink hfresh), fun _ => ⟨_, rfl, hfits, hpublished⟩⟩

/-- A create changes nothing in a store that does not open. -/
theorem meets_createWithHooks_of_error {sha256 : Bytes → Digest}
    (hd : ∀ total, usedBytes s d ≠ .ok total) :
    Durable.Meets (fun _ => False) (fun _ _ => False)
      (createWithHooks s sha256 name data weather) d := by
  simp only [createWithHooks, meets_bind, meets_throwIf]
  exact fun _ => meets_admitCreate fun used hused _ _ _ => (hd used hused).elim

end

/-! ## Stores that were cut off anywhere -/

section

variable {s : StoreConfig} {sha256 : Bytes → Digest} {d t : StoreDir} {name data : Bytes}
  {weather : Weather}

/-- What creates make of an empty store, each of them cut off or not. -/
inductive Reachable (s : StoreConfig) (sha256 : Bytes → Digest) : StoreDir → Prop
  | opened (hquota : 0 < s.quota) : Reachable s sha256 {}
  | create {d t : StoreDir} (hd : Reachable s sha256 d) (name data : Bytes) (weather : Weather)
      (ht : (createWithHooks s sha256 name data weather).Leaves d t) : Reachable s sha256 t

theorem Reachable.quota_pos (h : Reachable s sha256 d) : 0 < s.quota := by
  induction h with
  | opened hquota => exact hquota
  | create _ _ _ _ _ ih => exact ih

/-- In a store that opens, what a create leaves is a point of a publication; in another, it
leaves nothing. -/
theorem midway_of_leaves (hd : Tidy s (settled d))
    (ht : (createWithHooks s sha256 name data weather).Leaves d t) :
    Tidy s d ∧ ∃ nonce, temporaryObjectName nonce ∉ d.names ∧
      Midway s d name (data = ·) data.length (temporaryObjectName nonce) t := by
  cases hused : usedBytes s d with
  | error error =>
      refine ((meets_createWithHooks_of_error fun total hok => ?_).1 t ht).elim
      rw [hused] at hok
      exact nomatch hok
  | ok total =>
      have hself := settled_eq_self (settled_of_used hused)
      rw [hself] at hd
      exact ⟨hd, (meets_createWithHooks hd).1 t ht⟩

theorem Reachable.tidy_settled (h : Reachable s sha256 d) : Tidy s (settled d) := by
  induction h with
  | opened hquota =>
      exact ⟨⟨List.nodup_nil, (fun _ hmem => nomatch hmem)⟩, List.nodup_nil,
        (fun _ hmem => nomatch hmem), (fun _ hmem => nomatch hmem), Nat.zero_le _, Nat.zero_le _⟩
  | create hd name data weather ht ih =>
      obtain ⟨hbefore, nonce, hfresh, hmidway⟩ := midway_of_leaves ih ht
      exact hmidway.settled hbefore (isTemporary_temporaryObjectName nonce)

/-- Exactly the stores without a temporary open. -/
theorem Reachable.opens_iff (h : Reachable s sha256 d) :
    openObjectStore s d = .ok () ↔ ∀ name ∈ d.names, isTemporary name = false := by
  constructor
  · intro hopens
    simp only [openObjectStore, bind_ok_iff, revertIf_ok_iff] at hopens
    obtain ⟨-, -, total, hused, -⟩ := hopens
    exact settled_of_used hused
  · intro hsettled
    have htidy := h.tidy_settled
    rw [settled_eq_self hsettled] at htidy
    exact htidy.opens h.quota_pos

/-- Wherever a create is cut off, its object is there as a whole or not at all and the others
are as they were.  The store opens again exactly if no temporary was left, and always without
its temporaries; every file of a store that opens has one name. -/
theorem create_cut_off (hd : Reachable s sha256 d)
    (ht : t = d ∨ (createWithHooks s sha256 name data weather).Leaves d t) :
    (∀ other, isTemporary other = false → t.read other = d.read other ∨
      other = name ∧ d.read other = none ∧ t.read other = some data) ∧
    (openObjectStore s t = .ok () ↔ ∀ other ∈ t.names, isTemporary other = false) ∧
    (openObjectStore s t = .ok () → ∀ entry ∈ t.entries, t.links entry.2 = 1) ∧
    openObjectStore s (settled t) = .ok () ∧
    (∀ other, isTemporary other = false → (settled t).read other = t.read other) ∧
    (∀ ref, (createWithHooks s sha256 name data weather d).result = .ok ref →
      isTemporary name = false →
      openObjectStore s ((createWithHooks s sha256 name data weather).last d) = .ok () ∧
      ((createWithHooks s sha256 name data weather).last d).read name = some data) := by
  have hreachable : Reachable s sha256 t := by
    rcases ht with rfl | ht
    · exact hd
    · exact .create hd name data weather ht
  refine ⟨?_, hreachable.opens_iff, ?_, hreachable.tidy_settled.opens hd.quota_pos, ?_, ?_⟩
  · intro other hother
    rcases ht with rfl | ht
    · exact .inl rfl
    · obtain ⟨hbefore, nonce, -, hmidway⟩ := midway_of_leaves hd.tidy_settled ht
      refine (hmidway.read hbefore (isTemporary_temporaryObjectName nonce) hother).imp id ?_
      rintro ⟨hname, hfree, _, hread, rfl⟩
      exact ⟨hname, hfree, hread⟩
  · intro hopens entry hentry
    have htidy := hreachable.tidy_settled
    rw [settled_eq_self (hreachable.opens_iff.mp hopens)] at htidy
    exact links_eq_one htidy.single hentry
  · intro other hother
    exact Directory.read_keeping (by rw [hother, Bool.not_false])
  · intro ref hok hname
    have hused : ∃ total, usedBytes s d = .ok total := by
      by_contra hnone
      exact (meets_createWithHooks_of_error fun total hused => hnone ⟨total, hused⟩).2 ref hok
    obtain ⟨total, hused⟩ := hused
    have hbefore := hd.tidy_settled
    rw [settled_eq_self (settled_of_used hused)] at hbefore
    obtain ⟨node, rfl, hfits, hholds⟩ := (meets_createWithHooks hbefore).2 ref hok
    refine ⟨(hbefore.of_holds hholds (Nat.le_refl _) fun other hother => ?_).opens hd.quota_pos,
      hholds.read_of_mem List.mem_cons_self⟩
    rw [List.mem_singleton.mp hother]
    exact ⟨hname, hfits⟩

end

/-! A create of one byte in a new private store, cut off once the temporary is there. -/

section

def sampleStore : StoreConfig := privateStoreConfig 1024

def sampleNonce : Vector UInt8 16 := .replicate 16 7

def sampleCreate : Durable StoreDir StoreError FileRef :=
  createWithHooks sampleStore (fun _ => 0) (stringBytes "release.json") [1] ⟨[sampleNonce], none,
    fun _ => false⟩

theorem create_cut_off_sample :
    openObjectStore sampleStore (sampleCreate.last {}) = .ok () ∧
      (sampleCreate.last {}).read (stringBytes "release.json") = some [1] := by
  have hreturns : (sampleCreate {}).result.toOption.isSome = true := by decide +kernel
  obtain ⟨ref, href⟩ := Option.isSome_iff_exists.mp hreturns
  exact (create_cut_off (.opened (by decide)) (.inl rfl)).2.2.2.2.2 ref
    (toOption_eq_some_iff.mp href) (by decide +kernel)

/-- Cut off after its first write, a create leaves a store that does not open. -/
theorem create_cut_off_unopened :
    ∃ t, Reachable sampleStore (fun _ => 0) t ∧ sampleCreate.Leaves {} t ∧
      openObjectStore sampleStore t = .error .store := by
  have hany : (sampleCreate {}).disks.any
      (fun t => openObjectStore sampleStore t = .error .store) = true := by decide +kernel
  obtain ⟨t, hleft, hrefused⟩ := List.any_eq_true.mp hany
  exact ⟨t, .create (.opened (by decide)) _ _ _ hleft, hleft, of_decide_eq_true hrefused⟩

end

end Mordant.GovernedFhe
