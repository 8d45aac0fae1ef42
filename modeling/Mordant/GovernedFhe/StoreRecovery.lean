/-
# Stores that recover

The stores of an import are opened differently: a temporary that a crash left is recognised
by its name, its mode and its links, and removed.

An object is either there as a whole before or it arrives as a stream, which is checked
against the length and the digest that were announced.  The stream is cut at one byte beyond
what may be stored, and that byte is on the disk before it is refused.
-/

import Mordant.GovernedFhe.Store

namespace Mordant.GovernedFhe

open Evm Foundation
open Durable (throwIf meets_bind meets_throwIf leaves_bind_right reads leaves_bind_left onError
  meets_pure)
open Coalition (Digest)

/-! ## Streams -/

/-- `io.Reader`: the bytes it gives, and whether it fails after them. -/
structure Source where
  contents : Bytes
  fails : Bool := false

def FileRef.validate (ref : FileRef) (expectedPath : Bytes) (maximum : ℕ) :
    Except StoreError Unit :=
  revertIf (ref.path ≠ expectedPath ∨ ref.digest = 0 ∨ ref.length = 0 ∨ maximum < ref.length)
    .artifact

section

variable (s : StoreConfig) (sha256 : Bytes → Digest)

/-- The stream is written, up to one byte beyond the limit, and checked. -/
def streamTemporary (name : Bytes) (temporary : Temporary) (source : Source) (limit : ℕ)
    (expected : Option FileRef) (weather : Weather) : Durable StoreDir StoreError FileRef := do
  let copied := source.contents.take (limit + 1)
  writeTemporary temporary copied weather
  throwIf (source.fails = true ∧ source.contents.length ≤ limit) .store
  throwIf (copied.length = 0 ∨ limit < copied.length) .resource
  let ref : FileRef := ⟨name, sha256 copied, copied.length⟩
  throwIf (∃ announced ∈ expected, ref ≠ announced) .artifact
  pure ref

/-- `unlinkObjectIfIdentity`, on the file that was linked. -/
def unlinkObjectIfIdentity (name : Bytes) (temporary : Temporary) (weather : Weather)
    (d : StoreDir) : StoreDir :=
  if d.find name = some temporary.inode ∧ weather.fails .retract = false then d.unlink name else d

def createFromReaderExpectedWithHooks (name : Bytes) (source : Source) (maximum : ℕ)
    (expected : Option FileRef) (weather : Weather) : Durable StoreDir StoreError FileRef := do
  throwIf (validObjectName name = false ∨ maximum = 0 ∨ s.quota < maximum) .store
  throwIf (∃ ref ∈ expected, ¬ (ref.validate name maximum).isOk) .store
  let used ← admitCreate s name 1 weather
  let temporary ← openTemporary (weather.nonces.take 16)
  onError (onError (do
    let ref ← streamTemporary sha256 name temporary source (min maximum (s.quota - used)) expected
      weather
    linkTemporary s name temporary weather
    unlinkTemporary temporary weather
    throwIf (weather.fails .commit = true ∨ weather.fails .settled = true) .store
    pure ref) (unlinkObjectIfIdentity name temporary weather)) (withdraw temporary.name weather)

end

/-! ## Creates of either kind -/

/-- An object that is streamed, or one that is there as a whole. -/
inductive Creation
  | stream (name : Bytes) (source : Source) (maximum : ℕ) (expected : Option FileRef)
  | whole (name data : Bytes)

namespace Creation

def name : Creation → Bytes
  | stream name _ _ _ => name
  | whole name _ => name

def run (s : StoreConfig) (sha256 : Bytes → Digest) (weather : Weather) :
    Creation → Durable StoreDir StoreError FileRef
  | stream name source maximum expected =>
      createFromReaderExpectedWithHooks s sha256 name source maximum expected weather
  | whole name data => createWithHooks s sha256 name data weather

/-- The bytes are the ones that were given, and what was announced of them is so. -/
def Complete (sha256 : Bytes → Digest) : Creation → Bytes → Prop
  | stream name source maximum expected, contents =>
      source.contents = contents ∧ source.fails = false ∧ 0 < contents.length ∧
        contents.length ≤ maximum ∧
        ∀ ref ∈ expected, ref = ⟨name, sha256 contents, contents.length⟩
  | whole _ data, contents => data = contents

/-- What a create checks of its arguments. -/
def Asked (s : StoreConfig) : Creation → Prop
  | stream name _ maximum expected => validObjectName name = true ∧ maximum ≠ 0 ∧
      maximum ≤ s.quota ∧ ∀ ref ∈ expected, (ref.validate name maximum).isOk = true
  | whole name data => validObjectName name = true ∧ data.length ≠ 0 ∧ data.length ≤ s.quota

/-- What a create checks before it writes. -/
def Admitted (s : StoreConfig) (d : StoreDir) (creation : Creation) : Prop :=
  creation.Asked s ∧ ∃ used, usedBytes s d = .ok used ∧ d.entries.length < s.maxObjects ∧
    creation.name ∉ d.names ∧
    match creation with
    | stream .. => used + 1 ≤ s.quota
    | whole _ data => used + data.length ≤ s.quota

/-- How many bytes a create may leave in its temporary. -/
def written (s : StoreConfig) (d : StoreDir) : Creation → ℕ
  | stream _ source maximum _ =>
      min source.contents.length (min maximum (s.quota - usage d) + 1)
  | whole _ data => data.length

end Creation

section

variable {s : StoreConfig} {sha256 : Bytes → Digest} {before d t : StoreDir} {name τ : Bytes}
  {source : Source} {maximum : ℕ} {expected : Option FileRef} {weather : Weather}
  {complete : Bytes → Prop} {bound : ℕ}

theorem Midway.unlinkObjectIfIdentity (h : Midway s before name complete bound τ t)
    (hfree : name ∉ before.names) (temporary : Temporary) (weather : Weather) :
    Midway s before name complete bound τ (unlinkObjectIfIdentity name temporary weather t) := by
  rw [GovernedFhe.unlinkObjectIfIdentity]
  split
  · exact h.unlinkObject hfree
  · exact h

/-- A stream that passes has been written as a whole. -/
theorem meets_streamTemporary {temporary : Temporary} {limit : ℕ} {I : StoreDir → Prop}
    {Q : FileRef → StoreDir → Prop}
    (h : before.Holds [temporary.name] ⟨[], 0o600⟩ d) (hinode : temporary.inode = before.next)
    (hI : ∀ k t, before.Holds [temporary.name]
      ⟨(source.contents.take (limit + 1)).take k, 0o600⟩ t → I t)
    (hQ : ∀ t, before.Holds [temporary.name] ⟨source.contents, 0o600⟩ t → source.fails = false →
      0 < source.contents.length → source.contents.length ≤ limit →
      (∀ ref ∈ expected, ref = ⟨name, sha256 source.contents, source.contents.length⟩) →
      Q ⟨name, sha256 source.contents, source.contents.length⟩ t) :
    Durable.Meets I Q (streamTemporary sha256 name temporary source limit expected weather) d := by
  refine Durable.meets_bind.mpr (meets_writeTemporary h hinode hI fun t ht => ?_)
  simp only [meets_bind, meets_throwIf, meets_pure]
  intro hfails hlength hexpected
  obtain ⟨hpositive, hle⟩ := not_or.mp hlength
  have hlimit : source.contents.length ≤ limit := by
    rw [List.length_take] at hle
    omega
  have hwhole : source.contents.take (limit + 1) = source.contents :=
    List.take_of_length_le (Nat.le_succ_of_le hlimit)
  rw [hwhole] at hpositive hexpected ht ⊢
  refine hQ t ht ?_ (Nat.pos_of_ne_zero hpositive) hlimit fun ref href => ?_
  · exact Bool.eq_false_iff.mpr fun htrue => hfails ⟨htrue, hlimit⟩
  · by_contra hne
    exact hexpected ⟨ref, href, fun heq => hne heq.symm⟩

/-- Every point of a streamed create in a tidy store is a point of a publication. -/
theorem meets_createFromReaderExpectedWithHooks (hd : Tidy s d) :
    Durable.Meets
      (fun t => ∃ nonce, temporaryObjectName nonce ∉ d.names ∧
        Midway s d name ((Creation.stream name source maximum expected).Complete sha256)
          ((Creation.stream name source maximum expected).written s d)
          (temporaryObjectName nonce) t)
      (fun _ t => ∃ node,
        (Creation.stream name source maximum expected).Complete sha256 node.contents ∧
        Fits s d name node.contents ∧ d.Holds [name] node t)
      (createFromReaderExpectedWithHooks s sha256 name source maximum expected weather) d := by
  simp only [createFromReaderExpectedWithHooks, meets_bind, meets_throwIf]
  intro hchecked _
  refine meets_admitCreate fun used hused hroom hcount hfree => ?_
  obtain ⟨hvalid, -, -⟩ : validObjectName name = true ∧ _ := by
    simpa only [not_or, Bool.not_eq_false] using hchecked
  obtain rfl : usage d = used := by
    have hused' := hd.used
    rwa [hused, Except.ok.injEq, eq_comm] at hused'
  refine meets_openTemporary fun nonce hfresh => ?_
  have hopened := Directory.Holds.createExclusive (temporaryObjectName nonce) 0o600 d
  let creation := Creation.stream name source maximum expected
  let K (t : StoreDir) : Prop := ∃ nonce, temporaryObjectName nonce ∉ d.names ∧
    Midway s d name (creation.Complete sha256) (creation.written s d) (temporaryObjectName nonce) t
  let temporary : Temporary := ⟨temporaryObjectName nonce, d.next⟩
  -- object and temporary are withdrawn from wherever the create is
  have hkeep (t : StoreDir) (ht : Midway s d name (creation.Complete sha256)
      (creation.written s d) (temporaryObjectName nonce) t) :
      (K t ∧ K (withdraw (temporaryObjectName nonce) weather t)) ∧
      K (unlinkObjectIfIdentity name temporary weather t) ∧
      K (withdraw (temporaryObjectName nonce) weather
        (unlinkObjectIfIdentity name temporary weather t)) := by
    have hgone := ht.unlinkObjectIfIdentity hfree temporary weather
    exact ⟨⟨⟨nonce, hfresh, ht⟩, nonce, hfresh, ht.withdraw hfresh weather⟩,
      ⟨nonce, hfresh, hgone⟩, nonce, hfresh, hgone.withdraw hfresh weather⟩
  have hempty : Midway s d name (creation.Complete sha256) (creation.written s d)
      (temporaryObjectName nonce) _ := .written _ ⟨Nat.zero_le _, .inl rfl⟩ hopened
  refine ⟨(hkeep _ hempty).1.1, ?_⟩
  refine Durable.Meets.onError (Durable.Meets.onError ?_ (hkeep _ hempty).2) (hkeep _ hempty).1.2
  refine Durable.meets_bind.mpr (meets_streamTemporary hopened rfl ?_ ?_)
  · intro k t ht
    refine hkeep t (.written _ ⟨?_, .inl rfl⟩ ht)
    rw [List.take_take, List.length_take]
    show _ ≤ min source.contents.length (min maximum (s.quota - usage d) + 1)
    omega
  · intro t ht hfails hpositive hlimit hexpected
    have hcomplete : creation.Complete sha256 source.contents :=
      ⟨rfl, hfails, hpositive, hlimit.trans (Nat.min_le_left _ _), hexpected⟩
    have hbound : source.contents.length ≤ creation.written s d :=
      Nat.le_min.mpr ⟨Nat.le_refl _, Nat.le_succ_of_le hlimit⟩
    have hfits : Fits s d name source.contents := by
      refine ⟨hvalid, hfree, hcount, ?_⟩
      have := hlimit.trans (Nat.min_le_right _ _)
      omega
    refine Durable.meets_bind.mpr
      (meets_linkTemporary ht rfl hbound hcomplete hfits hkeep fun u hne hu => ?_)
    have hlinked : Midway s d name (creation.Complete sha256) (creation.written s d)
        (temporaryObjectName nonce) u := .linked _ ⟨hbound, .inr rfl⟩ hne hfits hcomplete hu
    have hpublished := hu.unlink hfresh
    rw [List.filter_cons_of_pos (by simpa), List.filter_cons_of_neg (by simp),
      List.filter_nil] at hpublished
    simp only [unlinkTemporary, meets_bind, meets_throwIf, Durable.meets_modify,
      meets_pure]
    exact fun _ => ⟨hkeep _ (hlinked.unlink hfresh), fun _ => ⟨_, hcomplete, hfits, hpublished⟩⟩

/-- Every point of a create in a tidy store is a point of a publication. -/
theorem Creation.meets_run (creation : Creation) (hd : Tidy s d) :
    Durable.Meets
      (fun t => ∃ nonce, temporaryObjectName nonce ∉ d.names ∧
        Midway s d creation.name (creation.Complete sha256) (creation.written s d)
          (temporaryObjectName nonce) t)
      (fun _ t => ∃ node, creation.Complete sha256 node.contents ∧
        Fits s d creation.name node.contents ∧ d.Holds [creation.name] node t)
      (creation.run s sha256 weather) d := by
  cases creation with
  | stream name source maximum expected => exact meets_createFromReaderExpectedWithHooks hd
  | whole name data =>
      refine (meets_createWithHooks hd).mono (fun _ h => h) ?_
      rintro _ t ⟨node, rfl, hfits, hholds⟩
      exact ⟨node, rfl, hfits, hholds⟩

/-- Nothing is left by a create that is not admitted. -/
theorem Creation.meets_run_of_not_admitted {creation : Creation} (h : ¬ creation.Admitted s d) :
    Durable.Meets (fun _ => False) (fun _ _ => False) (creation.run s sha256 weather) d := by
  cases creation with
  | stream name source maximum expected =>
      simp only [Creation.run, createFromReaderExpectedWithHooks, meets_bind,
        meets_throwIf]
      intro hchecked hexpected
      simp only [not_or, Bool.not_eq_false, not_lt, not_exists, not_and, not_not]
        at hchecked hexpected
      exact meets_admitCreate fun used hused hroom hcount hfree =>
        (h ⟨⟨hchecked.1, hchecked.2.1, hchecked.2.2, hexpected⟩, used, hused, hcount, hfree,
          hroom⟩).elim
  | whole name data =>
      simp only [Creation.run, createWithHooks, meets_bind, meets_throwIf, not_or,
        Bool.not_eq_false, not_lt]
      exact fun hasked => meets_admitCreate fun used hused hroom hcount hfree =>
        (h ⟨hasked, used, hused, hcount, hfree, hroom⟩).elim

end

/-! ## Recovery -/

/-- `participantTemporaryRecoveryPolicy`: no temporary has more bytes than `maximum`, and an
object only as many as its name allows. -/
structure RecoveryPolicy where
  maximum : ℕ
  targetLimit : Bytes → Option ℕ

/-- A lower-case hexadecimal digit. -/
def isHexByte (b : UInt8) : Bool := (48 ≤ b && b ≤ 57) || (97 ≤ b && b ≤ 102)

def validMordantTemporaryObjectName (name : Bytes) : Bool :=
  name.length = temporaryPrefix.length + 32 && isTemporary name &&
    (name.drop temporaryPrefix.length).all isHexByte

section

variable (s : StoreConfig) (policy : RecoveryPolicy)

/-- The loop over the entries that may be the object of a temporary. -/
def matchingTargets (d : StoreDir) (inode : ℕ) : List Bytes → Except StoreError ℕ
  | [] => .ok 0
  | target :: rest =>
    match policy.targetLimit target with
    | none => matchingTargets d inode rest
    | some limit => do
      revertIf (validObjectName target = false ∨ limit = 0 ∨ policy.maximum < limit) .store
      revertIf (d.find target = some inode ∧ limit < sizeOf d inode) .store
      let others ← matchingTargets d inode rest
      pure (if d.find target = some inode then others + 1 else others)

/-- What is checked of a temporary. -/
def checkTemporary (entries : List Bytes) (name : Bytes) (d : StoreDir) : Except StoreError Unit :=
  match d.find name with
  | none => .error .store
  | some inode => do
    revertIf (policy.maximum < sizeOf d inode ∨
      ((d.inode inode).mode ≠ 0o600 ∧ (d.inode inode).mode ≠ s.fileMode) ∨
      (d.links inode ≠ 1 ∧ d.links inode ≠ 2)) .store
    let matching ← matchingTargets policy d inode entries
    revertIf ((d.links inode = 1 ∧ matching ≠ 0) ∨ (d.links inode = 2 ∧ matching ≠ 1)) .store

/-- The loop over the temporaries. -/
def recoverTemporaries (entries : List Bytes) : List Bytes → Durable StoreDir StoreError Unit
  | [] => pure ()
  | name :: rest => do
    reads (checkTemporary s policy entries name)
    Durable.modify (Directory.unlink name)
    recoverTemporaries entries rest

def recoverParticipantOriginatedTemporaryObjects : Durable StoreDir StoreError Unit := do
  throwIf (policy.maximum = 0 ∨ s.quota < policy.maximum) .store
  let entries ← reads fun d => .ok d.names
  let temporaryNames := entries.filter isTemporary
  throwIf ((∃ name ∈ temporaryNames, validMordantTemporaryObjectName name = false) ∨
    2 < temporaryNames.length) .store
  recoverTemporaries s policy entries temporaryNames

def openObjectStoreWithParticipantRecovery : Durable StoreDir StoreError Unit := do
  throwIf (s.quota = 0) .store
  recoverParticipantOriginatedTemporaryObjects s policy
  let _ ← reads (usedBytes s)

end

/-! ## What recovery does -/

section

variable {s : StoreConfig} {policy : RecoveryPolicy} {before d t : StoreDir} {name τ : Bytes}
  {added : List Bytes} {node : Inode UInt8}

/-- The objects that a policy names are objects, and fit. -/
structure RecoveryPolicy.Sound (s : StoreConfig) (policy : RecoveryPolicy) : Prop where
  maximum_pos : 0 < policy.maximum
  maximum_le : policy.maximum ≤ s.quota
  valid : ∀ name limit, policy.targetLimit name = some limit → validObjectName name = true
  settled : ∀ name limit, policy.targetLimit name = some limit → isTemporary name = false
  limit : ∀ name limit, policy.targetLimit name = some limit → 0 < limit ∧ limit ≤ policy.maximum

theorem isHexByte_hexDigit (b : UInt8) :
    isHexByte (hexDigit (b / 16)) = true ∧ isHexByte (hexDigit (b % 16)) = true := by
  have hall : ∀ b : Fin 256, isHexByte (hexDigit (UInt8.ofFin b / 16)) = true ∧
      isHexByte (hexDigit (UInt8.ofFin b % 16)) = true := by decide +kernel
  exact hall b.toFin

/-- The names that temporaries are given are the ones that recovery knows. -/
theorem validMordantTemporaryObjectName_temporaryObjectName (nonce : Vector UInt8 16) :
    validMordantTemporaryObjectName (temporaryObjectName nonce) = true := by
  have hlength : (hexBytes nonce.toList).length = 32 := by
    rw [hexBytes, List.length_flatMap]
    simp
  have hdigits : (hexBytes nonce.toList).all isHexByte = true := by
    refine List.all_eq_true.mpr fun digit hdigit => ?_
    obtain ⟨b, -, hb⟩ := List.mem_flatMap.mp hdigit
    rcases List.mem_cons.mp hb with rfl | hb
    · exact (isHexByte_hexDigit b).1
    · rw [List.mem_singleton.mp hb]
      exact (isHexByte_hexDigit b).2
  rw [validMordantTemporaryObjectName, isTemporary_temporaryObjectName, temporaryObjectName,
    List.length_append, hlength, List.drop_left, hdigits]
  simp

/-- Where no object is larger than its name allows, the objects of a file are counted. -/
theorem matchingTargets_eq (hpolicy : policy.Sound s) {inode : ℕ} {targets : List Bytes}
    (hlimit : ∀ target ∈ targets, ∀ limit, policy.targetLimit target = some limit →
      d.find target = some inode → sizeOf d inode ≤ limit) :
    matchingTargets policy d inode targets = .ok (targets.countP fun target =>
      (policy.targetLimit target).isSome ∧ d.find target = some inode) := by
  induction targets with
  | nil => rfl
  | cons target rest ih =>
      rw [List.forall_mem_cons] at hlimit
      cases htarget : policy.targetLimit target with
      | none =>
          rw [List.countP_cons_of_neg (by simp [htarget])]
          simp only [matchingTargets, htarget]
          exact ih hlimit.2
      | some limit =>
          obtain ⟨hpos, hle⟩ := hpolicy.limit target limit htarget
          simp only [matchingTargets, htarget, bind_ok_iff, revertIf_ok_iff, exists_const,
            pure_ok_iff]
          refine ⟨?_, ?_, _, ih hlimit.2, ?_⟩
          · rw [hpolicy.valid target limit htarget, not_or, not_or]
            exact ⟨Bool.noConfusion, Nat.ne_of_gt hpos, Nat.not_lt.mpr hle⟩
          · rintro ⟨hfind, hlarge⟩
            exact Nat.not_lt.mpr (hlimit.1 limit htarget hfind) hlarge
          · split
            case isTrue hfind => rw [List.countP_cons_of_pos (by simp [htarget, hfind])]
            case isFalse hfind => rw [List.countP_cons_of_neg (by simp [hfind])]

/-- A name of the store before does not point to the new file. -/
theorem find_ne_next (h : before.Holds added node t) (hbefore : before.WellFormed)
    (hname : name ∉ added) : t.find name ≠ some before.next := by
  rw [h.find_of_not_mem hname]
  intro hfind
  exact Nat.lt_irrefl _ (hbefore.lt_next _ (Directory.mem_entries_of_find hfind))

theorem Tidy.not_mem_names (h : Tidy s d) (hτ : isTemporary τ = true) : τ ∉ d.names := by
  intro hmem
  obtain ⟨entry, hentry, rfl⟩ := List.mem_map.mp hmem
  rw [h.settled entry hentry] at hτ
  exact nomatch hτ

theorem Tidy.filter_isTemporary (h : Tidy s d) : d.names.filter isTemporary = [] :=
  List.filter_eq_nil_iff.mpr fun _ hname hτ => h.not_mem_names hτ hname

/-- What recovery can find: a tidy store, or one with one more file, which a create left under
a temporary name and at most one other. -/
inductive Recoverable (s : StoreConfig) (policy : RecoveryPolicy) (t : StoreDir) : Prop
  | tidy (h : Tidy s t)
  | interrupted {before : StoreDir} {nonce : Vector UInt8 16} {objects : List Bytes}
      {node : Inode UInt8} (hbefore : Tidy s before) (hnode : Written s policy.maximum node)
      (hone : objects.length ≤ 1)
      (hobjects : ∀ name ∈ objects, Fits s before name node.contents ∧
        ∃ limit, policy.targetLimit name = some limit ∧ node.contents.length ≤ limit)
      (h : before.Holds (objects ++ [temporaryObjectName nonce]) node t)

/-- A temporary that a create left passes the checks. -/
theorem checkTemporary_interrupted {objects : List Bytes} (hpolicy : policy.Sound s)
    (hbefore : Tidy s before) (hτ : isTemporary τ = true) (hnode : Written s policy.maximum node)
    (hone : objects.length ≤ 1)
    (hobjects : ∀ name ∈ objects, Fits s before name node.contents ∧
      ∃ limit, policy.targetLimit name = some limit ∧ node.contents.length ≤ limit)
    (h : before.Holds (objects ++ [τ]) node t) : checkTemporary s policy t.names τ t = .ok () := by
  have hadded : objects ++ [τ] ≠ [] := List.append_ne_nil_of_right_ne_nil _ (List.cons_ne_nil _ _)
  have hfind := h.find_of_mem (List.mem_append_right objects List.mem_cons_self)
  have hinode := h.inode hadded
  have hlinks : t.links before.next = objects.length + 1 := by
    rw [h.links_new hbefore.wellFormed, List.length_append, List.length_singleton]
  have hunnamed (limit : ℕ) : policy.targetLimit τ ≠ some limit := fun hlimit => by
    rw [hpolicy.settled τ limit hlimit] at hτ
    exact nomatch hτ
  have hold (name : Bytes) (hname : name ∈ before.names) : t.find name ≠ some before.next := by
    refine find_ne_next h hbefore.wellFormed fun hmem => ?_
    rcases List.mem_append.mp hmem with hmem | hmem
    · exact (hobjects name hmem).1.free hname
    · exact hbefore.not_mem_names hτ (List.mem_singleton.mp hmem ▸ hname)
  have hcount : t.names.countP (fun target => (policy.targetLimit target).isSome ∧
      t.find target = some before.next) = objects.length := by
    rw [h.names, List.countP_append, List.countP_append]
    have hnew : objects.countP (fun target => (policy.targetLimit target).isSome ∧
        t.find target = some before.next) = objects.length := by
      refine List.countP_eq_length.mpr fun name hname => decide_eq_true ?_
      obtain ⟨-, limit, hlimit, -⟩ := hobjects name hname
      exact ⟨by rw [hlimit]; rfl, h.find_of_mem (List.mem_append_left _ hname)⟩
    have htemporary : [τ].countP (fun target => (policy.targetLimit target).isSome ∧
        t.find target = some before.next) = 0 := by
      refine List.countP_eq_zero.mpr fun name hname hmatch => ?_
      obtain ⟨limit, hlimit⟩ := Option.isSome_iff_exists.mp (of_decide_eq_true hmatch).1
      exact hunnamed limit (List.mem_singleton.mp hname ▸ hlimit)
    have hearlier : before.names.countP (fun target => (policy.targetLimit target).isSome ∧
        t.find target = some before.next) = 0 :=
      List.countP_eq_zero.mpr fun name hname hmatch =>
        hold name hname (of_decide_eq_true hmatch).2
    rw [hnew, htemporary, hearlier, Nat.add_zero]
  have hmatching : matchingTargets policy t before.next t.names = .ok objects.length := by
    rw [← hcount]
    refine matchingTargets_eq hpolicy fun target _ limit hlimit htarget => ?_
    rw [sizeOf, hinode]
    by_cases hmem : target ∈ objects
    · obtain ⟨-, other, hother, hle⟩ := hobjects target hmem
      rw [hlimit, Option.some.injEq] at hother
      exact hother ▸ hle
    · refine (find_ne_next h hbefore.wellFormed (fun hadded => ?_) htarget).elim
      rcases List.mem_append.mp hadded with hadded | hadded
      · exact hmem hadded
      · exact hunnamed limit (List.mem_singleton.mp hadded ▸ hlimit)
  have hmode : ¬ (node.mode ≠ 0o600 ∧ node.mode ≠ s.fileMode) := fun hboth =>
    hnode.mode.elim hboth.1 hboth.2
  have hsize := hnode.length_le
  simp only [checkTemporary, hfind, hmatching, hlinks, sizeOf, hinode, bind_ok_iff,
    revertIf_ok_iff, exists_const, Except.ok.injEq, exists_eq_left']
  exact ⟨by omega, by omega⟩

/-- Recovery returns with a tidy store, in which what is no temporary is read as before, and
so does every point of it. -/
theorem recovers (hquota : 0 < s.quota) (hpolicy : policy.Sound s) (h : Recoverable s policy t) :
    let opened (u : StoreDir) : Prop := Tidy s u ∧
      ∀ other, isTemporary other = false → u.read other = t.read other
    Durable.Meets opened (fun _ => opened) (openObjectStoreWithParticipantRecovery s policy) t ∧
      Durable.Returns (fun _ => opened) (openObjectStoreWithParticipantRecovery s policy) t := by
  have hmaximum : ¬ (policy.maximum = 0 ∨ s.quota < policy.maximum) := by
    have hpos := hpolicy.maximum_pos
    have hle := hpolicy.maximum_le
    omega
  have hzero : ¬ s.quota = 0 := Nat.ne_of_gt hquota
  cases h with
  | tidy htidy =>
      have hvalid (name : Bytes) (hname : name ∈ t.names) (hτ : isTemporary name = true) :
          validMordantTemporaryObjectName name = true :=
        (htidy.not_mem_names hτ hname).elim
      simpa [openObjectStoreWithParticipantRecovery, recoverParticipantOriginatedTemporaryObjects,
        recoverTemporaries, htidy.filter_isTemporary, htidy.used, htidy, hmaximum, hzero]
        using hvalid
  | @interrupted before nonce objects node hbefore hnode hone hobjects hholds =>
      have hτ := isTemporary_temporaryObjectName nonce
      have hfresh := hbefore.not_mem_names hτ
      have hsettled (name : Bytes) (hname : name ∈ objects) : isTemporary name = false := by
        obtain ⟨-, limit, hlimit, -⟩ := hobjects name hname
        exact hpolicy.settled name limit hlimit
      have htemporaries : t.names.filter isTemporary = [temporaryObjectName nonce] := by
        rw [hholds.names, List.filter_append, List.filter_append, hbefore.filter_isTemporary,
          List.filter_eq_nil_iff.mpr, List.filter_cons_of_pos hτ]
        · rfl
        · exact fun name hname => by rw [hsettled name hname]; exact Bool.false_ne_true
      have hgone := hholds.unlink hfresh
      have hkept : (objects ++ [temporaryObjectName nonce]).filter
          (· ≠ temporaryObjectName nonce) = objects := by
        rw [List.filter_append, List.filter_cons_of_neg (by simp), List.filter_nil,
          List.append_nil, List.filter_eq_self]
        refine fun name hname => decide_eq_true fun heq => ?_
        rw [← heq, hsettled name hname] at hτ
        cases hτ
      rw [hkept] at hgone
      have htidy : Tidy s (t.unlink (temporaryObjectName nonce)) :=
        hbefore.of_holds hgone hone fun name hname => ⟨hsettled name hname, (hobjects name hname).1⟩
      have hread (other : Bytes) (hother : isTemporary other = false) :
          (t.unlink (temporaryObjectName nonce)).read other = t.read other := by
        have hne : decide (other ≠ temporaryObjectName nonce) = true := decide_eq_true fun heq => by
          rw [heq, hτ] at hother
          cases hother
        exact Directory.read_keeping (p := (· ≠ temporaryObjectName nonce)) hne
      have hcheck := checkTemporary_interrupted hpolicy hbefore hτ hnode hone hobjects hholds
      have hvalid (name : Bytes) (hname : name ∈ t.names) (hτ : isTemporary name = true) :
          validMordantTemporaryObjectName name = true := by
        have hmem : name ∈ t.names.filter isTemporary := List.mem_filter.mpr ⟨hname, hτ⟩
        rw [htemporaries, List.mem_singleton] at hmem
        rw [hmem]
        exact validMordantTemporaryObjectName_temporaryObjectName nonce
      simpa [openObjectStoreWithParticipantRecovery, recoverTemporaries, hmaximum, hzero,
        recoverParticipantOriginatedTemporaryObjects, htemporaries, hcheck, htidy.used]
        using ⟨fun _ => ⟨htidy, hread⟩, hvalid, htidy, hread⟩

/-- No create is admitted where a temporary was left. -/
theorem Recoverable.tidy_of_admitted {creation : Creation} (h : Recoverable s policy t)
    (hadmitted : creation.Admitted s t) : Tidy s t := by
  cases h with
  | tidy htidy => exact htidy
  | @interrupted before nonce objects node hbefore hnode hone hobjects hholds =>
      obtain ⟨-, used, hused, -⟩ := hadmitted
      have hmem : temporaryObjectName nonce ∈ t.names := by
        rw [hholds.names]
        exact List.mem_append_left _ (List.mem_append_right _ List.mem_cons_self)
      have hτ := settled_of_used hused _ hmem
      rw [isTemporary_temporaryObjectName] at hτ
      exact nomatch hτ

/-- A create that, if it is admitted, writes no more to its temporary than recovery allows, and
no larger an object than its name allows. -/
structure Creation.WithinPolicy (s : StoreConfig) (policy : RecoveryPolicy)
    (sha256 : Bytes → Digest) (d : StoreDir) (creation : Creation) : Prop where
  temporary : creation.Admitted s d → creation.written s d ≤ policy.maximum
  object : ∀ contents limit, creation.Complete sha256 contents →
    Fits s d creation.name contents → policy.targetLimit creation.name = some limit →
    contents.length ≤ limit

/-- What such a create leaves can be recovered. -/
theorem Midway.recoverable {sha256 : Bytes → Digest} {creation : Creation}
    {nonce : Vector UInt8 16} {limit : ℕ} (hpolicy : policy.Sound s) (hd : Tidy s d)
    (hadmitted : creation.Admitted s d) (hwithin : creation.WithinPolicy s policy sha256 d)
    (hlimit : policy.targetLimit creation.name = some limit)
    (h : Midway s d creation.name (creation.Complete sha256) (creation.written s d)
      (temporaryObjectName nonce) t) : Recoverable s policy t := by
  have hbound {node : Inode UInt8} (hnode : Written s (creation.written s d) node) :
      Written s policy.maximum node :=
    ⟨hnode.length_le.trans (hwithin.temporary hadmitted), hnode.mode⟩
  cases h with
  | withdrawn node h =>
      exact .tidy (hd.of_holds h (Nat.zero_le 1) fun _ hmem => nomatch hmem)
  | written node hnode h =>
      have hholds : d.Holds ([] ++ [temporaryObjectName nonce]) node t := h
      refine .interrupted hd (hbound hnode) ?_ ?_ hholds
      · exact Nat.zero_le 1
      · exact fun _ hmem => nomatch hmem
  | linked node hnode hne hfits hcomplete h =>
      have hholds : d.Holds ([creation.name] ++ [temporaryObjectName nonce]) node t := h
      refine .interrupted hd (hbound hnode) ?_ ?_ hholds
      · exact Nat.le_refl 1
      · intro name hname
        rw [List.mem_singleton.mp hname]
        exact ⟨hfits, limit, hlimit, hwithin.object _ _ hcomplete hfits hlimit⟩
  | published node hne hfits hcomplete h =>
      refine .tidy (hd.of_holds h (Nat.le_refl 1) fun name hname => ?_)
      rw [List.mem_singleton.mp hname]
      exact ⟨hpolicy.settled _ _ hlimit, hfits⟩

end

/-! ## The stores of an import -/

def participantOriginatedMaximumCiphertextBytes : ℕ := 192 * 2 ^ 20

def participantOriginatedArtifactRecoveryPolicy : RecoveryPolicy where
  maximum := participantOriginatedMaximumCiphertextBytes
  targetLimit name :=
    if name = stringBytes "submission-a.bin" ∨ name = stringBytes "submission-b.bin" then
      some participantOriginatedMaximumCiphertextBytes
    else if name = stringBytes "submission-a.json" ∨ name = stringBytes "submission-b.json" ∨
        name = stringBytes "participant-enrollment-a.json" ∨
        name = stringBytes "participant-enrollment-b.json" then
      some maxManifestBytes
    else none

def nonceClaimPrefix : Bytes := stringBytes "participant-originated-nonce-"

def nonceClaimSuffix : Bytes := stringBytes ".json"

def validParticipantOriginatedNonceClaimObjectName (name : Bytes) : Bool :=
  name.length = nonceClaimPrefix.length + 64 + nonceClaimSuffix.length &&
    nonceClaimPrefix.isPrefixOf name && nonceClaimSuffix.isSuffixOf name &&
    ((name.drop nonceClaimPrefix.length).take 64).all isHexByte

def participantOriginatedJournalRecoveryPolicy : RecoveryPolicy where
  maximum := maxManifestBytes
  targetLimit name :=
    if name = stringBytes "participant-a-import-admitted.json" ∨
        name = stringBytes "participant-a-import-completed.json" ∨
        name = stringBytes "participant-b-import-admitted.json" ∨
        name = stringBytes "participant-b-import-completed.json" ∨
        validParticipantOriginatedNonceClaimObjectName name = true then
      some maxManifestBytes
    else none

/-- The two kinds of stores an import opens. -/
inductive ImportStore
  | artifact
  | journal
  deriving DecidableEq

/-- `PublicCaseQuota` and `PrivateCaseQuota`. -/
def ImportStore.config : ImportStore → StoreConfig
  | artifact => publicStoreConfig (2 ^ 30)
  | journal => privateStoreConfig (64 * 2 ^ 20)

def ImportStore.policy : ImportStore → RecoveryPolicy
  | artifact => participantOriginatedArtifactRecoveryPolicy
  | journal => participantOriginatedJournalRecoveryPolicy

/-- A name without separators, and with at most one dot, is the name of an object. -/
theorem validObjectName_of_count {name : Bytes} (hlength : 1 < name.length)
    (hbytes : ∀ b ∈ name, b ≠ 47 ∧ b ≠ 92 ∧ b ≠ 0) (hdots : name.count 46 ≤ 1) :
    validObjectName name = true := by
  have hnil : name ≠ [] := fun heq => by simp [heq] at hlength
  have hdot : name ≠ [46] := fun heq => by simp [heq] at hlength
  have hcontains (b : UInt8) (hb : b = 47 ∨ b = 92 ∨ b = 0) : name.contains b = false := by
    refine Bool.eq_false_iff.mpr fun hmem => ?_
    obtain ⟨h47, h92, h0⟩ := hbytes b (List.contains_iff_mem.mp hmem)
    exact hb.elim h47 fun hb => hb.elim h92 h0
  have htails : name.tails.any ([46, 46].isPrefixOf ·) = false := by
    refine List.any_eq_false.mpr fun tail htail hdots' => ?_
    have hsub : [46, 46].Sublist name :=
      (List.isPrefixOf_iff_prefix.mp hdots').sublist.trans ((List.mem_tails _ _).mp htail).sublist
    have hcount := hsub.count_le 46
    rw [show [46, 46].count (46 : UInt8) = 2 from rfl] at hcount
    omega
  rw [validObjectName, hcontains 47 (.inl rfl), hcontains 92 (.inr (.inl rfl)),
    hcontains 0 (.inr (.inr rfl)), htails]
  simp [hnil, hdot]

theorem validObjectName_nonceClaim {name : Bytes}
    (h : validParticipantOriginatedNonceClaimObjectName name = true) :
    validObjectName name = true ∧ isTemporary name = false := by
  simp only [validParticipantOriginatedNonceClaimObjectName, Bool.and_eq_true, decide_eq_true_eq,
    List.isPrefixOf_iff_prefix, List.isSuffixOf_iff_suffix, List.all_eq_true] at h
  obtain ⟨⟨⟨hlength, rest, rfl⟩, earlier, hsuffix⟩, hdigits⟩ := h
  rw [List.drop_left] at hdigits
  have hrest : rest.length = 64 + nonceClaimSuffix.length := by
    rw [List.length_append] at hlength
    omega
  -- the digits are what is left between the prefix and the suffix
  have hsplit : rest = rest.take 64 ++ nonceClaimSuffix := by
    have hdrop := congrArg (List.drop (nonceClaimPrefix.length + 64)) hsuffix
    have hearlier : earlier.length = nonceClaimPrefix.length + 64 := by
      have := congrArg List.length hsuffix
      rw [List.length_append, List.length_append] at this
      omega
    rw [← hearlier, List.drop_left, hearlier, List.drop_append] at hdrop
    rw [Nat.add_sub_cancel_left, List.drop_eq_nil_of_le (Nat.le_add_right _ _),
      List.nil_append] at hdrop
    rw [hdrop, List.take_append_drop]
  have hhex : ∀ b ∈ rest.take 64, b ≠ 47 ∧ b ≠ 92 ∧ b ≠ 0 ∧ b ≠ 46 := by
    have hbyte : ∀ b : Fin 256, isHexByte (UInt8.ofFin b) = true → UInt8.ofFin b ≠ 47 ∧
        UInt8.ofFin b ≠ 92 ∧ UInt8.ofFin b ≠ 0 ∧ UInt8.ofFin b ≠ 46 := by decide +kernel
    exact fun b hb => hbyte b.toFin (hdigits b hb)
  constructor
  · apply validObjectName_of_count
    · rw [hlength]
      exact Nat.lt_of_lt_of_le (by decide : 1 < 64) (by omega)
    · rw [hsplit]
      intro b hb
      rcases List.mem_append.mp hb with hb | hb
      · exact (by decide +kernel : ∀ b ∈ nonceClaimPrefix, b ≠ 47 ∧ b ≠ 92 ∧ b ≠ 0) b hb
      · rcases List.mem_append.mp hb with hb | hb
        · obtain ⟨h47, h92, h0, -⟩ := hhex b hb
          exact ⟨h47, h92, h0⟩
        · exact (by decide +kernel : ∀ b ∈ nonceClaimSuffix, b ≠ 47 ∧ b ≠ 92 ∧ b ≠ 0) b hb
    · have hnone : (rest.take 64).count 46 = 0 :=
        List.count_eq_zero.mpr fun hmem => (hhex 46 hmem).2.2.2 rfl
      rw [hsplit, List.count_append, List.count_append, hnone]
      decide +kernel
  · have hhead : nonceClaimPrefix = 112 :: nonceClaimPrefix.tail := by decide +kernel
    have htemporary : temporaryPrefix = 46 :: temporaryPrefix.tail := by decide +kernel
    rw [isTemporary, hhead, htemporary, List.cons_append, List.isPrefixOf_cons_cons]
    rfl

/-- Both policies are sound. -/
theorem ImportStore.sound (kind : ImportStore) : kind.policy.Sound kind.config := by
  have hnames (name : Bytes) (limit : ℕ) (h : kind.policy.targetLimit name = some limit) :
      validObjectName name = true ∧ isTemporary name = false ∧ 0 < limit ∧
        limit ≤ kind.policy.maximum := by
    cases kind with
    | artifact =>
        simp only [ImportStore.policy, participantOriginatedArtifactRecoveryPolicy] at h ⊢
        split at h
        case isTrue hname =>
          obtain rfl := Option.some.inj h
          rcases hname with rfl | rfl <;> decide +kernel
        case isFalse =>
          split at h
          case isTrue hname =>
            obtain rfl := Option.some.inj h
            rcases hname with rfl | rfl | rfl | rfl <;> decide +kernel
          case isFalse => exact nomatch h
    | journal =>
        simp only [ImportStore.policy, participantOriginatedJournalRecoveryPolicy] at h ⊢
        split at h
        case isTrue hname =>
          obtain rfl := Option.some.inj h
          rcases hname with rfl | rfl | rfl | rfl | hname
          · decide +kernel
          · decide +kernel
          · decide +kernel
          · decide +kernel
          · obtain ⟨hvalid, hsettled⟩ := validObjectName_nonceClaim hname
            exact ⟨hvalid, hsettled, by decide, Nat.le_refl _⟩
        case isFalse => exact nomatch h
  constructor
  · cases kind <;> decide
  · cases kind <;> decide
  · exact fun name limit h => (hnames name limit h).1
  · exact fun name limit h => (hnames name limit h).2.1
  · exact fun name limit h => (hnames name limit h).2.2

/-! ## Runs -/

section

variable {kind : ImportStore} {sha256 : Bytes → Digest} {start d t : StoreDir}
  {created : List Creation}

/-- Creates of objects that the policy names, and openings, each of them cut off or not; with
the creates there were. -/
inductive ImportRun (kind : ImportStore) (sha256 : Bytes → Digest) (start : StoreDir) :
    List Creation → StoreDir → Prop
  | start (hstart : Tidy kind.config start) : ImportRun kind sha256 start [] start
  | create {created : List Creation} {d t : StoreDir} (hd : ImportRun kind sha256 start created d)
      (creation : Creation) (weather : Weather) {limit : ℕ}
      (hlimit : kind.policy.targetLimit creation.name = some limit)
      (hwithin : creation.WithinPolicy kind.config kind.policy sha256 d)
      (ht : (creation.run kind.config sha256 weather).Leaves d t) :
      ImportRun kind sha256 start (creation :: created) t
  | recover {created : List Creation} {d t : StoreDir} (hd : ImportRun kind sha256 start created d)
      (ht : (openObjectStoreWithParticipantRecovery kind.config kind.policy).Leaves d t) :
      ImportRun kind sha256 start created t

theorem ImportStore.quota_pos (kind : ImportStore) : 0 < kind.config.quota := by
  cases kind <;> decide

/-- What a create within the policy leaves. -/
theorem midway_of_run {creation : Creation} {weather : Weather} {limit : ℕ}
    (hd : Recoverable kind.config kind.policy d)
    (hlimit : kind.policy.targetLimit creation.name = some limit)
    (hwithin : creation.WithinPolicy kind.config kind.policy sha256 d)
    (ht : (creation.run kind.config sha256 weather).Leaves d t) :
    Recoverable kind.config kind.policy t ∧ ∀ other, isTemporary other = false →
      t.read other = d.read other ∨ other = creation.name ∧ d.read other = none ∧
        ∃ contents, t.read other = some contents ∧ creation.Complete sha256 contents := by
  by_cases hadmitted : creation.Admitted kind.config d
  · have htidy := hd.tidy_of_admitted hadmitted
    obtain ⟨nonce, -, hmidway⟩ := (creation.meets_run htidy).1 t ht
    exact ⟨hmidway.recoverable kind.sound htidy hadmitted hwithin hlimit, fun other hother =>
      hmidway.read htidy (isTemporary_temporaryObjectName nonce) hother⟩
  · exact ((Creation.meets_run_of_not_admitted hadmitted).1 t ht).elim

theorem ImportRun.recoverable (h : ImportRun kind sha256 start created d) :
    Recoverable kind.config kind.policy d := by
  induction h with
  | start hstart => exact .tidy hstart
  | create hd creation weather hlimit hwithin ht ih => exact (midway_of_run ih hlimit hwithin ht).1
  | recover hd ht ih => exact .tidy ((recovers kind.quota_pos kind.sound ih).1.1 _ ht).1

/-- An object is the one that was there at the start, or one that was created as a whole. -/
theorem ImportRun.read (h : ImportRun kind sha256 start created d) {name : Bytes}
    (hname : isTemporary name = false) :
    d.read name = start.read name ∨ start.read name = none ∧
      ∃ creation ∈ created, creation.name = name ∧
        ∃ contents, d.read name = some contents ∧ creation.Complete sha256 contents := by
  induction h with
  | start hstart => exact .inl rfl
  | @create created d t hd creation weather limit hlimit hwithin ht ih =>
      rcases (midway_of_run hd.recoverable hlimit hwithin ht).2 name hname with
        hsame | ⟨rfl, hnone, hnew⟩
      · rw [hsame]
        refine ih.imp id ?_
        rintro ⟨hstart, other, hother, hfound⟩
        exact ⟨hstart, other, List.mem_cons_of_mem _ hother, hfound⟩
      · rcases ih with hsame | ⟨-, other, -, -, contents, hread, -⟩
        · exact .inr ⟨hsame ▸ hnone, creation, List.mem_cons_self, rfl, hnew⟩
        · rw [hread] at hnone
          exact nomatch hnone
  | recover hd ht ih =>
      rw [((recovers kind.quota_pos kind.sound hd.recoverable).1.1 _ ht).2 name hname]
      exact ih

/-- In every run whose creates keep within the policy, opening succeeds and leaves no temporary
and every object as it is, which is the one that was there at the start, or one that was
created as a whole and passed its checks. -/
theorem import_store_recovers (h : ImportRun kind sha256 start created d) :
    Durable.Returns (fun _ t => (∀ name ∈ t.names, isTemporary name = false) ∧
        ∀ name, isTemporary name = false → t.read name = d.read name)
      (openObjectStoreWithParticipantRecovery kind.config kind.policy) d ∧
    (∀ t, (openObjectStoreWithParticipantRecovery kind.config kind.policy).Leaves d t →
      ∀ name, isTemporary name = false → t.read name = d.read name) ∧
    ∀ name limit, kind.policy.targetLimit name = some limit →
      d.read name = start.read name ∨ start.read name = none ∧
        ∃ creation ∈ created, creation.name = name ∧
          ∃ contents, d.read name = some contents ∧ creation.Complete sha256 contents := by
  obtain ⟨hmeets, hreturns⟩ := recovers kind.quota_pos kind.sound h.recoverable
  refine ⟨hreturns.mono ?_, fun t ht => (hmeets.1 t ht).2, ?_⟩
  · rintro _ t ⟨htidy, hread⟩
    refine ⟨fun name hname => ?_, hread⟩
    obtain ⟨entry, hentry, rfl⟩ := List.mem_map.mp hname
    exact htidy.settled entry hentry
  · exact fun name limit hlimit => h.read (kind.sound.settled name limit hlimit)

end

/-! ## Streams that are too long -/

section

variable {s : StoreConfig} {policy : RecoveryPolicy} {d t : StoreDir} {τ : Bytes}

/-- A stream that is admitted is on the disk up to one byte beyond the limit. -/
theorem leaves_streamed (sha256 : Bytes → Digest) (name : Bytes) (source : Source) (maximum : ℕ)
    (expected : Option FileRef) (nonce : Vector UInt8 16) (hd : Tidy s d)
    (hadmitted : (Creation.stream name source maximum expected).Admitted s d)
    (hsource : source.contents ≠ []) :
    ∃ t, ((Creation.stream name source maximum expected).run s sha256
        ⟨[nonce], none, fun _ => false⟩).Leaves d t ∧
      d.Holds [temporaryObjectName nonce]
        ⟨source.contents.take (min maximum (s.quota - usage d) + 1), 0o600⟩ t := by
  obtain ⟨⟨hvalid, hmaximum, hquota, hexpected⟩, used, hused, hcount, hfree, hroom⟩ := hadmitted
  change name ∉ d.names at hfree
  change used + 1 ≤ s.quota at hroom
  obtain rfl : usage d = used := by
    have hused' := hd.used
    rwa [hused, Except.ok.injEq, eq_comm] at hused'
  have hfresh := hd.not_mem_names (isTemporary_temporaryObjectName nonce)
  have hopened := Directory.Holds.createExclusive (temporaryObjectName nonce) 0o600 d
  have hcopied : source.contents.take (min maximum (s.quota - usage d) + 1) ≠ [] := by
    rw [ne_eq, List.take_eq_nil_iff]
    exact fun hnil => hnil.elim (Nat.succ_ne_zero _) hsource
  obtain ⟨t, hleft, hholds⟩ := Directory.leaves_appendAll (ε := StoreError) hopened
    (List.cons_ne_nil _ _) hcopied
  refine ⟨t, ?_, hholds⟩
  have hchecked : ¬ (validObjectName name = false ∨ maximum = 0 ∨ s.quota < maximum) := by
    rw [hvalid, not_or, not_or]
    exact ⟨Bool.noConfusion, hmaximum, not_lt.mpr hquota⟩
  have hexpected' : ¬ ∃ ref ∈ expected, ¬ (ref.validate name maximum).isOk = true := by
    rintro ⟨ref, href, hrefused⟩
    exact hrefused (hexpected ref href)
  refine leaves_bind_right (Durable.returns_throwIf.mpr ⟨hchecked, ?_⟩)
  refine leaves_bind_right (Durable.returns_throwIf.mpr ⟨hexpected', ?_⟩)
  have hreturns : Durable.Returns (fun used u => used = usage d ∧ u = d)
      (admitCreate s name 1 ⟨[nonce], none, fun _ => false⟩) d := by
    have hnone := Directory.find_eq_none_iff.mpr hfree
    simpa [admitCreate, hused, Except.mapError, hnone] using ⟨hroom, hcount⟩
  refine leaves_bind_right (hreturns.mono ?_)
  rintro _ u ⟨rfl, hu⟩
  rw [hu]
  have htemporary : Durable.Returns (fun temporary u =>
      temporary = ⟨temporaryObjectName nonce, d.next⟩ ∧
        u = d.createExclusive (temporaryObjectName nonce) 0o600) (openTemporary [nonce]) d := by
    have hnone := Directory.find_eq_none_iff.mpr hfresh
    simp [openTemporary, hnone]
  refine leaves_bind_right (htemporary.mono ?_)
  rintro _ u ⟨rfl, hu⟩
  rw [hu]
  exact Durable.leaves_onError (Durable.leaves_onError (leaves_bind_left
    (leaves_bind_left (leaves_bind_left (by
      rwa [Option.getD_none, List.take_length])))))

/-- A temporary that is too large is not removed, and the store does not open. -/
theorem not_recovered (hfind : ∃ inode, t.find τ = some inode ∧ policy.maximum < sizeOf t inode)
    (hτ : t.names.filter isTemporary = [τ]) :
    ¬ Durable.Returns (fun _ _ => True) (openObjectStoreWithParticipantRecovery s policy) t := by
  obtain ⟨inode, hfind, hlarge⟩ := hfind
  have hcheck : ¬ checkTemporary s policy t.names τ t = .ok () := by
    simp only [checkTemporary, hfind, bind_ok_iff, revertIf_ok_iff]
    rintro ⟨_, hsize, -⟩
    exact hsize (.inl hlarge)
  simp [openObjectStoreWithParticipantRecovery, recoverParticipantOriginatedTemporaryObjects, hτ,
    recoverTemporaries, hcheck]

end

/-! A manifest that is cut off, and a ciphertext one byte too long. -/

section

def sampleManifestCreation : Creation :=
  .whole (stringBytes "submission-a.json") [1]

def oversizedCiphertext : Creation :=
  .stream (stringBytes "submission-b.bin")
    ⟨List.replicate (participantOriginatedMaximumCiphertextBytes + 1) 0, false⟩
    participantOriginatedMaximumCiphertextBytes
    (some ⟨stringBytes "submission-b.bin", 1, participantOriginatedMaximumCiphertextBytes⟩)

theorem tidy_empty (s : StoreConfig) : Tidy s {} where
  wellFormed := ⟨List.nodup_nil, (fun _ hmem => nomatch hmem)⟩
  single := List.nodup_nil
  valid _ hmem := nomatch hmem
  settled _ hmem := nomatch hmem
  count := Nat.zero_le _
  room := Nat.zero_le _

/-- A manifest is cut off with its temporary on the disk, and recovery removes it. -/
theorem import_store_recovers_sample :
    ∃ t, (sampleManifestCreation.run ImportStore.artifact.config (fun _ => 0)
        ⟨[sampleNonce], none, fun _ => false⟩).Leaves {} t ∧
      ¬ (∀ name ∈ t.names, isTemporary name = false) ∧
      Durable.Returns (fun _ u => (∀ name ∈ u.names, isTemporary name = false) ∧
          ∀ name, isTemporary name = false → u.read name = t.read name)
        (openObjectStoreWithParticipantRecovery ImportStore.artifact.config
          ImportStore.artifact.policy) t := by
  have hany : ((sampleManifestCreation.run ImportStore.artifact.config (fun _ => 0)
      ⟨[sampleNonce], none, fun _ => false⟩) {}).disks.any
      (fun t => ¬ ∀ name ∈ t.names, isTemporary name = false) = true := by decide +kernel
  obtain ⟨t, hleft, htemporary⟩ := List.any_eq_true.mp hany
  have hlimit : ImportStore.artifact.policy.targetLimit sampleManifestCreation.name =
      some maxManifestBytes := by decide +kernel
  refine ⟨t, hleft, of_decide_eq_true htemporary, (import_store_recovers
    (.create (.start (tidy_empty _)) _ _ hlimit ⟨fun _ => by decide, ?_⟩ hleft)).1⟩
  rintro contents limit rfl - hother
  obtain rfl := Option.some.inj (hlimit.symm.trans hother)
  decide

/-- A ciphertext is one byte longer than it may be, and cut off before that is noticed: the store
of the import does not open any more. -/
theorem oversized_temporary_not_recovered :
    ∃ t, (oversizedCiphertext.run ImportStore.artifact.config (fun _ => 0)
        ⟨[sampleNonce], none, fun _ => false⟩).Leaves {} t ∧
      ¬ Durable.Returns (fun _ _ => True) (openObjectStoreWithParticipantRecovery
        ImportStore.artifact.config ImportStore.artifact.policy) t := by
  have hlength : (List.replicate (participantOriginatedMaximumCiphertextBytes + 1)
      (0 : UInt8)).length = participantOriginatedMaximumCiphertextBytes + 1 :=
    List.length_replicate
  have htidy : Tidy ImportStore.artifact.config {} := tidy_empty _
  obtain ⟨t, hleft, hholds⟩ := leaves_streamed (fun _ => 0) (stringBytes "submission-b.bin")
    ⟨List.replicate (participantOriginatedMaximumCiphertextBytes + 1) 0, false⟩
    participantOriginatedMaximumCiphertextBytes
    (some ⟨stringBytes "submission-b.bin", 1, participantOriginatedMaximumCiphertextBytes⟩)
    sampleNonce htidy ⟨⟨by decide +kernel, by decide, by decide, by decide +kernel⟩,
      0, by decide, by decide, (fun hmem => nomatch hmem), by decide⟩
    (fun hnil => Nat.succ_ne_zero _ (hlength.symm.trans (congrArg List.length hnil)))
  refine ⟨t, hleft, not_recovered ⟨_, hholds.find_of_mem List.mem_cons_self, ?_⟩ ?_⟩
  · rw [sizeOf, hholds.inode (List.cons_ne_nil _ _), List.length_take, hlength]
    decide
  · rw [hholds.names]
    exact List.filter_cons_of_pos (isTemporary_temporaryObjectName sampleNonce)

end

end Mordant.GovernedFhe
