/-
# The history of a key

Three operators sign the end of a key, each at most one, and append records of it to their
stores.  Two signatures of three make a record, so that all records state the same end.

A record has a place in a store by what it states and by who signed it, and replicas are
compared by both: a store is read again, and replicas agree, exactly if the end of the key was
presented with the same signatures every time.
-/

import Mathlib.Tactic.FinCases
import Mordant.Foundation.Quorum
import Mordant.OneShotCeremony.Storage

namespace Mordant.OneShotCeremony

open Evm Foundation
open Coalition (Digest Word64 uint64Bytes)
open ThresholdNet (uint32Bytes Signature reads_signature)

/-! ## What is hashed -/

section

variable {s s' : KeyStatusStatement} {record record' : StatusRecord}

theorem KeyStatus.code_injective : Function.Injective KeyStatus.code := by
  intro status other h
  cases status <;> cases other <;> first | rfl | exact absurd h (by decide)

theorem KeyStatusStatement.eq_of_encoding (hschema : s.schemaVersion = s'.schemaVersion)
    (h : s.encoding = s'.encoding) : s = s' := by
  rw [encoding, encoding, hschema] at h
  have hfields := List.append_cancel_left (List.append_cancel_left h)
  obtain ⟨hkey, h⟩ := delimited_wordBytes (Set.mem_univ _) (Set.mem_univ _) hfields
  obtain ⟨hsequence, h⟩ := delimited_uint64Bytes (Set.mem_univ _) (Set.mem_univ _) h
  obtain ⟨hstatus, h⟩ := List.cons.inj h
  obtain ⟨heffective, h⟩ := delimited_uint64Bytes (Set.mem_univ _) (Set.mem_univ _) h
  obtain ⟨hreason, hprevious⟩ := delimited_wordBytes (Set.mem_univ _) (Set.mem_univ _) h
  cases s
  cases s'
  simp only [KeyStatusStatement.mk.injEq]
  exact ⟨hschema, hkey, hsequence, KeyStatus.code_injective hstatus, heffective, hreason,
    wordBytes_injective hprevious⟩

theorem KeyStatusStatement.eq_of_hashed (hs : ¬ s.malformed) (hs' : ¬ s'.malformed)
    (h : s.hashed = s'.hashed) : s = s' := by
  refine eq_of_encoding ?_ (fieldBytes_injective (List.append_cancel_left h))
  have hschema (s : KeyStatusStatement) (hs : ¬ s.malformed) : s.schemaVersion = statusSchema :=
    Decidable.not_not.mp fun hne => hs (.inl hne)
  rw [hschema s hs, hschema s' hs']

theorem StatusRecord.delimited_signatureBytes : Delimited Set.univ signatureBytes := by
  intro signature _ other _ rest rest' h
  rw [signatureBytes, signatureBytes, List.append_assoc, List.append_assoc] at h
  obtain ⟨hpoint, h⟩ := delimited_uint64Bytes (Set.mem_univ _) (Set.mem_univ _) h
  obtain ⟨hbytes, hrest⟩ :=
    List.append_inj h (signature.signature.2.trans other.signature.2.symm)
  cases signature
  cases other
  simp only [StatusSignature.mk.injEq]
  exact ⟨⟨hpoint, Subtype.ext hbytes⟩, hrest⟩

/-- Records of one statement hash to the same only with the same signatures. -/
theorem StatusRecord.signatures_eq_of_hashed (hstatement : record.statement = record'.statement)
    (hfew : record.signatures.length ≤ partyCount)
    (hfew' : record'.signatures.length ≤ partyCount) (h : record.hashed = record'.hashed) :
    record.signatures = record'.signatures := by
  have h := fieldBytes_injective (List.append_cancel_left h)
  rw [hstatement] at h
  have h := List.append_cancel_left (List.append_cancel_left h)
  obtain ⟨hcount, hsignatures⟩ := delimited_uint32Bytes (Set.mem_univ _) (Set.mem_univ _) h
  refine delimited_signatureBytes.flatMap_inj (fun _ _ => Set.mem_univ _)
    (fun _ _ => Set.mem_univ _) ?_ hsignatures
  have hcount := congrArg BitVec.toNat hcount
  rw [BitVec.toNat_ofNat, BitVec.toNat_ofNat] at hcount
  rw [partyCount] at hfew hfew'
  omega

end

/-! ## Three operators and their stores -/

/-- A roster with its keys, and the status that a key had from the start. -/
structure StatusOffice (library : Library) where
  context : Context
  valid : context.validate = .ok ()
  initial : KeyStatusStatement
  keys : Fin 3 → library.SigningKey
  holds : ∀ (i : Fin 3) operator, context.operator (canonicalShamirPoint i) = some operator →
    operator.signingPublicKey = library.publicKey (keys i)

/-- The store of an operator, what it has signed, and what was appended, newest first. -/
structure StatusOperator where
  store : WitnessStore
  signed : List KeyStatusStatement := []
  appended : List StatusRecord := []

abbrev StatusWorld : Type := Fin 3 → StatusOperator

section

variable {library : Library} (office : StatusOffice library)

/-- Signatures that verify under the keys of the operators are theirs. -/
def GenuineStatus (w : StatusWorld) (record : StatusRecord) : Prop :=
  ∀ signature ∈ record.signatures, ∀ i,
    library.verify (library.publicKey (office.keys i)) (wordBytes (record.statement.digest library))
      signature.signature = true →
    ∃ s ∈ (w i).signed, s.digest library = record.statement.digest library

/-- An operator signs, under whatever context, or fails to; or a record is appended. -/
inductive StatusStep : StatusWorld → StatusWorld → Prop
  | signed (w : StatusWorld) (i : Fin 3) (c : Context) (previous s : KeyStatusStatement)
      (point : Word64) (fates : List Fate) (signature : StatusSignature)
      (hsigned : (signKeyStatus library c previous s point (office.keys i)
        ⟨(w i).store, fates⟩).result = .ok signature) :
      StatusStep w (Function.update w i ⟨((signKeyStatus library c previous s point
        (office.keys i)).last ⟨(w i).store, fates⟩).store, s :: (w i).signed, (w i).appended⟩)
  | failed (w : StatusWorld) (i : Fin 3) (c : Context) (previous s : KeyStatusStatement)
      (point : Word64) (fates : List Fate) (error : CeremonyError)
      (hfailed : (signKeyStatus library c previous s point (office.keys i)
        ⟨(w i).store, fates⟩).result = .error error) :
      StatusStep w (Function.update w i ⟨((signKeyStatus library c previous s point
        (office.keys i)).last ⟨(w i).store, fates⟩).store, (w i).signed, (w i).appended⟩)
  | appended (w : StatusWorld) (i : Fin 3) (record : StatusRecord) (fates : List Fate)
      (hgenuine : GenuineStatus office w record)
      (happended : (appendStatus library office.context office.initial record
        ⟨(w i).store, fates⟩).result = .ok ()) :
      StatusStep w (Function.update w i ⟨((appendStatus library office.context office.initial
        record).last ⟨(w i).store, fates⟩).store, (w i).signed, record :: (w i).appended⟩)

/-- A store in which the records of the ceremony are read, and nothing ended the key. -/
structure StatusReady (store : WitnessStore) : Prop where
  records : ∃ records, store.records (office.context.ceremonyID library) = .ok records
  status : store.statusFiles office.initial.keyID = []

/-- What becomes of three such stores. -/
inductive StatusReachable : StatusWorld → Prop
  | start (stores : Fin 3 → WitnessStore) (h : ∀ i, StatusReady office (stores i)) :
      StatusReachable fun i => { store := stores i }
  | step {w w' : StatusWorld} (h : StatusReachable w) (hstep : StatusStep office w w') :
      StatusReachable w'

/-- What was hashed of statements and records. -/
def StatusWorld.hashed (w : StatusWorld) : Set Bytes :=
  {text | ∃ i, (∃ s ∈ (w i).signed, text = s.hashed) ∨
    ∃ record ∈ (w i).appended, text = record.statement.hashed ∨ text = record.hashed}

end

/-! ## One write -/

section

variable {library : Library} {c : Context} {previous s : KeyStatusStatement} {point : Word64}
  {key : library.SigningKey} {d : Disk} {signature : StatusSignature} {record : StatusRecord}

/-- An operator that signs has written down what. -/
theorem signKeyStatus_ok (h : (signKeyStatus library c previous s point key d).result =
    .ok signature) : s.digest library ≠ 0 ∧
      d.store.find (.statusDecision s.keyID s.sequence) = none ∧
      ((signKeyStatus library c previous s point key).last d).store = d.store ++
        [(.statusDecision s.keyID s.sequence,
          .decision (s.digest library) signature.signature)] := by
  have htrail : Durable.Trail (fun _ _ => True) (fun result t => ∀ signature,
      result = .ok signature → s.digest library ≠ 0 ∧
        d.store.find (.statusDecision s.keyID s.sequence) = none ∧ t.store = d.store ++
          [(.statusDecision s.keyID s.sequence,
            .decision (s.digest library) signature.signature)])
      (signKeyStatus library c previous s point key) d := by
    simp only [signKeyStatus, Durable.trail_bind, Durable.trail_lift]
    cases require (ε := CeremonyError) .signature (c.operator point) with
    | error error => exact fun _ hok => nomatch hok
    | ok identity =>
        simp only [Durable.trail_throwIf, trail_writeOnce, Durable.trail_pure, Except.ok.injEq,
          forall_eq', reduceCtorEq, false_implies, implies_true, true_and, and_true, not_or]
        exact fun hchecked hwrites => ⟨hchecked.1, hwrites.1, Disk.write_store_of_writes hwrites⟩
  exact htrail.2 signature h

/-- Otherwise it may have written it down. -/
theorem signKeyStatus_store (c : Context) (previous s : KeyStatusStatement) (point : Word64)
    (key : library.SigningKey) (d : Disk) :
    ((signKeyStatus library c previous s point key).last d).store = d.store ∨
      ∃ content, d.store.find (.statusDecision s.keyID s.sequence) = none ∧
        ((signKeyStatus library c previous s point key).last d).store = d.store ++
          [(.statusDecision s.keyID s.sequence, content)] := by
  have htrail : Durable.Trail (fun _ _ => True) (fun _ t => t.store = d.store ∨
      ∃ content, d.store.find (.statusDecision s.keyID s.sequence) = none ∧
        t.store = d.store ++ [(.statusDecision s.keyID s.sequence, content)])
      (signKeyStatus library c previous s point key) d := by
    simp only [signKeyStatus, Durable.trail_bind, Durable.trail_lift]
    cases require (ε := CeremonyError) .signature (c.operator point) with
    | error error => exact .inl trivial
    | ok identity =>
        simp only [Durable.trail_throwIf, trail_writeOnce, Durable.trail_pure, true_and]
        refine ⟨fun _ => .inl trivial, fun _ => ⟨fun _ => ?_, fun _ => ?_⟩⟩
        all_goals exact (Disk.write_store _ _ _).imp id fun h => ⟨_, h⟩
  exact htrail.2

/-- A record that is appended has been verified, and has a place of its own. -/
theorem appendStatus_ok (h : (appendStatus library c previous record d).result = .ok ()) :
    Attested library c previous record ∧
      d.store.find (.status record.statement.keyID record.statement.sequence
        (record.digest library)) = none ∧
      ((appendStatus library c previous record).last d).store = d.store ++
        [(.status record.statement.keyID record.statement.sequence (record.digest library),
          .status record)] := by
  have htrail : Durable.Trail (fun _ _ => True) (fun result t => result = .ok () →
      Attested library c previous record ∧
      d.store.find (.status record.statement.keyID record.statement.sequence
        (record.digest library)) = none ∧ t.store = d.store ++
        [(.status record.statement.keyID record.statement.sequence (record.digest library),
          .status record)]) (appendStatus library c previous record) d := by
    simp only [appendStatus, Durable.trail_bind, Durable.trail_lift]
    cases hverify : verifyStatusRecord library c previous record with
    | error error =>
        intro hok
        cases hok
    | ok _ =>
        simp only [trail_writeOnce, forall_const, reduceCtorEq, false_implies, implies_true,
          true_and, and_true]
        exact fun hwrites => ⟨verifyStatusRecord_iff.mp hverify, hwrites.1,
          Disk.write_store_of_writes hwrites⟩
  exact htrail.2 h

end

/-! ## What is read -/

section

variable {library : Library} {c : Context} {store : WitnessStore} {name : FileName}
  {content : FileContent} {ceremony key : Digest}

/-- Files of other kinds are not records. -/
theorem WitnessStore.records_append
    (hname : ∀ ceremony sequence, name ≠ .record ceremony sequence) :
    WitnessStore.records (store ++ [(name, content)]) ceremony = store.records ceremony := by
  have hfiles : WitnessStore.recordFiles (store ++ [(name, content)]) ceremony =
      store.recordFiles ceremony := by
    rw [recordFiles, List.filterMap_append, recordFiles]
    cases name with
    | record ceremony sequence => exact (hname ceremony sequence rfl).elim
    | _ => exact List.append_nil _
  rw [records, hfiles, records]

theorem WitnessStore.statusFiles_append (hname : ∀ key sequence record,
    name ≠ .status key sequence record) :
    WitnessStore.statusFiles (store ++ [(name, content)]) key = store.statusFiles key := by
  rw [statusFiles, List.filterMap_append, statusFiles]
  cases name with
  | status key sequence record => exact (hname key sequence record rfl).elim
  | _ => exact List.append_nil _

theorem WitnessStore.statusFiles_append_status (sequence : Word64) (record : Digest) :
    WitnessStore.statusFiles (store ++ [(.status key sequence record, content)]) key =
      store.statusFiles key ++ [((sequence, record), content)] := by
  rw [statusFiles, List.filterMap_append, statusFiles]
  exact congrArg (_ ++ ·) (List.filterMap_cons_some (if_pos rfl))

theorem WitnessStore.find_ne_none_of_mem_statusFiles {sequence : Word64} {record : Digest}
    (h : ((sequence, record), content) ∈ store.statusFiles key) :
    store.find (.status key sequence record) ≠ none := by
  obtain ⟨⟨name, content'⟩, hmem, hfile⟩ := List.mem_filterMap.mp h
  have hname : name = .status key sequence record := by
    cases name with
    | status key' sequence' record' =>
        dsimp only at hfile
        split at hfile
        · next hkey =>
            simp only [Option.some.injEq, Prod.mk.injEq] at hfile
            obtain ⟨⟨rfl, rfl⟩, -⟩ := hfile
            rw [hkey]
        · exact nomatch hfile
    | _ => exact nomatch hfile
  subst hname
  rw [find, ne_eq, List.lookup_eq_none_iff]
  intro hnone
  simpa using hnone _ hmem

end

/-! ## What holds whenever operators only sign in this way -/

section

variable {library : Library} {office : StatusOffice library} {w w' : StatusWorld}
  {record record' : StatusRecord} {s s' : KeyStatusStatement} {operator : StatusOperator}
  {i : Fin 3} {initial : KeyStatusStatement}

/-- Every signature was written down first, and the files are the records that were appended. -/
structure StatusOperator.Sound (office : StatusOffice library) (operator : StatusOperator) :
    Prop where
  records : ∃ records, operator.store.records (office.context.ceremonyID library) = .ok records
  files : operator.store.statusFiles office.initial.keyID = operator.appended.reverse.map
    fun record => ((record.statement.sequence, record.digest library), .status record)
  decided : ∀ s ∈ operator.signed, s.digest library ≠ 0 ∧ ∃ signature,
    operator.store.find (.statusDecision s.keyID s.sequence) =
      some (.decision (s.digest library) signature)
  attested : ∀ record ∈ operator.appended, Attested library office.context office.initial record
  distinct : operator.appended.Pairwise fun record other =>
    record.digest library ≠ other.digest library

theorem KeyStatusStatement.eq_of_digest {texts : Set Bytes} (hinj : texts.InjOn library.sha256)
    (hs : s.hashed ∈ texts) (hs' : s'.hashed ∈ texts) (hne : s'.digest library ≠ 0)
    (h : s.digest library = s'.digest library) : s = s' := by
  have hwell (s : KeyStatusStatement) (hne : s.digest library ≠ 0) : ¬ s.malformed :=
    fun hbad => hne (if_pos hbad)
  have hs₀ := hwell s (h ▸ hne)
  have hs₀' := hwell s' hne
  rw [digest, digest, if_neg hs₀, if_neg hs₀'] at h
  exact eq_of_hashed hs₀ hs₀' (hinj hs hs' h)

/-- Another decision changes nothing about the records. -/
theorem StatusOperator.Sound.decide (h : operator.Sound office) {content : FileContent}
    {key : Digest} {sequence : Word64} :
    StatusOperator.Sound office { operator with
      store := operator.store ++ [(.statusDecision key sequence, content)] } where
  records := by
    rw [WitnessStore.records_append]
    · exact h.records
    · nofun
  files := (WitnessStore.statusFiles_append (by nofun)).trans h.files
  decided s hs := by
    obtain ⟨hne, signature, hfind⟩ := h.decided s hs
    exact ⟨hne, signature, WitnessStore.find_append_of_some hfind _ _⟩
  attested := h.attested
  distinct := h.distinct

theorem StatusOperator.Sound.sign (h : operator.Sound office) {signature : Signature}
    (hne : s.digest library ≠ 0)
    (hfree : operator.store.find (.statusDecision s.keyID s.sequence) = none) :
    StatusOperator.Sound office { operator with
      store := operator.store ++
        [(.statusDecision s.keyID s.sequence, .decision (s.digest library) signature)]
      signed := s :: operator.signed } where
  records := h.decide.records
  files := h.decide.files
  decided := List.forall_mem_cons.mpr ⟨⟨hne, signature, by
    rw [WitnessStore.find_append, hfree, Option.none_or, if_pos rfl]⟩, h.decide.decided⟩
  attested := h.attested
  distinct := h.distinct

/-- A record whose name is free is unlike those that are there. -/
theorem StatusOperator.Sound.append (h : operator.Sound office)
    (hattested : Attested library office.context office.initial record)
    (hfree : operator.store.find (.status record.statement.keyID record.statement.sequence
      (record.digest library)) = none) :
    StatusOperator.Sound office { operator with
      store := operator.store ++ [(.status record.statement.keyID record.statement.sequence
        (record.digest library), .status record)]
      appended := record :: operator.appended } where
  records := by
    rw [WitnessStore.records_append]
    · exact h.records
    · nofun
  files := by
    have hkey := (validateStatusTransition_iff.mp hattested.transition).2.2.1
    rw [hkey, WitnessStore.statusFiles_append_status, h.files, List.reverse_cons,
      List.map_append, List.map_singleton]
  decided s hs := by
    obtain ⟨hne, signature, hfind⟩ := h.decided s hs
    exact ⟨hne, signature, WitnessStore.find_append_of_some hfind _ _⟩
  attested := List.forall_mem_cons.mpr ⟨hattested, h.attested⟩
  distinct := by
    refine List.pairwise_cons.mpr ⟨fun other hother hsame => ?_, h.distinct⟩
    have hfile : ((other.statement.sequence, other.digest library), FileContent.status other) ∈
        operator.store.statusFiles office.initial.keyID := by
      rw [h.files]
      exact List.mem_map_of_mem (List.mem_reverse.mpr hother)
    obtain ⟨-, -, hkey, hsequence, -⟩ := validateStatusTransition_iff.mp hattested.transition
    obtain ⟨-, -, -, hsequence', -⟩ :=
      validateStatusTransition_iff.mp (h.attested other hother).transition
    rw [hkey, hsequence, hsame, ← hsequence'] at hfree
    exact WitnessStore.find_ne_none_of_mem_statusFiles hfile hfree

theorem GenuineStatus.mono (h : GenuineStatus office w record)
    (hsub : ∀ i, (w i).signed ⊆ (w' i).signed) : GenuineStatus office w' record := by
  intro signature hmem i hverify
  obtain ⟨s, hs, hdigest⟩ := h signature hmem i hverify
  exact ⟨s, hsub i hs, hdigest⟩

/-- Every operator is sound, and every record was genuine. -/
structure StatusSound (office : StatusOffice library) (w : StatusWorld) : Prop where
  operator : ∀ i, (w i).Sound office
  genuine : ∀ i, ∀ record ∈ (w i).appended, GenuineStatus office w record

/-- A step for one operator that is sound, after which its signatures are still there. -/
theorem StatusSound.update (h : StatusSound office w) (hoperator : operator.Sound office)
    (hsub : (w i).signed ⊆ operator.signed)
    (hgenuine : ∀ record ∈ operator.appended, GenuineStatus office w record) :
    StatusSound office (Function.update w i operator) := by
  have hkept (j : Fin 3) : (w j).signed ⊆ (Function.update w i operator j).signed := by
    by_cases hj : j = i
    · subst hj
      rwa [Function.update_self]
    · rw [Function.update_of_ne hj]
      exact List.Subset.refl _
  constructor
  · intro j
    by_cases hj : j = i
    · subst hj
      rwa [Function.update_self]
    · rw [Function.update_of_ne hj]
      exact h.operator j
  · intro j record hrecord
    apply GenuineStatus.mono _ hkept
    by_cases hj : j = i
    · subst hj
      rw [Function.update_self] at hrecord
      exact hgenuine record hrecord
    · rw [Function.update_of_ne hj] at hrecord
      exact h.genuine j record hrecord

theorem StatusSound.step (h : StatusSound office w) (hstep : StatusStep office w w') :
    StatusSound office w' := by
  cases hstep with
  | signed i c previous s point fates signature hsigned =>
      obtain ⟨hne, hfree, hstore⟩ := signKeyStatus_ok hsigned
      rw [hstore]
      exact h.update ((h.operator i).sign hne hfree) (List.subset_cons_self _ _) (h.genuine i)
  | failed i c previous s point fates error hfailed =>
      refine h.update ?_ (List.Subset.refl _) (h.genuine i)
      rcases signKeyStatus_store c previous s point (office.keys i) ⟨(w i).store, fates⟩ with
        hsame | ⟨content, -, hstore⟩
      · rw [hsame]
        exact h.operator i
      · rw [hstore]
        exact (h.operator i).decide
  | appended i record fates hgenuine happended =>
      obtain ⟨hattested, hfree, hstore⟩ := appendStatus_ok happended
      rw [hstore]
      exact h.update ((h.operator i).append hattested hfree) (List.Subset.refl _)
        (List.forall_mem_cons.mpr ⟨hgenuine, h.genuine i⟩)

theorem StatusReachable.sound (h : StatusReachable office w) : StatusSound office w := by
  induction h with
  | start stores hready =>
      refine ⟨fun i => ?_, fun _ _ hmem => nomatch hmem⟩
      exact ⟨(hready i).records, (hready i).status, fun _ hmem => (nomatch hmem),
        fun _ hmem => (nomatch hmem), List.Pairwise.nil⟩
  | step _ hstep ih => exact ih.step hstep

/-! ## One end of a key -/

/-- Somebody signed both of two records that were appended. -/
theorem StatusSound.exists_signer (h : StatusSound office w) {j : Fin 3}
    (hrecord : record ∈ (w i).appended) (hrecord' : record' ∈ (w j).appended) :
    ∃ k, (∃ s ∈ (w k).signed, s.digest library = record.statement.digest library) ∧
      ∃ s ∈ (w k).signed, s.digest library = record'.statement.digest library := by
  have hattested := (h.operator i).attested record hrecord
  have hattested' := (h.operator j).attested record' hrecord'
  have hnodup {record : StatusRecord}
      (hattested : Attested library office.context office.initial record) :
      (record.signatures.map StatusSignature.point).Nodup := by
    apply (List.isChain_iff_pairwise.mp hattested.ascending).imp
    intro point other hlt heq
    subst heq
    exact BitVec.lt_irrefl _ hlt
  have hnamed {record : StatusRecord}
      (hattested : Attested library office.context office.initial record) :
      ∀ point ∈ record.signatures.map StatusSignature.point,
        ∃ k : Fin 3, canonicalShamirPoint k = point := by
    intro point hpoint
    obtain ⟨signature, hsignature, rfl⟩ := List.mem_map.mp hpoint
    obtain ⟨operator, hfind, -⟩ := hattested.valid signature hsignature
    exact Context.index_of_operator office.valid hfind
  have hmany : 3 < (record.signatures.map StatusSignature.point).length +
      (record'.signatures.map StatusSignature.point).length := by
    have henough := hattested.enough
    have henough' := hattested'.enough
    rw [threshold] at henough henough'
    rw [List.length_map, List.length_map]
    omega
  obtain ⟨k, hk, hk'⟩ := exists_common_signer (hnodup hattested) (hnodup hattested')
    (hnamed hattested) (hnamed hattested') hmany
  have hsigned {record : StatusRecord}
      (hattested : Attested library office.context office.initial record)
      (hgenuine : GenuineStatus office w record)
      (hk : canonicalShamirPoint k ∈ record.signatures.map StatusSignature.point) :
      ∃ s ∈ (w k).signed, s.digest library = record.statement.digest library := by
    obtain ⟨signature, hsignature, hpoint⟩ := List.mem_map.mp hk
    obtain ⟨operator, hfind, hverify⟩ := hattested.valid signature hsignature
    rw [hpoint] at hfind
    rw [office.holds k operator hfind] at hverify
    exact hgenuine signature hsignature k hverify
  exact ⟨k, hsigned hattested (h.genuine i record hrecord) hk,
    hsigned hattested' (h.genuine j record' hrecord') hk'⟩

/-- All records state the same end of the key. -/
theorem StatusSound.statement_eq (h : StatusSound office w)
    (hinj : (StatusWorld.hashed w).InjOn library.sha256) {j : Fin 3}
    (hrecord : record ∈ (w i).appended) (hrecord' : record' ∈ (w j).appended) :
    record.statement = record'.statement := by
  obtain ⟨k, ⟨s, hs, hdigest⟩, s', hs', hdigest'⟩ := h.exists_signer hrecord hrecord'
  have htransition := validateStatusTransition_iff.mp
    ((h.operator i).attested record hrecord).transition
  have htransition' := validateStatusTransition_iff.mp
    ((h.operator j).attested record' hrecord').transition
  have hsame : s = record.statement := KeyStatusStatement.eq_of_digest hinj
    ⟨k, .inl ⟨s, hs, rfl⟩⟩ ⟨i, .inr ⟨record, hrecord, .inl rfl⟩⟩ htransition.2.1 hdigest
  have hsame' : s' = record'.statement := KeyStatusStatement.eq_of_digest hinj
    ⟨k, .inl ⟨s', hs', rfl⟩⟩ ⟨j, .inr ⟨record', hrecord', .inl rfl⟩⟩ htransition'.2.1 hdigest'
  subst hsame
  subst hsame'
  -- one operator has signed both, in one place
  obtain ⟨hne, signature, hfind⟩ := (h.operator k).decided _ hs
  obtain ⟨-, signature', hfind'⟩ := (h.operator k).decided _ hs'
  rw [htransition.2.2.1, htransition.2.2.2.1] at hfind
  rw [htransition'.2.2.1, htransition'.2.2.2.1, hfind] at hfind'
  simp only [Option.some.injEq, FileContent.decision.injEq] at hfind'
  exact KeyStatusStatement.eq_of_digest hinj ⟨k, .inl ⟨_, hs, rfl⟩⟩ ⟨k, .inl ⟨_, hs', rfl⟩⟩
    (hfind'.1 ▸ hne) hfind'.1

/-- Records with the same digest have the same signatures. -/
theorem StatusSound.signatures_eq (h : StatusSound office w)
    (hinj : (StatusWorld.hashed w).InjOn library.sha256) {j : Fin 3}
    (hrecord : record ∈ (w i).appended) (hrecord' : record' ∈ (w j).appended)
    (hdigest : record.digest library = record'.digest library) :
    record.signatures = record'.signatures := by
  have hattested := (h.operator i).attested record hrecord
  have hattested' := (h.operator j).attested record' hrecord'
  have hwell {record : StatusRecord}
      (hattested : Attested library office.context office.initial record) :
      ¬ (record.statement.malformed ∨ record.signatures.length < threshold ∨
        partyCount < record.signatures.length) := by
    rintro (hbad | hfew | hmany)
    · exact (validateStatusTransition_iff.mp hattested.transition).2.1 (if_pos hbad)
    · exact absurd hattested.enough (not_le.mpr hfew)
    · exact absurd hattested.atMost (not_le.mpr hmany)
  rw [StatusRecord.digest, StatusRecord.digest, if_neg (hwell hattested),
    if_neg (hwell hattested')] at hdigest
  exact StatusRecord.signatures_eq_of_hashed (h.statement_eq hinj hrecord hrecord')
    hattested.atMost hattested'.atMost (hinj ⟨i, .inr ⟨record, hrecord, .inr rfl⟩⟩
      ⟨j, .inr ⟨record', hrecord', .inr rfl⟩⟩ hdigest)

/-! ## Reading a key to its end -/

/-- A store is read as one record that ends the key. -/
def StatusReads (office : StatusOffice library) (operator : StatusOperator) : Prop :=
  ∃ record, record.statement.status ≠ .active ∧
    operator.store.statusRecords library office.context office.initial = .ok [record]

/-- Whatever record each replica holds, they agree. -/
def StatusAgreed (office : StatusOffice library) (w : StatusWorld) : Prop :=
  ∀ record : Fin 3 → StatusRecord, (∀ i, record i ∈ (w i).appended) →
    verifyStatusReplicaAgreement library office.context office.initial
      [[record 0], [record 1], [record 2]] = .ok ()

/-- The end of the key was presented with the same signatures in a store. -/
def StatusOperator.OnePresentation (operator : StatusOperator) : Prop :=
  ∀ record ∈ operator.appended, ∀ other ∈ operator.appended, record.signatures = other.signatures

/-- And in three stores. -/
def OnePresentation (w : StatusWorld) : Prop :=
  ∀ record : Fin 3 → StatusRecord, (∀ i, record i ∈ (w i).appended) →
    (record 0).signatures = (record 1).signatures ∧ (record 0).signatures = (record 2).signatures

theorem WitnessStore.statusRecords_of_one {store : WitnessStore} {c : Context}
    (hkey : initial.keyID ≠ 0)
    (hrecords : ∃ records, store.records (c.ceremonyID library) = .ok records)
    (hfiles : store.statusFiles initial.keyID =
      [((record.statement.sequence, record.digest library), .status record)])
    (hattested : Attested library c initial record) :
    store.statusRecords library c initial = .ok [record] := by
  obtain ⟨records, hrecords⟩ := hrecords
  have hverify := verifyStatusRecord_iff.mpr hattested
  rw [statusRecords, hrecords, hfiles, List.mergeSort_singleton]
  simp only [bind_ok_iff, exists_unit, revertIf_ok_iff, mapError_ok_iff, statusChain,
    pure_ok_iff, hverify, ne_eq, not_true_eq_false, not_false_eq_true, Except.ok.injEq,
    exists_eq_left', and_true]
  exact ⟨hkey, records, rfl⟩

/-- The head of a chain is a record that was verified after the one before it. -/
theorem WitnessStore.statusChain_cons_ok {c : Context} {previous : KeyStatusStatement}
    {file : StatusName × FileContent} {rest : List (StatusName × FileContent)}
    {records : List StatusRecord}
    (h : statusChain library c previous (file :: rest) = .ok records) :
    ∃ record tail, verifyStatusRecord library c previous record = .ok () ∧
      statusChain library c record.statement rest = .ok tail := by
  obtain ⟨name, content⟩ := file
  cases content with
  | status record =>
      simp only [statusChain, bind_ok_iff, exists_unit, mapError_ok_iff] at h
      obtain ⟨hverify, -, tail, hrest, -⟩ := h
      exact ⟨record, tail, hverify, hrest⟩
  | _ => cases h

/-- A second record cannot follow one that ends the key. -/
theorem WitnessStore.length_of_statusRecords {store : WitnessStore} {c : Context}
    {records : List StatusRecord} (h : store.statusRecords library c initial = .ok records) :
    (store.statusFiles initial.keyID).length ≤ 1 := by
  rw [statusRecords] at h
  simp only [bind_ok_iff, exists_unit, revertIf_ok_iff] at h
  obtain ⟨-, -, -, hchain⟩ := h
  have hlength : ((store.statusFiles initial.keyID).mergeSort
      fun a b => StatusName.le a.1 b.1).length = (store.statusFiles initial.keyID).length :=
    List.length_mergeSort _
  rw [← hlength]
  generalize (store.statusFiles initial.keyID).mergeSort _ = files at hchain
  cases files with
  | nil => exact Nat.zero_le 1
  | cons file others =>
      cases others with
      | nil => exact Nat.le_refl 1
      | cons file' rest =>
          obtain ⟨record, _, hfirst, hothers⟩ := statusChain_cons_ok hchain
          obtain ⟨record', _, hsecond, -⟩ := statusChain_cons_ok hothers
          have hended := (validateStatusTransition_iff.mp
            (verifyStatusRecord_iff.mp hfirst).transition).2.2.2.2.2.2.1
          exact (hended (validateStatusTransition_iff.mp
            (verifyStatusRecord_iff.mp hsecond).transition).2.2.2.2.2.1).elim

theorem StatusSound.keyID_ne_zero (h : StatusSound office w)
    (hrecord : record ∈ (w i).appended) : office.initial.keyID ≠ 0 := by
  have htransition := validateStatusTransition_iff.mp
    ((h.operator i).attested record hrecord).transition
  intro hzero
  exact htransition.1 (if_pos (.inr (.inl hzero)))

/-- A store is read exactly if the end of the key is there in one presentation. -/
theorem StatusSound.reads_iff (h : StatusSound office w)
    (hinj : (StatusWorld.hashed w).InjOn library.sha256) (hsome : (w i).appended ≠ []) :
    StatusReads office (w i) ↔ (w i).OnePresentation := by
  constructor
  · rintro ⟨record, -, hread⟩ first hfirst second hsecond
    have hlength := WitnessStore.length_of_statusRecords hread
    rw [(h.operator i).files, List.length_map, List.length_reverse] at hlength
    obtain ⟨only, honly⟩ := List.length_eq_one_iff.mp
      (Nat.le_antisymm hlength (List.length_pos_iff.mpr hsome))
    rw [honly, List.mem_singleton] at hfirst hsecond
    rw [hfirst, hsecond]
  · intro hone
    obtain ⟨record, rest, heq⟩ := List.exists_cons_of_ne_nil hsome
    have hrecord : record ∈ (w i).appended := by
      rw [heq]
      exact List.mem_cons_self
    -- another record would be the same, and its name would have been taken
    have hrest : rest = [] := by
      refine List.eq_nil_iff_forall_not_mem.mpr fun other hmem => ?_
      have hother : other ∈ (w i).appended := by
        rw [heq]
        exact List.mem_cons_of_mem _ hmem
      have hsame : record = other := by
        have hstatement := h.statement_eq hinj hrecord hother
        have hsignatures := hone record hrecord other hother
        cases record
        cases other
        exact congrArg₂ StatusRecord.mk hstatement hsignatures
      have hdistinct := (h.operator i).distinct
      rw [heq] at hdistinct
      exact (List.pairwise_cons.mp hdistinct).1 other hmem (by rw [hsame])
    have hattested := (h.operator i).attested record hrecord
    have hended := (validateStatusTransition_iff.mp hattested.transition).2.2.2.2.2.2.1
    refine ⟨record, hended, WitnessStore.statusRecords_of_one (h.keyID_ne_zero hrecord)
      (h.operator i).records ?_ hattested⟩
    rw [(h.operator i).files, heq, hrest]
    rfl

theorem verifyStatusReplica_singleton {c : Context}
    (hattested : Attested library c initial record) :
    verifyStatusReplica library c initial [record] [record'] = .ok () ↔
      record.digest library = record'.digest library := by
  simp only [verifyStatusReplica, bind_ok_iff, exists_unit, mapError_ok_iff, revertIf_ok_iff,
    verifyStatusRecord_iff.mpr hattested, true_and, and_true, ne_eq, not_not]

/-- Replicas agree exactly if the end of the key is there in one presentation. -/
theorem StatusSound.agreed_iff (h : StatusSound office w)
    (hinj : (StatusWorld.hashed w).InjOn library.sha256) :
    StatusAgreed office w ↔ OnePresentation w := by
  refine forall_congr' fun record => forall_congr' fun hrecord => ?_
  have hattested (i : Fin 3) := (h.operator i).attested _ (hrecord i)
  have hreplica (i : Fin 3) :
      verifyStatusReplica library office.context office.initial [record i] [record 0] = .ok () ↔
        (record 0).signatures = (record i).signatures := by
    rw [verifyStatusReplica_singleton (hattested i)]
    constructor
    · intro hdigest
      exact (h.signatures_eq hinj (hrecord i) (hrecord 0) hdigest).symm
    · intro hsignatures
      have hstatement := h.statement_eq hinj (hrecord 0) (hrecord i)
      have hsame : record 0 = record i := by
        cases hfirst : record 0
        cases hother : record i
        rw [hfirst, hother] at hstatement hsignatures
        exact congrArg₂ StatusRecord.mk hstatement hsignatures
      rw [hsame]
  have hloop : verifyStatusReplicaAgreement library office.context office.initial
      [[record 0], [record 1], [record 2]] = .ok () ↔
        verifyStatusReplica library office.context office.initial [record 0] [record 0] = .ok () ∧
        verifyStatusReplica library office.context office.initial [record 1] [record 0] = .ok () ∧
        verifyStatusReplica library office.context office.initial [record 2] [record 0] =
          .ok () := by
    simp [verifyStatusReplicaAgreement, partyCount, bind_ok_iff, exists_unit, revertIf_ok_iff,
      List.mapM_cons]
  rw [hloop, hreplica 0, hreplica 1, hreplica 2]
  exact ⟨fun hall => hall.2, fun hall => ⟨rfl, hall⟩⟩

/-- Whatever the operators sign and append, the end of a key is read from every store that has
it and agreed on by three of them if and only if it was presented with the same signatures
every time. -/
theorem status_history_iff (h : StatusReachable office w)
    (hinj : (StatusWorld.hashed w).InjOn library.sha256) :
    ((∀ i, (w i).appended ≠ [] → StatusReads office (w i)) ∧ StatusAgreed office w) ↔
      (∀ i, (w i).OnePresentation) ∧ OnePresentation w := by
  refine and_congr (forall_congr' fun i => ?_) (h.sound.agreed_iff hinj)
  constructor
  · intro hread record hrecord
    exact (h.sound.reads_iff hinj (List.ne_nil_of_mem hrecord)).mp
      (hread (List.ne_nil_of_mem hrecord)) record hrecord
  · intro hone hsome
    exact (h.sound.reads_iff hinj hsome).mpr hone

end

/-! Three operators sign that a key is revoked. -/

section

def sampleInitial : KeyStatusStatement where
  schemaVersion := statusSchema
  keyID := 9
  sequence := 1
  status := .active
  effectiveAt := 1
  reasonDigest := 1
  previousDigest := 0

def sampleOffice : StatusOffice sampleLibrary where
  context := sampleContext
  valid := sampleContext_valid
  initial := sampleInitial
  keys := sampleKey
  holds := sampleKey_holds

def sampleEnd : KeyStatusStatement where
  schemaVersion := statusSchema
  keyID := 9
  sequence := 2
  status := .revoked
  effectiveAt := 2
  reasonDigest := 1
  previousDigest := sampleInitial.digest sampleLibrary

/-- The signature of an operator under the end of the key. -/
def sampleEndSignature (i : Fin 3) : StatusSignature :=
  ⟨canonicalShamirPoint i, sampleSign (sampleKey i) (wordBytes (sampleEnd.digest sampleLibrary))⟩

/-- The end of the key, with the signatures of some. -/
def samplePresentation (signers : List (Fin 3)) : StatusRecord :=
  ⟨sampleEnd, signers.map sampleEndSignature⟩

/-- An operator that has signed, and whose store has some presentations, the last first. -/
def sampleStatusOperator (presentations : List StatusRecord) (i : Fin 3) : StatusOperator where
  store := (.statusDecision 9 2, .decision (sampleEnd.digest sampleLibrary)
      (sampleEndSignature i).signature) :: presentations.reverse.map fun record =>
        (.status 9 2 (record.digest sampleLibrary), .status record)
  signed := [sampleEnd]
  appended := presentations

theorem sampleStatus_signed {w : StatusWorld} (h : StatusReachable sampleOffice w) (i : Fin 3)
    (hi : w i = { store := [] }) :
    StatusReachable sampleOffice (Function.update w i (sampleStatusOperator [] i)) := by
  have hrun : ∀ i : Fin 3, (signKeyStatus sampleLibrary sampleContext sampleInitial sampleEnd
        (canonicalShamirPoint i) (sampleKey i) ⟨[], []⟩).result = .ok (sampleEndSignature i) ∧
      ((signKeyStatus sampleLibrary sampleContext sampleInitial sampleEnd
        (canonicalShamirPoint i) (sampleKey i)).last ⟨[], []⟩).store =
        (sampleStatusOperator [] i).store := by decide +kernel
  have hstep := @StatusStep.signed _ sampleOffice w i sampleContext sampleInitial
    sampleEnd (canonicalShamirPoint i) [] (sampleEndSignature i) (by
      rw [hi]
      exact (hrun i).1)
  rw [hi] at hstep
  exact .step h ((hrun i).2 ▸ hstep :)

theorem sampleStatus_appended {w : StatusWorld} (h : StatusReachable sampleOffice w) (i : Fin 3)
    {presentations : List StatusRecord} {record : StatusRecord}
    (hi : w i = sampleStatusOperator presentations i) (hsigned : ∀ j, (w j).signed = [sampleEnd])
    (hend : record.statement = sampleEnd)
    (hrun : (appendStatus sampleLibrary sampleContext sampleInitial record
        ⟨(sampleStatusOperator presentations i).store, []⟩).result = .ok () ∧
      ((appendStatus sampleLibrary sampleContext sampleInitial record).last
        ⟨(sampleStatusOperator presentations i).store, []⟩).store =
        (sampleStatusOperator (record :: presentations) i).store) :
    StatusReachable sampleOffice
      (Function.update w i (sampleStatusOperator (record :: presentations) i)) := by
  have hgenuine : GenuineStatus sampleOffice w record := by
    intro signature _ j _
    rw [hsigned j, hend]
    exact ⟨sampleEnd, List.mem_cons_self, rfl⟩
  have hstep := @StatusStep.appended _ sampleOffice w i record [] hgenuine (by
    rw [hi]
    exact hrun.1)
  rw [hi] at hstep
  exact .step h (hrun.2 ▸ hstep :)

/-- All three operators have signed. -/
theorem sampleStatus_all_signed :
    StatusReachable sampleOffice (sampleStatusOperator []) := by
  have hempty (ceremony : Digest) : WitnessStore.records [] ceremony = .ok [] := by
    rw [WitnessStore.records, WitnessStore.recordFiles, List.filterMap_nil, List.mergeSort_nil]
    rfl
  have hstart : StatusReachable sampleOffice fun _ => { store := [] } :=
    .start _ fun _ => ⟨⟨[], hempty _⟩, rfl⟩
  have hfirst := sampleStatus_signed hstart 0 rfl
  have hsecond := sampleStatus_signed hfirst 1 rfl
  have hthird := sampleStatus_signed hsecond 2 rfl
  convert hthird using 1
  funext i
  fin_cases i <;> rfl

/-- The first operator appends two presentations of the end. -/
def sampleTwice : StatusWorld :=
  Function.update (sampleStatusOperator []) 0
    (sampleStatusOperator [samplePresentation [0, 2], samplePresentation [0, 1]] 0)

/-- Every operator appends the same presentation. -/
def sampleOnce : StatusWorld := sampleStatusOperator [samplePresentation [0, 1]]

theorem sampleTwice_reachable : StatusReachable sampleOffice sampleTwice := by
  have hfirst := @sampleStatus_appended _ sampleStatus_all_signed 0 []
    (samplePresentation [0, 1]) rfl (fun _ => rfl) rfl (by decide +kernel)
  have hsecond := @sampleStatus_appended _ hfirst 0 _ (samplePresentation [0, 2]) rfl
    (fun j => by fin_cases j <;> rfl) rfl (by decide +kernel)
  rwa [Function.update_idem] at hsecond

theorem sampleOnce_reachable : StatusReachable sampleOffice sampleOnce := by
  have hrun : ∀ i : Fin 3, (appendStatus sampleLibrary sampleContext sampleInitial
        (samplePresentation [0, 1]) ⟨(sampleStatusOperator [] i).store, []⟩).result = .ok () ∧
      ((appendStatus sampleLibrary sampleContext sampleInitial (samplePresentation [0, 1])).last
        ⟨(sampleStatusOperator [] i).store, []⟩).store =
        (sampleStatusOperator [samplePresentation [0, 1]] i).store := by decide +kernel
  have hfirst := sampleStatus_appended sampleStatus_all_signed 0 rfl (fun _ => rfl) rfl (hrun 0)
  have hsecond := sampleStatus_appended hfirst 1 rfl (fun j => by fin_cases j <;> rfl) rfl (hrun 1)
  have hthird := sampleStatus_appended hsecond 2 rfl (fun j => by fin_cases j <;> rfl) rfl (hrun 2)
  convert hthird using 1
  funext i
  fin_cases i <;> rfl

/-- The texts that are hashed of the two presentations. -/
def sampleTexts : List Bytes :=
  [sampleEnd.hashed, (samplePresentation [0, 1]).hashed, (samplePresentation [0, 2]).hashed]

theorem injOn_sampleTexts {w : StatusWorld} (hsigned : ∀ i, (w i).signed = [sampleEnd])
    (happended : ∀ i, ∀ record ∈ (w i).appended,
      record ∈ [samplePresentation [0, 1], samplePresentation [0, 2]]) :
    (StatusWorld.hashed w).InjOn sampleLibrary.sha256 := by
  have hinj : ∀ x ∈ sampleTexts, ∀ y ∈ sampleTexts, sampleHash x = sampleHash y → x = y := by
    decide +kernel
  have hsub : ∀ x ∈ StatusWorld.hashed w, x ∈ sampleTexts := by
    rintro x ⟨i, ⟨s, hs, rfl⟩ | ⟨record, hrecord, hx⟩⟩
    · rw [hsigned i, List.mem_singleton] at hs
      rw [hs]
      exact List.mem_cons_self
    · have hrecord := happended i record hrecord
      rw [List.mem_cons, List.mem_singleton] at hrecord
      rcases hrecord with rfl | rfl <;> rcases hx with rfl | rfl <;> simp [sampleTexts,
        samplePresentation]
  exact fun x hx y hy heq => hinj x (hsub x hx) y (hsub y hy) heq

theorem status_history_iff_sample :
    (∀ i, (sampleOnce i).appended ≠ [] → StatusReads sampleOffice (sampleOnce i)) ∧
      StatusAgreed sampleOffice sampleOnce := by
  have hinj := @injOn_sampleTexts sampleOnce (fun _ => rfl)
    fun i record hrecord => List.mem_cons.mpr (.inl (List.mem_singleton.mp hrecord))
  refine (status_history_iff sampleOnce_reachable hinj).mpr ⟨fun i => ?_, fun record hrecord => ?_⟩
  · intro record hrecord other hother
    rw [List.mem_singleton.mp hrecord, List.mem_singleton.mp hother]
  · have hsame (i : Fin 3) : record i = samplePresentation [0, 1] :=
      List.mem_singleton.mp (hrecord i)
    rw [hsame 0, hsame 1, hsame 2]
    exact ⟨rfl, rfl⟩

/-- Two presentations of the end of a key in one store: it cannot be read any more. -/
theorem status_history_unread :
    StatusReachable sampleOffice sampleTwice ∧
      (StatusWorld.hashed sampleTwice).InjOn sampleLibrary.sha256 ∧
      (sampleTwice 0).appended = [samplePresentation [0, 2], samplePresentation [0, 1]] ∧
      (∀ records, (sampleTwice 0).store.statusRecords sampleLibrary sampleContext sampleInitial ≠
        .ok records) ∧ ¬ StatusReads sampleOffice (sampleTwice 0) := by
  have hrefused (records : List StatusRecord) :
      (sampleTwice 0).store.statusRecords sampleLibrary sampleContext sampleInitial ≠
        .ok records := by
    intro hread
    exact absurd (WitnessStore.length_of_statusRecords hread) (by decide +kernel)
  have hinj : (StatusWorld.hashed sampleTwice).InjOn sampleLibrary.sha256 := by
    apply injOn_sampleTexts
    · intro i
      fin_cases i <;> rfl
    · intro i record hrecord
      fin_cases i
      · exact (List.mem_cons.mp hrecord).elim
          (fun h => List.mem_cons_of_mem _ (List.mem_singleton.mpr h))
          fun h => List.mem_cons.mpr (.inl (List.mem_singleton.mp h))
      · exact nomatch hrecord
      · exact nomatch hrecord
  exact ⟨sampleTwice_reachable, hinj, rfl, hrefused, fun ⟨record, _, hread⟩ => hrefused _ hread⟩

end

end Mordant.OneShotCeremony
