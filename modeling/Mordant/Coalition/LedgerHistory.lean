/-
# What a session ledger has answered

Every transaction of a ledger file and what it answered, newest first.  What the three
buckets hold can be told from the answers alone: a session's record is what was last written
of it, and the digests that are taken are those of the sessions that were reserved.
-/

import Mordant.Coalition.SessionLedger

namespace Mordant.Coalition

open Evm Foundation
open Function (update_of_ne update_self update)

/-! ## Requests and answers -/

/-- What is asked of a ledger; it is opened again after a restart. -/
inductive LedgerRequest
  | call (call : LedgerCall)
  | get (sessionCommitment : Digest)
  | reopen

/-- A transaction, with the record it returns. -/
def LedgerCall.transact (ledger : SessionLedger) :
    LedgerCall → Except LedgerError (SessionRecord × SessionLedger)
  | .reserve paired now => ledger.reserve paired now
  | .markReleased sessionCommitment outputsDigest now =>
    ledger.markReleased sessionCommitment outputsDigest now
  | .markFailed sessionCommitment now => ledger.markFailed sessionCommitment now

/-- The session that a transaction is about. -/
def LedgerCall.session : LedgerCall → Digest
  | .reserve paired _ => paired.sessionCommitment
  | .markReleased sessionCommitment _ _ | .markFailed sessionCommitment _ => sessionCommitment

/-- What was asked, and what was answered. -/
structure LedgerEntry where
  request : LedgerRequest
  answer : Option (Except LedgerError SessionRecord)

/-- A ledger file, and what it has answered, newest first. -/
structure LedgerFile where
  ledger : SessionLedger := {}
  entries : List LedgerEntry := []

namespace LedgerFile

/-- One request. A transaction that fails is rolled back, and the buckets that exist are not
created again. -/
def serve (file : LedgerFile) (request : LedgerRequest) : LedgerFile :=
  match request with
  | .call call =>
    match call.transact file.ledger with
    | .ok (record, ledger) => ⟨ledger, ⟨request, some (.ok record)⟩ :: file.entries⟩
    | .error error => { file with entries := ⟨request, some (.error error)⟩ :: file.entries }
  | .get sessionCommitment =>
    { file with entries := ⟨request, some (file.ledger.get sessionCommitment)⟩ :: file.entries }
  | .reopen => { file with entries := ⟨request, none⟩ :: file.entries }

/-- Requests, one after another. -/
def serveAll (file : LedgerFile) (requests : List LedgerRequest) : LedgerFile :=
  requests.foldl serve file

end LedgerFile

namespace LedgerEntry

/-- What an entry wrote, and of which session. -/
def written (entry : LedgerEntry) : Option (Digest × SessionRecord) :=
  match entry.request, entry.answer with
  | .call call, some (.ok record) => some (call.session, record)
  | _, _ => none

/-- What an entry wrote of a session. -/
def wrote (sessionCommitment : Digest) (entry : LedgerEntry) : Option SessionRecord :=
  entry.written.bind fun (session, record) =>
    if session = sessionCommitment then some record else none

/-- What an entry reserved. -/
def reserved (entry : LedgerEntry) : Option PairedEnrollmentsV5 :=
  match entry.request, entry.answer with
  | .call (.reserve paired _), some (.ok _) => some paired
  | _, _ => none

/-- The session that an entry released or failed. -/
def settled (entry : LedgerEntry) : Option Digest :=
  match entry.request, entry.answer with
  | .call call, some (.ok _) => call.settles
  | _, _ => none

end LedgerEntry

/-- What was last written of a session. -/
def lastWritten (sessionCommitment : Digest) (entries : List LedgerEntry) : Option SessionRecord :=
  entries.findSome? (·.wrote sessionCommitment)

/-- Two sessions share no commitment, no nullifier and no enrollment, of whatever side. -/
structure PairedEnrollmentsV5.Apart (paired paired' : PairedEnrollmentsV5) : Prop where
  session : paired.sessionCommitment ≠ paired'.sessionCommitment
  nullifier : paired.sessionNullifier ≠ paired'.sessionNullifier
  enrollments : ∀ digest ∈ [paired.enrollmentDigestA, paired.enrollmentDigestB],
    digest ∉ [paired'.enrollmentDigestA, paired'.enrollmentDigestB]

/-! ## What the buckets hold -/

/-- The buckets, told from the answers. -/
structure LedgerFile.Told (file : LedgerFile) : Prop where
  sessions : ∀ session, file.ledger.sessions session =
    (lastWritten session file.entries).map encodeSessionRecord
  nullifiers : ∀ nullifier raw, file.ledger.nullifiers nullifier = some raw ↔
    ∃ entry ∈ file.entries, ∃ paired, entry.reserved = some paired ∧
      paired.sessionNullifier = nullifier ∧ raw = wordBytes paired.sessionCommitment
  enrollments : ∀ digest raw, file.ledger.enrollments digest = some raw ↔
    ∃ entry ∈ file.entries, ∃ paired, entry.reserved = some paired ∧
      digest ∈ [paired.enrollmentDigestA, paired.enrollmentDigestB] ∧
      raw = wordBytes paired.sessionCommitment
  apart : file.entries.Pairwise fun later earlier => ∀ paired paired',
    later.reserved = some paired → earlier.reserved = some paired' → paired.Apart paired'
  settledOnce : file.entries.Pairwise fun later earlier => ∀ session,
    earlier.settled = some session → later.settled ≠ some session
  /-- A session that was settled is settled. -/
  settled : ∀ entry ∈ file.entries, ∀ session, entry.settled = some session →
    ∃ record, lastWritten session file.entries = some record ∧ record.state ≠ sessionReserved

section

variable {file : LedgerFile} {call : LedgerCall} {record : SessionRecord} {ledger : SessionLedger}
  {session : Digest} {entry : LedgerEntry} {request : LedgerRequest}

/-- The record of a session is what was last written of it. -/
theorem LedgerFile.Told.get (h : file.Told) (session : Digest) :
    file.ledger.get session = match lastWritten session file.entries with
      | some record => .ok record
      | none => .error .sessionUnknown := by
  rw [SessionLedger.get, h.sessions session]
  cases lastWritten session file.entries with
  | none => rfl
  | some record => exact decode_encode record

theorem lastWritten_cons (session : Digest) (entry : LedgerEntry) (entries : List LedgerEntry) :
    lastWritten session (entry :: entries) =
      (entry.wrote session).or (lastWritten session entries) := by
  rw [lastWritten, List.findSome?_cons]
  cases entry.wrote session with
  | none => rfl
  | some record => rfl

theorem wrote_none_of_lastWritten {entries : List LedgerEntry}
    (h : lastWritten session entries = none) (hmem : entry ∈ entries) :
    entry.wrote session = none :=
  List.findSome?_eq_none_iff.mp h entry hmem

/-- What an entry reserved, it wrote. -/
theorem wrote_of_reserved {paired : PairedEnrollmentsV5} (h : entry.reserved = some paired) :
    ∃ record, entry.wrote paired.sessionCommitment = some record := by
  obtain ⟨request, answer⟩ := entry
  simp only [LedgerEntry.reserved] at h
  split at h
  · next found now record =>
      obtain rfl := Option.some.inj h
      exact ⟨record, if_pos rfl⟩
  · exact nomatch h

/-- An entry that writes nothing leaves what the answers tell. -/
theorem LedgerFile.Told.idle (h : file.Told) (hwritten : entry.written = none)
    (hreserved : entry.reserved = none) (hsettled : entry.settled = none) :
    LedgerFile.Told { file with entries := entry :: file.entries } where
  sessions session := by
    rw [lastWritten_cons, LedgerEntry.wrote, hwritten]
    exact h.sessions session
  nullifiers nullifier raw := by
    rw [h.nullifiers nullifier raw, List.exists_mem_cons_iff, hreserved]
    exact ⟨.inr, fun hor => hor.resolve_left fun ⟨_, hnone, _⟩ => nomatch hnone⟩
  enrollments digest raw := by
    rw [h.enrollments digest raw, List.exists_mem_cons_iff, hreserved]
    exact ⟨.inr, fun hor => hor.resolve_left fun ⟨_, hnone, _⟩ => nomatch hnone⟩
  apart := by
    refine List.pairwise_cons.mpr ⟨fun _ _ _ _ hnew => ?_, h.apart⟩
    exact nomatch hreserved.symm.trans hnew
  settledOnce := by
    refine List.pairwise_cons.mpr ⟨fun _ _ _ _ => ?_, h.settledOnce⟩
    rw [hsettled]
    exact nofun
  settled earlier hmem session hsession := by
    rw [lastWritten_cons, LedgerEntry.wrote, hwritten]
    rcases List.mem_cons.mp hmem with rfl | hmem
    · exact nomatch hsettled.symm.trans hsession
    · exact h.settled earlier hmem session hsession

/-- A reservation takes what no earlier one has taken. -/
theorem LedgerFile.Told.reserve {paired : PairedEnrollmentsV5} {now : ℤ} (h : file.Told)
    (hreserve : file.ledger.reserve paired now = .ok (record, ledger)) :
    LedgerFile.Told ⟨ledger, ⟨.call (.reserve paired now), some (.ok record)⟩ :: file.entries⟩ := by
  obtain ⟨⟨hsession, hnullifier, hA, hB, hne⟩, rfl⟩ := reserve_ok hreserve
  have hunwritten : lastWritten paired.sessionCommitment file.entries = none :=
    Option.map_eq_none_iff.mp ((h.sessions paired.sessionCommitment).symm.trans hsession)
  constructor
  · intro session
    rw [lastWritten_cons]
    show update file.ledger.sessions paired.sessionCommitment _ session =
      Option.map _ (Option.or (if paired.sessionCommitment = session then some record else none) _)
    by_cases hsame : paired.sessionCommitment = session
    · subst hsame
      rw [update_self, if_pos rfl]
      rfl
    · rw [update_of_ne (Ne.symm hsame), if_neg hsame]
      exact h.sessions session
  · intro nullifier raw
    rw [List.exists_mem_cons_iff, ← h.nullifiers nullifier raw]
    show update file.ledger.nullifiers paired.sessionNullifier _ nullifier = some raw ↔ _
    by_cases hsame : nullifier = paired.sessionNullifier
    · subst hsame
      rw [update_self, hnullifier]
      constructor
      · intro heq
        exact .inl ⟨paired, rfl, rfl, (Option.some.inj heq).symm⟩
      · rintro (⟨_, hnew, -, rfl⟩ | hnone)
        · obtain rfl := Option.some.inj hnew
          rfl
        · exact nomatch hnone
    · rw [update_of_ne hsame]
      constructor
      · exact .inr
      · rintro (⟨_, hnew, hthis, -⟩ | hold)
        · obtain rfl := Option.some.inj hnew
          exact (hsame hthis.symm).elim
        · exact hold
  · intro digest raw
    rw [List.exists_mem_cons_iff, ← h.enrollments digest raw]
    show update (update file.ledger.enrollments paired.enrollmentDigestA _)
      paired.enrollmentDigestB _ digest = some raw ↔ _
    by_cases hsame : digest ∈ [paired.enrollmentDigestA, paired.enrollmentDigestB]
    · have hfree : file.ledger.enrollments digest = none := by
        rcases List.mem_pair.mp hsame with rfl | rfl
        · exact hA
        · exact hB
      have hupdated : update (update file.ledger.enrollments
          paired.enrollmentDigestA (some (wordBytes paired.sessionCommitment)))
          paired.enrollmentDigestB (some (wordBytes paired.sessionCommitment)) digest =
            some (wordBytes paired.sessionCommitment) := by
        rcases List.mem_pair.mp hsame with rfl | rfl
        · rw [update_of_ne hne, update_self]
        · rw [update_self]
      rw [hupdated, hfree]
      constructor
      · intro heq
        exact .inl ⟨paired, rfl, hsame, (Option.some.inj heq).symm⟩
      · rintro (⟨_, hnew, -, rfl⟩ | hnone)
        · obtain rfl := Option.some.inj hnew
          rfl
        · exact nomatch hnone
    · obtain ⟨hdiffersA, hdiffersB⟩ := not_or.mp (mt List.mem_pair.mpr hsame)
      rw [update_of_ne hdiffersB, update_of_ne hdiffersA]
      constructor
      · exact .inr
      · rintro (⟨_, hnew, hthis, -⟩ | hold)
        · obtain rfl := Option.some.inj hnew
          exact (hsame hthis).elim
        · exact hold
  · refine List.pairwise_cons.mpr ⟨fun earlier hmem _ paired' hnew hearlier => ?_, h.apart⟩
    obtain rfl := Option.some.inj hnew
    have htaken : ∀ digest ∈ [paired'.enrollmentDigestA, paired'.enrollmentDigestB],
        file.ledger.enrollments digest ≠ none := by
      intro digest hdigest hnone
      have hsome := (h.enrollments digest _).mpr ⟨earlier, hmem, paired', hearlier, hdigest, rfl⟩
      exact nomatch hnone.symm.trans hsome
    refine ⟨?_, ?_, ?_⟩
    · intro hsame
      obtain ⟨_, hwrote⟩ := wrote_of_reserved hearlier
      rw [← hsame] at hwrote
      exact nomatch (wrote_none_of_lastWritten hunwritten hmem).symm.trans hwrote
    · intro hsame
      have hsome := (h.nullifiers paired.sessionNullifier _).mpr
        ⟨earlier, hmem, paired', hearlier, hsame.symm, rfl⟩
      exact nomatch hnullifier.symm.trans hsome
    · intro digest hdigest hdigest'
      apply htaken digest hdigest'
      rcases List.mem_pair.mp hdigest with rfl | rfl
      · exact hA
      · exact hB
  · exact List.pairwise_cons.mpr ⟨fun _ _ _ _ => nofun, h.settledOnce⟩
  · intro earlier hmem session hsession
    rcases List.mem_cons.mp hmem with rfl | hmem
    · exact nomatch hsession
    · obtain ⟨found, hfound, hstate⟩ := h.settled earlier hmem session hsession
      have hother : paired.sessionCommitment ≠ session := by
        rintro rfl
        exact nomatch hunwritten.symm.trans hfound
      refine ⟨found, ?_, hstate⟩
      rw [lastWritten_cons]
      show Option.or (if paired.sessionCommitment = session then some record else none) _ = _
      rw [if_neg hother]
      exact hfound

/-- A transition settles a session that is reserved. -/
theorem LedgerFile.Told.settle {before : SessionRecord} (h : file.Told)
    (hget : file.ledger.get session = .ok before) (hbefore : before.state = sessionReserved)
    (hrecord : record.state ≠ sessionReserved) (hwritten : entry.written = some (session, record))
    (hreserved : entry.reserved = none) (hsettled : entry.settled = some session) :
    LedgerFile.Told ⟨file.ledger.putSession session record, entry :: file.entries⟩ := by
  have hlast : lastWritten session file.entries = some before := by
    have hsame := (h.get session).symm.trans hget
    split at hsame
    · next found hfound =>
        obtain rfl := Except.ok.inj hsame
        exact hfound
    · exact nomatch hsame
  have hwrote (other : Digest) :
      entry.wrote other = if session = other then some record else none := by
    rw [LedgerEntry.wrote, hwritten]
    rfl
  constructor
  · intro other
    rw [lastWritten_cons, hwrote]
    show update file.ledger.sessions session _ other = _
    by_cases hsame : session = other
    · subst hsame
      rw [update_self, if_pos rfl]
      rfl
    · rw [update_of_ne (Ne.symm hsame), if_neg hsame]
      exact h.sessions other
  · intro nullifier raw
    rw [List.exists_mem_cons_iff, ← h.nullifiers nullifier raw, hreserved]
    exact ⟨.inr, fun hor => hor.resolve_left fun ⟨_, hnone, _⟩ => nomatch hnone⟩
  · intro digest raw
    rw [List.exists_mem_cons_iff, ← h.enrollments digest raw, hreserved]
    exact ⟨.inr, fun hor => hor.resolve_left fun ⟨_, hnone, _⟩ => nomatch hnone⟩
  · refine List.pairwise_cons.mpr ⟨fun _ _ _ _ hnew => ?_, h.apart⟩
    exact nomatch hreserved.symm.trans hnew
  · refine List.pairwise_cons.mpr ⟨fun earlier hmem other hearlier hnew => ?_, h.settledOnce⟩
    obtain rfl := Option.some.inj (hsettled.symm.trans hnew)
    obtain ⟨found, hfound, hstate⟩ := h.settled earlier hmem session hearlier
    obtain rfl := Option.some.inj (hlast.symm.trans hfound)
    exact hstate hbefore
  · intro earlier hmem other hother
    rw [lastWritten_cons, hwrote]
    by_cases hsame : session = other
    · rw [if_pos hsame]
      exact ⟨record, rfl, hrecord⟩
    · rw [if_neg hsame]
      rcases List.mem_cons.mp hmem with rfl | hmem
      · exact (hsame (Option.some.inj (hsettled.symm.trans hother))).elim
      · exact h.settled earlier hmem other hother

/-- **Step.** Whatever is asked, the buckets are told from the answers. -/
theorem LedgerFile.Told.serve (h : file.Told) (request : LedgerRequest) :
    (file.serve request).Told := by
  cases request with
  | reopen => exact h.idle rfl rfl rfl
  | get session => exact h.idle rfl rfl rfl
  | call call =>
      rw [LedgerFile.serve]
      cases htransact : call.transact file.ledger with
      | error error => exact h.idle rfl (by cases call <;> rfl) rfl
      | ok served =>
          obtain ⟨record, ledger⟩ := served
          cases call with
          | reserve paired now => exact h.reserve htransact
          | markReleased session outputsDigest now =>
              have hmark : file.ledger.markReleased session outputsDigest now =
                  .ok (record, ledger) := htransact
              obtain ⟨before, hget, hstate, rfl, rfl⟩ := transition_ok hmark
              exact h.settle hget hstate (by decide : sessionReleased ≠ sessionReserved) rfl rfl rfl
          | markFailed session now =>
              have hmark : file.ledger.markFailed session now = .ok (record, ledger) := htransact
              obtain ⟨before, hget, hstate, rfl, rfl⟩ := transition_ok hmark
              exact h.settle hget hstate (by decide : sessionFailed ≠ sessionReserved) rfl rfl rfl

/-- A new file. -/
theorem LedgerFile.Told.empty : LedgerFile.Told {} where
  sessions _ := rfl
  nullifiers _ _ := ⟨nofun, fun ⟨_, hmem, _⟩ => nomatch hmem⟩
  enrollments _ _ := ⟨nofun, fun ⟨_, hmem, _⟩ => nomatch hmem⟩
  apart := .nil
  settledOnce := .nil
  settled _ hmem := nomatch hmem

/-- **Run.** And so they are after any requests. -/
theorem LedgerFile.Told.serveAll (h : file.Told) (requests : List LedgerRequest) :
    (file.serveAll requests).Told := by
  induction requests generalizing file with
  | nil => exact h
  | cons request requests ih => exact ih (h.serve request)

end

/-! ## One-shot -/

section

variable {file : LedgerFile} {session : Digest} {record : SessionRecord}

/-- A session that left the reserved state stays as it is. -/
theorem LedgerFile.kept_of_settled
    (hget : file.ledger.get session = .ok record) (hsettled : record.state ≠ sessionReserved)
    (request : LedgerRequest) : (file.serve request).ledger.get session = .ok record := by
  have hknown : file.ledger.sessions session ≠ none := by
    intro hnone
    rw [SessionLedger.get, hnone] at hget
    cases hget
  have hother {other : Digest} {changed : SessionLedger} {written : SessionRecord}
      (hsame : changed.sessions = file.ledger.sessions) (hne : session ≠ other) :
      (changed.putSession other written).get session = .ok record := by
    rw [← hget]
    simp only [SessionLedger.get, SessionLedger.putSession, update_of_ne hne, hsame]
  have hunsettled {other : Digest} {before : SessionRecord}
      (hbefore : file.ledger.get other = .ok before) (hstate : before.state = sessionReserved) :
      session ≠ other := by
    rintro rfl
    obtain rfl := Except.ok.inj (hget.symm.trans hbefore)
    exact hsettled hstate
  cases request with
  | reopen => exact hget
  | get other => exact hget
  | call call =>
      rw [LedgerFile.serve]
      cases htransact : call.transact file.ledger with
      | error error => exact hget
      | ok served =>
          obtain ⟨written, ledger⟩ := served
          cases call with
          | reserve paired now =>
              obtain ⟨⟨hfree, -⟩, rfl⟩ := reserve_ok htransact
              refine hother rfl ?_
              rintro rfl
              exact hknown hfree
          | markReleased other outputsDigest now =>
              have hmark : file.ledger.markReleased other outputsDigest now =
                  .ok (written, ledger) := htransact
              obtain ⟨before, hbefore, hstate, -, rfl⟩ := transition_ok hmark
              exact hother rfl (hunsettled hbefore hstate)
          | markFailed other now =>
              have hmark : file.ledger.markFailed other now = .ok (written, ledger) := htransact
              obtain ⟨before, hbefore, hstate, -, rfl⟩ := transition_ok hmark
              exact hother rfl (hunsettled hbefore hstate)

/-- What holds of a ledger at any time, and between two times. -/
structure LedgerOneShot (before after : LedgerFile) : Prop where
  /-- Two sessions that were reserved share nothing. -/
  apart : after.entries.Pairwise fun later earlier => ∀ paired paired',
    later.reserved = some paired → earlier.reserved = some paired' → paired.Apart paired'
  /-- A call that fails, and one that only reads, changes nothing. -/
  unchanged : ∀ request, (after.serve request).ledger = after.ledger ∨
    ∃ call record, request = .call call ∧
      (after.serve request).entries = ⟨request, some (.ok record)⟩ :: after.entries
  /-- A record is read as it was last written, and what was not written is not known. -/
  read : ∀ session, after.ledger.get session = match lastWritten session after.entries with
    | some record => .ok record
    | none => .error .sessionUnknown
  /-- A session is released or failed once. -/
  settledOnce : after.entries.Pairwise fun later earlier => ∀ session,
    earlier.settled = some session → later.settled ≠ some session
  /-- A session that left the reserved state does not come back to it, nor change. -/
  final : ∀ session record, before.ledger.get session = .ok record →
    record.state ≠ sessionReserved → after.ledger.get session = .ok record
  /-- A nullifier is taken for the session that was reserved with it. -/
  nullifiers : ∀ nullifier raw, after.ledger.nullifiers nullifier = some raw ↔
    ∃ entry ∈ after.entries, ∃ paired, entry.reserved = some paired ∧
      paired.sessionNullifier = nullifier ∧ raw = wordBytes paired.sessionCommitment
  /-- So is an enrollment, of either side. -/
  enrollments : ∀ digest raw, after.ledger.enrollments digest = some raw ↔
    ∃ entry ∈ after.entries, ∃ paired, entry.reserved = some paired ∧
      digest ∈ [paired.enrollmentDigestA, paired.enrollmentDigestB] ∧
      raw = wordBytes paired.sessionCommitment

theorem LedgerFile.serve_unchanged (file : LedgerFile) (request : LedgerRequest) :
    (file.serve request).ledger = file.ledger ∨ ∃ call record, request = .call call ∧
      (file.serve request).entries = ⟨request, some (.ok record)⟩ :: file.entries := by
  cases request with
  | reopen => exact .inl rfl
  | get session => exact .inl rfl
  | call call =>
      rw [LedgerFile.serve]
      cases call.transact file.ledger with
      | error error => exact .inl rfl
      | ok served => exact .inr ⟨call, served.1, rfl, rfl⟩

/-- **Theorem (session ledger).** Whatever is asked of a new ledger file, in whatever order
and across restarts. -/
theorem session_ledger_one_shot (earlier later : List LedgerRequest) :
    LedgerOneShot (LedgerFile.serveAll {} earlier) (LedgerFile.serveAll {} (earlier ++ later)) := by
  have htold := LedgerFile.Told.empty.serveAll (earlier ++ later)
  refine ⟨htold.apart, LedgerFile.serve_unchanged _, htold.get, htold.settledOnce, ?_,
    htold.nullifiers, htold.enrollments⟩
  intro session record hget hsettled
  rw [LedgerFile.serveAll, List.foldl_append]
  show (LedgerFile.serveAll (LedgerFile.serveAll {} earlier) later).ledger.get session = _
  generalize LedgerFile.serveAll {} earlier = file at hget ⊢
  clear htold
  induction later generalizing file with
  | nil => exact hget
  | cons request later ih => exact ih _ (LedgerFile.kept_of_settled hget hsettled request)

end

end Mordant.Coalition
