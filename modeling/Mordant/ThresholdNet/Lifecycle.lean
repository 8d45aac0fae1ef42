/-
# What the one-shot ledger keeps

A record only moves forward, and a terminal one not at all.  Every transaction reserves a
free session together with a free binding, or moves one record on, and the ledger stays
consistent.  Recovery never fails on a consistent ledger.
-/

import Mordant.ThresholdNet.Store

namespace Mordant.ThresholdNet

open Foundation
open Function (update_self update_of_ne update)
open Coalition (Digest)

/-! ## The lifecycle of a record -/

/-- What may follow a state. -/
inductive State.Edge : State → State → Prop
  | commit : Edge .prepared .committed
  | generate : Edge .committed .generated
  | release : Edge .generated .released
  | ack : Edge .released .acked
  | abort : Edge .prepared .abortedPrestart
  | fail {state : State} (hflight : state.InFlight) : Edge state .failedTerminal

/-- How far along a state is. -/
def State.rank : State → ℕ
  | .prepared => 0
  | .committed => 1
  | .generated => 2
  | .released => 3
  | .acked | .abortedPrestart | .failedTerminal => 4

theorem State.Edge.rank_lt {state state' : State} (h : state.Edge state') :
    state.rank < state'.rank := by
  cases h with
  | commit | generate | release | ack | abort => decide
  | fail hflight => rcases hflight with rfl | rfl | rfl <;> decide

theorem State.rank_le_four (state : State) : state.rank ≤ 4 := by
  cases state <;> decide

namespace Record

/-- One step of a record. -/
structure Step (record record' : Record) : Prop where
  sessionID : record'.sessionID = record.sessionID
  binding : record'.binding = record.binding
  coalitionDigest : record'.coalitionDigest = record.coalitionDigest
  edge : record.state.Edge record'.state
  responseDigest : record'.state = .generated ∨ record'.responseDigest = record.responseDigest

/-- What a record can become. -/
def Follows : Record → Record → Prop := Relation.ReflTransGen Step

section

variable {record record' : Record}

theorem Follows.refl (record : Record) : record.Follows record := Relation.ReflTransGen.refl

theorem Follows.trans {record'' : Record} (h : record.Follows record')
    (h' : record'.Follows record'') : record.Follows record'' :=
  Relation.ReflTransGen.trans h h'

theorem Step.follows (h : record.Step record') : record.Follows record' :=
  Relation.ReflTransGen.single h

/-- Nothing changes what a record is about. -/
theorem Follows.identity (h : record.Follows record') :
    record'.sessionID = record.sessionID ∧ record'.binding = record.binding ∧
      record'.coalitionDigest = record.coalitionDigest := by
  induction h with
  | refl => exact ⟨rfl, rfl, rfl⟩
  | tail _ hstep ih =>
      exact ⟨hstep.sessionID.trans ih.1, hstep.binding.trans ih.2.1,
        hstep.coalitionDigest.trans ih.2.2⟩

theorem Follows.eq_or_rank_lt (h : record.Follows record') :
    record' = record ∨ record.state.rank < record'.state.rank := by
  induction h with
  | refl => exact .inl rfl
  | tail _ hstep ih =>
      have hlt := hstep.edge.rank_lt
      rcases ih with rfl | ih
      · exact .inr hlt
      · exact .inr (ih.trans hlt)

theorem Follows.rank_le (h : record.Follows record') : record.state.rank ≤ record'.state.rank := by
  rcases h.eq_or_rank_lt with rfl | hlt
  · exact le_rfl
  · exact hlt.le

/-- A terminal record never changes. -/
theorem Follows.eq_of_isTerminal (h : record.Follows record')
    (hterminal : record.state.IsTerminal) :
    record' = record := by
  have hrank : record.state.rank = 4 := by
    rcases hterminal with hstate | hstate | hstate <;> rw [hstate] <;> rfl
  rcases h.eq_or_rank_lt with heq | hlt
  · exact heq
  · have := record'.state.rank_le_four
    omega

/-- The response digest is recorded once. -/
theorem Follows.responseDigest (h : record.Follows record') (hrank : 2 ≤ record.state.rank) :
    record'.responseDigest = record.responseDigest := by
  induction h with
  | refl => rfl
  | @tail middle last hfollows hstep ih =>
      rcases hstep.responseDigest with hgenerated | hsame
      · have hlt := hstep.edge.rank_lt
        have hle := Follows.rank_le hfollows
        rw [hgenerated] at hlt
        have : middle.state.rank < 2 := hlt
        omega
      · exact hsame.trans ih

end

/-- Settling a record is a step of its lifecycle, or none. -/
theorem follows_recovered (now : ℤ) (record : Record) :
    record.Follows (Ledger.recovered now record) := by
  unfold Ledger.recovered
  split
  · next hflight => exact Step.follows ⟨rfl, rfl, rfl, .fail hflight, .inr rfl⟩
  · exact .refl record

end Record

/-! ## Records that may be stored -/

theorem le_timestampAtLeast (now previous : ℤ) : previous ≤ timestampAtLeast now previous := by
  unfold timestampAtLeast
  split
  · exact le_rfl
  · next hnow => exact not_lt.mp hnow

theorem validFailureCode_restart : validFailureCode failureRestartAfterCommit = true := by
  decide +kernel

/-- A settled record may be stored where the record may. -/
theorem validateRecord_recovered {record : Record} (now : ℤ)
    (h : validateRecord record = .ok ()) :
    validateRecord (Ledger.recovered now record) = .ok () := by
  unfold Ledger.recovered
  split
  · have hle := le_timestampAtLeast now record.updatedAtUnixNano
    simp only [validateRecord, validateDescriptor, validateOutcome, bind_ok_iff, revertIf_ok_iff,
      exists_const, not_or, not_not, not_le, not_lt] at h ⊢
    obtain ⟨hversion, hids, ⟨hcreated, hupdated, horder⟩, -⟩ := h
    refine ⟨hversion, hids, ⟨hcreated, hupdated.trans_le hle, horder.trans hle⟩, ?_, ?_⟩
    · rw [validFailureCode_restart]
      decide
    · decide
  · exact h

theorem decodeRecord_ok_iff {encoded record : Record} :
    decodeRecord encoded = .ok record ↔ validateRecord encoded = .ok () ∧ encoded = record := by
  simp only [decodeRecord, bind_ok_iff, mapError_ok_iff, pure_ok_iff]
  exact ⟨fun ⟨_, h⟩ => h, fun h => ⟨(), h⟩⟩

theorem encodeRecord_ok_iff {record encoded : Record} :
    encodeRecord record = .ok encoded ↔ validateRecord record = .ok () ∧ record = encoded := by
  simp only [encodeRecord, bind_ok_iff, pure_ok_iff]
  exact ⟨fun ⟨_, h⟩ => h, fun h => ⟨(), h⟩⟩

/-! ## Consistent ledgers -/

namespace Ledger

theorem record_put (ledger : Ledger) (binding : Digest) (record : Record) :
    (ledger.put binding record).record = update ledger.record binding (some record) := by
  funext key
  by_cases hkey : key = binding
  · subst hkey
    rw [update_self]
    exact AList.lookup_insert _
  · rw [update_of_ne hkey]
    exact AList.lookup_insert_ne hkey

/-- Every record may be stored, stands under its own binding and is the record of one
session, and every session has its record. -/
structure Consistent (ledger : Ledger) : Prop where
  valid : ∀ {binding record}, ledger.record binding = some record → validateRecord record = .ok ()
  keyed : ∀ {binding record}, ledger.record binding = some record → record.binding = binding
  indexed : ∀ {binding record}, ledger.record binding = some record →
    ledger.session record.sessionID = some binding
  listed : ∀ {sessionID binding}, ledger.session sessionID = some binding →
    ∃ record, ledger.record binding = some record ∧ record.sessionID = sessionID

/-- A transaction wrote a record: it reserved a free session and a free binding, or it
moved the record of the binding one step on. -/
structure Wrote (ledger : Ledger) (record : Record) (ledger' : Ledger) : Prop where
  valid : validateRecord record = .ok ()
  record_eq : ledger'.record = update ledger.record record.binding (some record)
  session_eq : ledger'.session =
    update ledger.session record.sessionID (some record.binding)
  origin : (record.state = .prepared ∧ ledger.record record.binding = none ∧
      ledger.session record.sessionID = none) ∨
    ∃ old, ledger.record record.binding = some old ∧ old.Step record

section

variable {ledger ledger' : Ledger} {record : Record}

theorem consistent_empty : Consistent {} where
  valid h := nomatch h
  keyed h := nomatch h
  indexed h := nomatch h
  listed h := nomatch h

/-- The sessions of a consistent ledger stand for its bindings one to one. -/
theorem Consistent.session_inj (h : ledger.Consistent) {first second binding : Digest}
    (hfirst : ledger.session first = some binding)
    (hsecond : ledger.session second = some binding) : first = second := by
  obtain ⟨record, hrecord, rfl⟩ := h.listed hfirst
  obtain ⟨record', hrecord', rfl⟩ := h.listed hsecond
  obtain rfl := Option.some.inj (hrecord.symm.trans hrecord')
  rfl

theorem Consistent.recordBySession_ok (h : ledger.Consistent) {sessionID : Digest}
    (hfound : ledger.recordBySession sessionID = .ok record) :
    ledger.record record.binding = some record ∧ record.sessionID = sessionID ∧
      ledger.session sessionID = some record.binding := by
  simp only [recordBySession, bind_ok_iff, require_ok_iff, decodeRecord_ok_iff, revertIf_ok_iff,
    exists_const, pure_ok_iff, not_not] at hfound
  obtain ⟨binding, hsession, encoded, hrecord, _, ⟨-, rfl⟩, hid, rfl⟩ := hfound
  obtain rfl := h.keyed hrecord
  exact ⟨hrecord, hid, hsession⟩

/-- What a transaction writes in a consistent ledger leaves it consistent. -/
theorem Wrote.consistent (hwrote : ledger.Wrote record ledger') (h : ledger.Consistent) :
    ledger'.Consistent := by
  have hrecord (binding : Digest) (found : Record) (hfound : ledger'.record binding = some found) :
      (binding = record.binding ∧ found = record) ∨
        (binding ≠ record.binding ∧ ledger.record binding = some found) := by
    rw [hwrote.record_eq] at hfound
    by_cases hbinding : binding = record.binding
    · subst hbinding
      rw [update_self] at hfound
      exact .inl ⟨rfl, (Option.some.inj hfound).symm⟩
    · rw [update_of_ne hbinding] at hfound
      exact .inr ⟨hbinding, hfound⟩
  -- a session other than the one written stands for a binding other than the one written
  have hother {binding : Digest} {found : Record} (hbinding : binding ≠ record.binding)
      (hfound : ledger.record binding = some found) : found.sessionID ≠ record.sessionID := by
    intro hsame
    have hindexed := h.indexed hfound
    rw [hsame] at hindexed
    rcases hwrote.origin with ⟨-, -, hfree⟩ | ⟨old, hold, hstep⟩
    · rw [hfree] at hindexed
      exact nomatch hindexed
    · have hold' := h.indexed hold
      rw [← hstep.sessionID, hindexed] at hold'
      exact hbinding (Option.some.inj hold')
  constructor
  case valid =>
    intro binding found hfound
    rcases hrecord binding found hfound with ⟨-, rfl⟩ | ⟨-, hfound⟩
    · exact hwrote.valid
    · exact h.valid hfound
  case keyed =>
    intro binding found hfound
    rcases hrecord binding found hfound with ⟨rfl, rfl⟩ | ⟨-, hfound⟩
    · rfl
    · exact h.keyed hfound
  case indexed =>
    intro binding found hfound
    rw [hwrote.session_eq]
    rcases hrecord binding found hfound with ⟨rfl, rfl⟩ | ⟨hbinding, hfound⟩
    · exact update_self ..
    · rw [update_of_ne (hother hbinding hfound)]
      exact h.indexed hfound
  case listed =>
    intro sessionID binding hsession
    rw [hwrote.session_eq] at hsession
    rw [hwrote.record_eq]
    by_cases hid : sessionID = record.sessionID
    · subst hid
      rw [update_self] at hsession
      obtain rfl := Option.some.inj hsession
      exact ⟨record, update_self .., rfl⟩
    · rw [update_of_ne hid] at hsession
      obtain ⟨found, hfound, rfl⟩ := h.listed hsession
      have hbinding : binding ≠ record.binding := by
        rintro rfl
        rcases hwrote.origin with ⟨-, hfree, -⟩ | ⟨old, hold, hstep⟩
        · rw [hfree] at hfound
          exact nomatch hfound
        · obtain rfl := Option.some.inj (hold.symm.trans hfound)
          exact hid hstep.sessionID.symm
      exact ⟨found, by rw [update_of_ne hbinding, hfound], rfl⟩

end

/-! ## The transactions -/

/-- A transaction of the ledger. -/
inductive Call
  | prepare (descriptor : Descriptor)
  | commit (sessionID : Digest)
  | markGenerated (sessionID responseDigest : Digest)
  | markReleased (sessionID : Digest)
  | markAcked (sessionID : Digest)
  | abortPrepared (sessionID : Digest)
  | failTerminal (sessionID : Digest) (code : FailureCode)

def Call.exec (now : ℤ) (ledger : Ledger) : Call → Except StoreError (Record × Ledger)
  | .prepare descriptor => Ledger.prepare descriptor now ledger
  | .commit sessionID => Ledger.commit sessionID now ledger
  | .markGenerated sessionID responseDigest =>
      Ledger.markGenerated sessionID responseDigest now ledger
  | .markReleased sessionID => Ledger.markReleased sessionID now ledger
  | .markAcked sessionID => Ledger.markAcked sessionID now ledger
  | .abortPrepared sessionID => Ledger.abortPrepared sessionID now ledger
  | .failTerminal sessionID code => Ledger.failTerminal sessionID code now ledger

/-- The record that a transaction asks for. -/
def Call.Asks (record : Record) : Call → Prop
  | .prepare descriptor => record.state = .prepared ∧ record.sessionID = descriptor.sessionID ∧
      record.binding = descriptor.binding ∧ record.coalitionDigest = descriptor.coalitionDigest
  | .commit sessionID => record.state = .committed ∧ record.sessionID = sessionID
  | .markGenerated sessionID responseDigest => record.state = .generated ∧
      record.sessionID = sessionID ∧ record.responseDigest = responseDigest
  | .markReleased sessionID => record.state = .released ∧ record.sessionID = sessionID
  | .markAcked sessionID => record.state = .acked ∧ record.sessionID = sessionID
  | .abortPrepared sessionID => record.state = .abortedPrestart ∧ record.sessionID = sessionID
  | .failTerminal sessionID _ => record.state = .failedTerminal ∧ record.sessionID = sessionID

section

variable {ledger ledger' : Ledger} {record : Record} {sessionID : Digest} {now : ℤ}
  {change : Record → Except StoreError Record}

theorem prepare_ok {descriptor : Descriptor}
    (hcall : prepare descriptor now ledger = .ok (record, ledger')) :
    ledger.Wrote record ledger' ∧ (Call.prepare descriptor).Asks record := by
  simp only [prepare, encodeRecord_ok_iff, bind_ok_iff, revertIf_ok_iff, exists_const,
    pure_ok_iff, Bool.not_eq_true, Option.isSome_eq_false_iff, Option.isNone_iff_eq_none] at hcall
  obtain ⟨_, -, hsession, hbinding, _, ⟨hvalid, rfl⟩, heq⟩ := hcall
  obtain ⟨rfl, rfl⟩ := Prod.mk.inj heq
  refine ⟨⟨hvalid, record_put .., ?_, .inl ⟨rfl, hbinding, hsession⟩⟩, rfl, rfl, rfl, rfl⟩
  funext key
  by_cases hkey : key = descriptor.sessionID
  · subst hkey
    rw [update_self]
    exact AList.lookup_insert _
  · rw [update_of_ne hkey]
    exact AList.lookup_insert_ne hkey

/-- A change that is a step of the record is written over it. -/
theorem mutate_ok (h : ledger.Consistent)
    (hcall : mutate sessionID change now ledger = .ok (record, ledger'))
    (hchange : ∀ old changed, change old = .ok changed → old.Step changed) :
    ledger.Wrote record ledger' ∧ record.sessionID = sessionID ∧
      ∃ old changed, change old = .ok changed ∧ record = { changed with
        updatedAtUnixNano := timestampAtLeast now changed.updatedAtUnixNano } := by
  simp only [mutate, encodeRecord_ok_iff, bind_ok_iff, revertIf_ok_iff, exists_const,
    pure_ok_iff] at hcall
  obtain ⟨-, old, hfound, changed, hchanged, _, ⟨hvalid, rfl⟩, heq⟩ := hcall
  obtain ⟨rfl, rfl⟩ := Prod.mk.inj heq
  obtain ⟨hrecord, hid, hsession⟩ := h.recordBySession_ok hfound
  have hstep := hchange old changed hchanged
  have hbinding : changed.binding = old.binding := hstep.binding
  have hchangedID : changed.sessionID = sessionID := hstep.sessionID.trans hid
  refine ⟨⟨hvalid, record_put .., ?_, .inr ⟨old, ?_, ?_⟩⟩, hchangedID, old, changed, hchanged,
    rfl⟩
  · show ledger.session =
      update ledger.session changed.sessionID (some changed.binding)
    rw [hchangedID, hbinding, ← hsession, Function.update_eq_self]
  · show ledger.record changed.binding = some old
    rw [hbinding, hrecord]
  · exact ⟨hstep.sessionID, hstep.binding, hstep.coalitionDigest, hstep.edge,
      hstep.responseDigest⟩

theorem transition_ok {source target : State} {apply : Record → Record} (h : ledger.Consistent)
    (hcall : transition sessionID source target apply now ledger = .ok (record, ledger'))
    (hstep : ∀ old : Record, old.state = source →
      old.Step (apply { old with state := target })) :
    ledger.Wrote record ledger' ∧ record.sessionID = sessionID ∧ ∃ old : Record,
      record = { apply { old with state := target } with
        updatedAtUnixNano := timestampAtLeast now
          (apply { old with state := target }).updatedAtUnixNano } := by
  have hchange (old changed : Record)
      (hchanged : (do
        revertIf (old.state ≠ source) (transitionError old target)
        pure (apply { old with state := target }) : Except StoreError Record) = .ok changed) :
      old.state = source ∧ apply { old with state := target } = changed := by
    simpa only [bind_ok_iff, revertIf_ok_iff, exists_const, pure_ok_iff, not_not] using hchanged
  obtain ⟨hwrote, hid, old, changed, hchanged, hrecord⟩ := mutate_ok h hcall (by
    intro old changed hchanged
    obtain ⟨hsource, rfl⟩ := hchange old changed hchanged
    exact hstep old hsource)
  obtain ⟨-, rfl⟩ := hchange old changed hchanged
  exact ⟨hwrote, hid, old, hrecord⟩

/-- What a transaction does. -/
theorem Call.exec_ok {call : Call} (h : ledger.Consistent)
    (hcall : call.exec now ledger = .ok (record, ledger')) :
    ledger.Wrote record ledger' ∧ call.Asks record := by
  cases call with
  | prepare descriptor => exact prepare_ok hcall
  | commit sessionID =>
      obtain ⟨hwrote, hid, old, rfl⟩ := transition_ok h hcall fun old hsource =>
        ⟨rfl, rfl, rfl, hsource ▸ .commit, .inr rfl⟩
      exact ⟨hwrote, rfl, hid⟩
  | markGenerated sessionID responseDigest =>
      simp only [exec, Ledger.markGenerated, bind_ok_iff, revertIf_ok_iff, exists_const] at hcall
      obtain ⟨hwrote, hid, old, rfl⟩ := transition_ok h hcall.2 fun old hsource =>
        ⟨rfl, rfl, rfl, hsource ▸ .generate, .inl rfl⟩
      exact ⟨hwrote, rfl, hid, rfl⟩
  | markReleased sessionID =>
      obtain ⟨hwrote, hid, old, rfl⟩ := transition_ok h hcall fun old hsource =>
        ⟨rfl, rfl, rfl, hsource ▸ .release, .inr rfl⟩
      exact ⟨hwrote, rfl, hid⟩
  | markAcked sessionID =>
      obtain ⟨hwrote, hid, old, rfl⟩ := transition_ok h hcall fun old hsource =>
        ⟨rfl, rfl, rfl, hsource ▸ .ack, .inr rfl⟩
      exact ⟨hwrote, rfl, hid⟩
  | abortPrepared sessionID =>
      simp only [exec, Ledger.abortPrepared] at hcall
      obtain ⟨hwrote, hid, old, rfl⟩ := transition_ok h hcall fun old hsource =>
        ⟨rfl, rfl, rfl, hsource ▸ .abort, .inr rfl⟩
      exact ⟨hwrote, rfl, hid⟩
  | failTerminal sessionID code =>
      have hchange (old changed : Record)
          (hchanged : (do
            revertIf (¬ old.state.InFlight) (transitionError old .failedTerminal)
            pure { old with state := .failedTerminal, failureCode := code } :
              Except StoreError Record) = .ok changed) :
          old.state.InFlight ∧
            { old with state := .failedTerminal, failureCode := code } = changed := by
        simpa only [bind_ok_iff, revertIf_ok_iff, exists_const, pure_ok_iff, not_not]
          using hchanged
      simp only [exec, Ledger.failTerminal, bind_ok_iff, revertIf_ok_iff, exists_const] at hcall
      obtain ⟨hwrote, hid, old, changed, hchanged, rfl⟩ := mutate_ok h hcall.2 (by
        intro old changed hchanged
        obtain ⟨hflight, rfl⟩ := hchange old changed hchanged
        exact ⟨rfl, rfl, rfl, .fail hflight, .inr rfl⟩)
      obtain ⟨-, rfl⟩ := hchange old changed hchanged
      exact ⟨hwrote, rfl, hid⟩

end

/-! ## Opening -/

section

variable {ledger : Ledger} {clock : Digest → ℤ}

theorem mem_entries_iff {binding : Digest} {record : Record} :
    (⟨binding, record⟩ : Sigma fun _ : Digest => Record) ∈ ledger.bindings.entries ↔
      ledger.record binding = some record :=
  AList.mem_lookup_iff.symm

/-- The first loop keeps the entries that are in flight, settled. -/
theorem Consistent.recoveries_ok (h : ledger.Consistent) (clock : Digest → ℤ)
    {entries : List (Sigma fun _ : Digest => Record)}
    (hentries : ∀ entry ∈ entries, ledger.record entry.1 = some entry.2) :
    ledger.recoveries clock entries = .ok ((entries.filter fun entry =>
      decide entry.2.state.InFlight).map fun entry =>
        (entry.1, recovered (clock entry.1) entry.2)) := by
  induction entries with
  | nil => rfl
  | cons entry rest ih =>
      obtain ⟨key, value⟩ := entry
      have hvalue := hentries ⟨key, value⟩ List.mem_cons_self
      have hcheck : ledger.checkBinding key value = .ok value := by
        simp only [checkBinding, decodeRecord_ok_iff, bind_ok_iff, revertIf_ok_iff, exists_const,
          pure_ok_iff, not_not]
        exact ⟨value, ⟨h.valid hvalue, rfl⟩, h.keyed hvalue,
          (h.indexed hvalue).trans (congrArg some (h.keyed hvalue).symm), rfl⟩
      rw [recoveries, hcheck,
        ih fun entry hentry => hentries entry (List.mem_cons_of_mem _ hentry), List.filter_cons]
      by_cases hflight : value.state.InFlight
      · rw [if_pos (decide_eq_true hflight)]
        show Except.ok (if value.state.InFlight then _ else _) = _
        rw [if_pos hflight, List.map_cons]
      · rw [if_neg (by rwa [decide_eq_true_iff])]
        show Except.ok (if value.state.InFlight then _ else _) = _
        rw [if_neg hflight]

theorem Consistent.checkSessions_ok (h : ledger.Consistent)
    {entries : List (Sigma fun _ : Digest => Digest)}
    (hentries : ∀ entry ∈ entries, ledger.session entry.1 = some entry.2) :
    ledger.checkSessions entries = .ok () := by
  induction entries with
  | nil => rfl
  | cons entry rest ih =>
      obtain ⟨sessionID, binding⟩ := entry
      obtain ⟨record, hrecord, hid⟩ :=
        h.listed (hentries ⟨sessionID, binding⟩ List.mem_cons_self)
      simp only [checkSessions, bind_ok_iff, require_ok_iff, decodeRecord_ok_iff, revertIf_ok_iff,
        exists_const, not_not]
      exact ⟨record, hrecord, record, ⟨h.valid hrecord, rfl⟩, hid,
        ih fun entry hentry => hentries entry (List.mem_cons_of_mem _ hentry)⟩

/-- Rewriting entries that agree on each binding leaves the others as they are. -/
theorem rewrite_ok (ledger : Ledger) (target : Digest → Option Record)
    {items : List (Digest × Record)}
    (hvalid : ∀ item ∈ items, validateRecord item.2 = .ok ())
    (htarget : ∀ item ∈ items, target item.1 = some item.2) :
    ∃ ledger', ledger.rewrite items = .ok ledger' ∧ ledger'.session = ledger.session ∧
      ∀ binding, ledger'.record binding =
        if binding ∈ items.map Prod.fst then target binding else ledger.record binding := by
  induction items generalizing ledger with
  | nil => exact ⟨ledger, rfl, rfl, fun binding => rfl⟩
  | cons item rest ih =>
      obtain ⟨key, record⟩ := item
      obtain ⟨ledger', hrewrite, hsession, hrecord⟩ := ih (ledger.put key record)
        (fun item hitem => hvalid item (List.mem_cons_of_mem _ hitem))
        (fun item hitem => htarget item (List.mem_cons_of_mem _ hitem))
      have hencode : encodeRecord record = .ok record :=
        encodeRecord_ok_iff.mpr ⟨hvalid _ List.mem_cons_self, rfl⟩
      refine ⟨ledger', ?_, hsession, ?_⟩
      · rw [rewrite, hencode]
        exact hrewrite
      · intro binding
        rw [hrecord, record_put, List.map_cons]
        by_cases hlater : binding ∈ rest.map Prod.fst
        · rw [if_pos hlater, if_pos (List.mem_cons_of_mem _ hlater)]
        · rw [if_neg hlater]
          by_cases hkey : binding = key
          · subst hkey
            rw [if_pos List.mem_cons_self, update_self]
            exact (htarget _ List.mem_cons_self).symm
          · rw [if_neg fun hmem => (List.mem_cons.mp hmem).elim hkey hlater,
              update_of_ne hkey]

/-- **Opening.** A consistent ledger opens, its sessions stay, and every record in flight is
settled. -/
theorem Consistent.initializeAndRecover_ok (h : ledger.Consistent) (clock : Digest → ℤ) :
    ∃ ledger', ledger.initializeAndRecover clock = .ok ledger' ∧
      ledger'.session = ledger.session ∧
      ∀ binding, ledger'.record binding =
        (ledger.record binding).map (recovered (clock binding)) := by
  have hrecoveries := h.recoveries_ok clock
    fun entry hentry => mem_entries_iff.mp hentry
  have hsessions := h.checkSessions_ok fun entry hentry => AList.mem_lookup_iff.mpr hentry
  have hitem (item : Digest × Record) (hmem : item ∈ (ledger.bindings.entries.filter fun entry =>
      decide entry.2.state.InFlight).map fun entry =>
        (entry.1, recovered (clock entry.1) entry.2)) :
      ∃ record, ledger.record item.1 = some record ∧ record.state.InFlight ∧
        item.2 = recovered (clock item.1) record := by
    obtain ⟨⟨key, record⟩, hentry, rfl⟩ := List.mem_map.mp hmem
    obtain ⟨hentry, hflight⟩ := List.mem_filter.mp hentry
    exact ⟨record, mem_entries_iff.mp hentry, of_decide_eq_true hflight, rfl⟩
  obtain ⟨ledger', hrewrite, hsession, hrecord⟩ := ledger.rewrite_ok
    (fun binding => (ledger.record binding).map (recovered (clock binding)))
    (fun item hmem => by
      obtain ⟨record, hfound, -, heq⟩ := hitem item hmem
      rw [heq]
      exact validateRecord_recovered _ (h.valid hfound))
    (fun item hmem => by
      obtain ⟨record, hfound, -, heq⟩ := hitem item hmem
      show (ledger.record item.1).map (recovered (clock item.1)) = some item.2
      rw [heq, hfound, Option.map_some])
  refine ⟨ledger', ?_, hsession, fun binding => ?_⟩
  · rw [initializeAndRecover, hrecoveries, hsessions]
    exact hrewrite
  · rw [hrecord]
    split
    · rfl
    · next hmem =>
        cases hfound : ledger.record binding with
        | none => rfl
        | some record =>
            have hflight : ¬ record.state.InFlight := by
              intro hflight
              refine hmem (List.mem_map.mpr ⟨(binding, recovered (clock binding) record), ?_, rfl⟩)
              exact List.mem_map.mpr ⟨⟨binding, record⟩, List.mem_filter.mpr
                ⟨mem_entries_iff.mpr hfound, decide_eq_true hflight⟩, rfl⟩
            rw [Option.map_some, recovered, if_neg hflight]

/-- What recovery leaves is consistent. -/
theorem Consistent.recovered {ledger' : Ledger} (h : ledger.Consistent)
    (hsession : ledger'.session = ledger.session)
    (hrecord : ∀ binding, ledger'.record binding =
      (ledger.record binding).map (Ledger.recovered (clock binding))) : ledger'.Consistent := by
  have hold (binding : Digest) (record : Record) (hfound : ledger'.record binding = some record) :
      ∃ old, ledger.record binding = some old ∧ old.Follows record ∧
        validateRecord record = .ok () := by
    rw [hrecord, Option.map_eq_some_iff] at hfound
    obtain ⟨old, hfound, rfl⟩ := hfound
    exact ⟨old, hfound, old.follows_recovered _,
      validateRecord_recovered _ (h.valid hfound)⟩
  constructor
  case valid =>
    intro binding record hfound
    obtain ⟨old, -, -, hvalid⟩ := hold binding record hfound
    exact hvalid
  case keyed =>
    intro binding record hfound
    obtain ⟨old, hfound, hfollows, -⟩ := hold binding record hfound
    exact hfollows.identity.2.1.trans (h.keyed hfound)
  case indexed =>
    intro binding record hfound
    obtain ⟨old, hfound, hfollows, -⟩ := hold binding record hfound
    rw [hsession, hfollows.identity.1]
    exact h.indexed hfound
  case listed =>
    intro sessionID binding hlisted
    rw [hsession] at hlisted
    obtain ⟨old, hfound, rfl⟩ := h.listed hlisted
    refine ⟨Ledger.recovered (clock binding) old, ?_, (old.follows_recovered _).identity.1⟩
    rw [hrecord, hfound, Option.map_some]

end

/-! ## Later ledgers -/

/-- In a later ledger every session has the binding it had, and every record follows the
one that stood there. -/
structure Extends (ledger ledger' : Ledger) : Prop where
  session : ∀ {sessionID binding}, ledger.session sessionID = some binding →
    ledger'.session sessionID = some binding
  record : ∀ {binding record}, ledger.record binding = some record →
    ∃ record', ledger'.record binding = some record' ∧ record.Follows record'

section

variable {ledger ledger' ledger'' : Ledger} {record : Record}

theorem Extends.refl (ledger : Ledger) : ledger.Extends ledger where
  session h := h
  record {_ record} h := ⟨record, h, .refl record⟩

theorem Extends.trans (h : ledger.Extends ledger') (h' : ledger'.Extends ledger'') :
    ledger.Extends ledger'' where
  session hsession := h'.session (h.session hsession)
  record hrecord := by
    obtain ⟨record', hrecord', hfollows⟩ := h.record hrecord
    obtain ⟨record'', hrecord'', hfollows'⟩ := h'.record hrecord'
    exact ⟨record'', hrecord'', hfollows.trans hfollows'⟩

theorem Wrote.extends (hwrote : ledger.Wrote record ledger') (h : ledger.Consistent) :
    ledger.Extends ledger' := by
  constructor
  case session =>
    intro sessionID binding hsession
    rw [hwrote.session_eq]
    by_cases hid : sessionID = record.sessionID
    · subst hid
      rw [update_self]
      rcases hwrote.origin with ⟨-, -, hfree⟩ | ⟨old, hold, hstep⟩
      · rw [hfree] at hsession
        exact nomatch hsession
      · rw [hstep.sessionID, h.indexed hold] at hsession
        exact hsession
    · rw [update_of_ne hid]
      exact hsession
  case record =>
    intro binding found hfound
    rw [hwrote.record_eq]
    by_cases hbinding : binding = record.binding
    · subst hbinding
      rw [update_self]
      rcases hwrote.origin with ⟨-, hfree, -⟩ | ⟨old, hold, hstep⟩
      · rw [hfree] at hfound
        exact nomatch hfound
      · obtain rfl := Option.some.inj (hold.symm.trans hfound)
        exact ⟨record, rfl, hstep.follows⟩
    · rw [update_of_ne hbinding]
      exact ⟨found, hfound, .refl found⟩

/-- What a transaction wrote stands in the ledger. -/
theorem Wrote.record_self (hwrote : ledger.Wrote record ledger') :
    ledger'.record record.binding = some record := by
  rw [hwrote.record_eq, update_self]

/-- Opening loses nothing. -/
theorem Extends.of_recovered {clock : Digest → ℤ} (hsession : ledger'.session = ledger.session)
    (hrecord : ∀ binding, ledger'.record binding =
      (ledger.record binding).map (recovered (clock binding))) : ledger.Extends ledger' where
  session h := by
    rw [hsession]
    exact h
  record {binding found} h := by
    refine ⟨recovered (clock binding) found, ?_, found.follows_recovered _⟩
    rw [hrecord, h, Option.map_some]

end

end Ledger

end Mordant.ThresholdNet
