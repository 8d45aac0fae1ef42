/-
# What operators and coordinators do

Operators perform every transaction, generation and answer with the knowledge that the
world needs to stay sound, and coordinators send an acknowledgement only after they have
journaled both responses.  So every world that parties can reach is sound.
-/

import Mordant.ThresholdNet.History

namespace Mordant.ThresholdNet

open Evm Foundation
open Coalition (Digest ReleaseDescriptor Ciphertext ThresholdReleaseResponse)

variable {ι S : Type} [DecidableEq S]

/-- Parties rely on the others to keep the world sound and to leave their own part of the
history alone. -/
def discipline (network : Network S) (ι : Type) : Discipline (effects network ι) where
  knows := Knows network
  ready i w := w.Sound network ∧ ∀ event ∈ w.history, event.party ≠ i
  rely i := World.After network (· ≠ i)
  refl _ := .refl
  trans := .trans
  ready_rely {i s t} hready hrely := by
    refine ⟨hrely.sound hready.1, fun event hmem => ?_⟩
    obtain ⟨events, heq, hevents⟩ := hrely.history
    rw [heq] at hmem
    exact (List.mem_append.mp hmem).elim (hevents event) (hready.2 event)
  rely_act {i j op s} hij hknows := by
    refine (Op.act_after hknows).mono ?_
    rintro _ rfl
    exact hij.symm
  rely_lost _ := .refl _

section

variable {network : Network S} {i : ι} {w : World ι S} {server : S} {ε α : Type}
  {R : α → World ι S → Prop} {descriptor : ReleaseDescriptor}
  {f : Except StoreError Record → Program (Op S) Op.Answer ε α}

/-- Whoever acted. -/
abbrev World.Later (network : Network S) : World ι S → World ι S → Prop :=
  World.After network fun _ => True

omit [DecidableEq S] in
theorem World.After.later {acted : ι → Prop} {w' : World ι S} (h : w.After network acted w') :
    w.Later network w' :=
  h.mono fun _ _ => trivial

/-- The party has generated no share. -/
def Silent (i : ι) (w : World ι S) : Prop :=
  ∀ server descriptor, .generated i server descriptor ∉ w.history

omit [DecidableEq S] in
theorem Silent.rely {w' : World ι S} (h : Silent i w) (hrely : w.After network (· ≠ i) w') :
    Silent i w' := by
  intro server descriptor hmem
  obtain ⟨events, heq, hevents⟩ := hrely.history
  rw [heq] at hmem
  exact (List.mem_append.mp hmem).elim (fun hnew => hevents _ hnew rfl) (h server descriptor)

/-- The binding of the descriptor is reserved for it. -/
def Reserved (network : Network S) (server : S) (descriptor : ReleaseDescriptor)
    (w : World ι S) : Prop :=
  ∃ record, (w.ledgers server).record descriptor.protocolBinding = some record ∧
    Matches network.library descriptor record

omit [DecidableEq S] in
theorem Reserved.later {w' : World ι S} (h : Reserved network server descriptor w)
    (hsound : w.Sound network) (hlater : w.Later network w') :
    Reserved network server descriptor w' := by
  obtain ⟨record, hrecord, hmatches⟩ := h
  obtain ⟨record', hrecord', hfollows⟩ := (hlater.ledgers hsound server).record hrecord
  exact ⟨record', hrecord', hmatches.mono hfollows⟩

/-- A lookup finds what stands in the ledger. -/
theorem upholds_lookup {isOpen : Bool} {sessionID : Digest} (hsound : w.Sound network)
    (hnext : ∀ t answer, w.After network (· ≠ i) t → t.Sound network →
      (∀ record, answer = .ok record → (t.ledgers server).record record.binding = some record ∧
        record.sessionID = sessionID) →
      Upholds (discipline network ι) i (onOk R) (f answer) t) :
    Upholds (discipline network ι) i (onOk R) (lookup server isOpen sessionID >>= f) w := by
  apply upholds_ask_bind
  intro t ht
  refine ⟨trivial, hnext t _ ht (ht.sound hsound) fun record hanswer => ?_⟩
  have hget : (if isOpen then (t.ledgers server).get sessionID
      else .error ⟨some .databaseNotOpen, ""⟩) = .ok record := hanswer
  split at hget
  · simp only [Ledger.get, bind_ok_iff, revertIf_ok_iff, exists_const] at hget
    obtain ⟨hrecord, hid, -⟩ :=
      ((ht.sound hsound).consistent server).recordBySession_ok hget.2
    exact ⟨hrecord, hid⟩
  · cases hget

/-- A transaction that is justified whatever it writes, and writes what satisfies `P`. -/
theorem upholds_transact (P : Record → Prop) {tx : Tx} {call : Ledger.Call}
    (hsound : w.Sound network)
    (hknows : ∀ t : World ι S, w.After network (· ≠ i) t → t.Sound network →
      ∀ record ledger, (t.ledgers server).Wrote record ledger → call.Asks record →
        RecordJustified network t.history i server descriptor record ∧ P record)
    (hnext : ∀ t answer, w.Later network t → t.Sound network → (Silent i w → Silent i t) →
      (∀ record, answer = .ok record →
        .wrote i server descriptor record ∈ t.history ∧ call.Asks record ∧ P record) →
      Upholds (discipline network ι) i (onOk R) (f answer) t) :
    Upholds (discipline network ι) i (onOk R) (transact server tx descriptor call >>= f) w := by
  apply upholds_ask_bind
  intro t ht
  have htsound := ht.sound hsound
  have hact : Knows network i (.ledger server tx descriptor call) t :=
    fun record ledger hwrote hasks => (hknows t ht htsound record ledger hwrote hasks).1
  have hafter := Op.act_after hact
  refine ⟨hact, ?_⟩
  have hcases := t.transact_cases i server tx descriptor call
  show Upholds (discipline network ι) i (onOk R)
    (f (t.transact i server tx descriptor call).1) (t.transact i server tx descriptor call).2
  have hafter : t.After network (· = i) (t.transact i server tx descriptor call).2 := hafter
  apply hnext _ _ (ht.later.trans hafter.later) (hafter.sound htsound)
  · intro hsilent server' descriptor' hmem
    rcases hcases with ⟨error, heq⟩ | ⟨record, ledger, -, heq⟩ <;> rw [heq] at hmem
    · exact hsilent.rely ht _ _ hmem
    · rcases List.mem_cons.mp hmem with hnew | hold
      · exact nomatch hnew
      · exact hsilent.rely ht _ _ hold
  · intro record hanswer
    rcases hcases with ⟨error, heq⟩ | ⟨record', ledger, hexec, heq⟩
    · rw [heq] at hanswer
      exact nomatch hanswer
    · rw [heq] at hanswer ⊢
      obtain rfl := Except.ok.inj hanswer
      obtain ⟨hwrote, hasks⟩ := Ledger.Call.exec_ok (htsound.consistent server) hexec
      exact ⟨List.mem_cons_self, hasks, (hknows t ht htsound record' ledger hwrote hasks).2⟩

/-- A generation behind the barrier. -/
theorem upholds_generate {f : Unit → Program (Op S) Op.Answer ε α} (hsound : w.Sound network)
    (hsilent : Silent i w)
    (hcommitted : Event.Justified network w.history (.generated i server descriptor))
    (hnext : ∀ t : World ι S, w.Later network t → t.Sound network →
      .generated i server descriptor ∈ t.history →
      Upholds (discipline network ι) i (onOk R) (f ()) t) :
    Upholds (discipline network ι) i (onOk R) (generate server descriptor >>= f) w := by
  apply upholds_ask_bind
  intro t ht
  have hact : Knows network i (.generate server descriptor) t :=
    ⟨hcommitted.mono ht.subset, hsilent.rely ht⟩
  have hafter := Op.act_after hact
  exact ⟨hact, hnext _ (ht.later.trans hafter.later) (hafter.sound (ht.sound hsound))
    List.mem_cons_self⟩

end

/-! ## The operator -/

section

variable {network : Network S} {i : ι} {w : World ι S} {source : Source S} {server : S}
  {request : HttpRequest} {env : Env} {descriptor : ReleaseDescriptor} {ciphertext : Ciphertext}

omit [DecidableEq S] in
theorem authorize_ok {now : ℤ} {expected : Operation} {parsed : SignedRequest}
    (h : authorize network.library (network.servers server) request now expected =
      .ok (parsed, descriptor)) :
    request.asks = .ok (parsed, descriptor) ∧ parsed.operation = expected := by
  simp only [authorize, bind_ok_iff, revertIf_ok_iff, exists_const, mapError_ok_iff, pure_ok_iff,
    not_or, not_not] at h
  obtain ⟨-, -, -, parsed', hparsed, ⟨hoperation, -⟩, descriptor', hdescriptor, -, heq⟩ := h
  obtain ⟨rfl, rfl⟩ := Prod.mk.inj heq
  refine ⟨?_, hoperation⟩
  simp only [HttpRequest.asks, bind_ok_iff, pure_ok_iff]
  exact ⟨parsed', hparsed, descriptor', hdescriptor, rfl⟩

omit [DecidableEq S] in
theorem validated_ok {expected : Operation}
    (h : validated network server request env expected = .ok (descriptor, ciphertext)) :
    network.Accepts server descriptor ∧ ∃ parsed, request.asks = .ok (parsed, descriptor) := by
  simp only [validated, authorizeRelease, bind_ok_iff, revertIf_ok_iff, exists_const,
    mapError_ok_iff, pure_ok_iff] at h
  obtain ⟨⟨descriptor', ciphertext'⟩, ⟨⟨parsed, authorized⟩, hauthorize, -, _, -, heq⟩, _,
    hvalid, heq'⟩ := h
  obtain ⟨rfl, rfl⟩ := Prod.mk.inj heq
  obtain ⟨rfl, rfl⟩ := Prod.mk.inj heq'
  exact ⟨⟨_, hvalid⟩, parsed, (authorize_ok hauthorize).1⟩

omit [DecidableEq S] in
/-- What is written for the session of a record is the next step of that record. -/
theorem World.Sound.step_of_wrote {binding : Digest} {current record : Record} {ledger : Ledger}
    (hsound : w.Sound network) (hcurrent : (w.ledgers server).record binding = some current)
    (hwrote : (w.ledgers server).Wrote record ledger)
    (hid : record.sessionID = current.sessionID) :
    record.binding = binding ∧ current.Step record := by
  have hconsistent := hsound.consistent server
  have hindexed := hconsistent.indexed hcurrent
  rw [← hid] at hindexed
  rcases hwrote.origin with ⟨-, -, hfree⟩ | ⟨old, hold, hstep⟩
  · rw [hfree] at hindexed
    exact nomatch hindexed
  · have hsame := hconsistent.indexed hold
    rw [← hstep.sessionID, hindexed] at hsame
    have hbinding := Option.some.inj hsame
    rw [← hbinding] at hold
    obtain rfl := Option.some.inj (hcurrent.symm.trans hold)
    exact ⟨hbinding.symm, hstep⟩

omit [DecidableEq S] in
/-- What is written for the session of a reservation moves its record on. -/
theorem Reserved.wrote {record : Record} {ledger : Ledger}
    (h : Reserved network server descriptor w) (hsound : w.Sound network)
    (hwrote : (w.ledgers server).Wrote record ledger)
    (hid : record.sessionID = descriptor.sessionID) :
    record.binding = descriptor.protocolBinding ∧
      ∃ old, (w.ledgers server).record descriptor.protocolBinding = some old ∧
        old.Step record ∧ Matches network.library descriptor old := by
  obtain ⟨old, hold, hmatches⟩ := h
  obtain ⟨hbinding, hstep⟩ :=
    hsound.step_of_wrote hold hwrote (hid.trans hmatches.sessionID.symm)
  exact ⟨hbinding, old, hold, hstep, hmatches⟩

/-- What a handler answers is justified and for what it was asked. -/
def Answers (network : Network S) (i : ι) (source : Source S) (server : S)
    (request : HttpRequest) (response : Response) (w : World ι S) : Prop :=
  Event.Justified network w.history (.answered i source server response) ∧
    ∀ descriptor, response.carries = some descriptor →
      ∃ parsed, request.asks = .ok (parsed, descriptor)

omit [DecidableEq S] in
/-- An answer without a body. -/
theorem answers_empty {status : ℕ} : Answers network i source server request { status } w :=
  ⟨⟨(fun _ h => nomatch h), fun _ hdelivers => hdelivers.2.2 rfl⟩, fun _ h => nomatch h⟩

theorem upholds_handlePrepare (hsound : w.Sound network) :
    Upholds (discipline network ι) i (onOk (Answers network i source server request))
      (handlePrepare network server request env) w := by
  apply upholds_lift_bind
  rintro ⟨descriptor, ciphertext⟩ hvalid
  obtain ⟨haccepts, -⟩ := validated_ok hvalid
  apply Upholds.andThen (P := fun _ _ => True)
  · apply upholds_transact (fun _ => True) hsound
    · rintro t - - record ledger - ⟨hstate, hsession, hbinding, hcoalition⟩
      simp only [RecordJustified, hstate]
      exact ⟨⟨haccepts, hsession, hbinding, hcoalition⟩, trivial⟩
    · intro t answer _ _ _ _ u _ a _
      trivial
  · rintro _ t - u - response hresponse
    obtain rfl := Except.ok.inj hresponse
    exact answers_empty

/-- Where something failed behind the barrier, the record is closed and the request refused. -/
theorem upholds_settle {α β : Type} {R : β → World ι S → Prop} {x : Option α}
    {f : α → Handler S β} {tx : Tx} {code : FailureCode} {refusal : Refusal}
    (hsound : w.Sound network)
    (hnext : ∀ a, x = some a → Upholds (discipline network ι) i (onOk R) (f a) w) :
    Upholds (discipline network ι) i (onOk R)
      (settle server tx descriptor code refusal x >>= f) w := by
  cases x with
  | some a => exact hnext a rfl
  | none =>
      show Upholds (discipline network ι) i (onOk R)
        (transact server tx descriptor (.failTerminal descriptor.sessionID code) >>= fun _ =>
          Program.lift (.error refusal) >>= f) w
      apply upholds_transact (fun _ => True) hsound
      · rintro t - - record ledger - ⟨hstate, -⟩
        simp only [RecordJustified, hstate, and_self]
      · intro t answer _ _ _ _
        exact upholds_lift_bind fun _ h => nomatch h

/-- Behind the barrier a share is generated, its digest recorded and released, and only then
answered. -/
theorem upholds_generateAndRelease (hsound : w.Sound network) (hsilent : Silent i w)
    (hcommitted : Event.Justified network w.history (.generated i server descriptor))
    (hreserved : Reserved network server descriptor w)
    (hasks : ∃ parsed, request.asks = .ok (parsed, descriptor)) :
    Upholds (discipline network ι) i (onOk (Answers network i source server request))
      (generateAndRelease network server env descriptor ciphertext) w := by
  apply upholds_generate hsound hsilent hcommitted
  intro t ht htsound hgenerated
  refine upholds_settle htsound fun response _ => upholds_settle htsound fun wire _ => ?_
  have htreserved := hreserved.later hsound ht
  apply upholds_transact (fun record => record.binding = descriptor.protocolBinding) htsound
  · rintro u hu husound record ledger hwrote ⟨hstate, hid, -⟩
    obtain ⟨hbinding, -⟩ := (htreserved.later htsound hu.later).wrote husound hwrote hid
    simp only [RecordJustified, hstate]
    exact ⟨⟨hu.subset hgenerated, hbinding⟩, hbinding⟩
  intro u generated hu husound _ hwritten
  have hureserved := htreserved.later htsound hu
  refine upholds_settle husound fun marked hmarked => ?_
  obtain ⟨hmarked, ⟨hmarkedState, -, hdigest⟩, hmarkedBinding⟩ :=
    hwritten marked (toOption_eq_some_iff.mp hmarked)
  -- what is released follows what was marked, so its digest is the one of this response
  apply upholds_transact marked.Follows husound
  · rintro v hv hvsound record ledger hwrote ⟨hstate, hid⟩
    obtain ⟨-, old, hold, hstep, -⟩ :=
      (hureserved.later husound hv.later).wrote hvsound hwrote hid
    obtain ⟨current, hcurrent, hfollows⟩ := hvsound.recorded (hv.subset hmarked)
    rw [hmarkedBinding, hold] at hcurrent
    obtain rfl := Option.some.inj hcurrent
    have hreleased := hfollows.trans hstep.follows
    simp only [RecordJustified, hstate]
    exact ⟨⟨marked, hv.subset hmarked, hmarkedState, hreleased⟩, hreleased⟩
  intro v released hv hvsound _ hwritten
  refine upholds_settle hvsound fun record hrecord => ?_
  obtain ⟨hrecord, ⟨hstate, -⟩, hfollows⟩ := hwritten record (toOption_eq_some_iff.mp hrecord)
  intro x hx response hresponse
  obtain rfl := Except.ok.inj hresponse
  have hreleasedDigest : record.responseDigest = network.library.sha256 wire := by
    rw [hfollows.responseDigest (by rw [hmarkedState]; exact le_rfl), hdigest]
  refine ⟨⟨fun asked hcarries => ?_, fun hnone => nomatch hnone⟩, fun asked hcarries => ?_⟩
  · obtain rfl := Option.some.inj hcarries
    exact ⟨hx.subset (hv.subset (hu.subset hgenerated)), record, hx.subset hrecord, hstate,
      hfollows.identity.2.1.trans hmarkedBinding, hreleasedDigest⟩
  · obtain rfl := Option.some.inj hcarries
    exact hasks

theorem upholds_handleCommit (hsound : w.Sound network) (hsilent : Silent i w) :
    Upholds (discipline network ι) i (onOk (Answers network i source server request))
      (handleCommit network server request env) w := by
  apply upholds_lift_bind
  rintro ⟨descriptor, ciphertext⟩ hvalid
  obtain ⟨haccepts, hasks⟩ := validated_ok hvalid
  apply upholds_lookup hsound
  intro t answer ht htsound hfound
  refine upholds_lift_bind fun found hanswer => upholds_lift_bind fun _ hchecks => ?_
  obtain ⟨hrecord, hid⟩ := hfound found (mapError_ok_iff.mp hanswer)
  simp only [revertIf_ok_iff, not_or, not_not] at hchecks
  obtain ⟨hbinding, hcoalition, -⟩ := hchecks
  have hreserved : Reserved network server descriptor t :=
    ⟨found, hbinding ▸ hrecord, hid, hbinding, hcoalition⟩
  apply Upholds.andThen (P := fun _ u => u.Sound network ∧ Silent i u ∧
    Reserved network server descriptor u ∧
      Event.Justified network u.history (.generated i server descriptor))
  · apply upholds_transact (Matches network.library descriptor) htsound
    · rintro u hu husound record ledger hwrote ⟨hstate, hid⟩
      obtain ⟨-, old, hold, hstep, hmatches⟩ :=
        (hreserved.later htsound hu.later).wrote husound hwrote hid
      obtain ⟨j, reserving, first, hfirst, hprepared, hfollows⟩ := husound.reserved hold
      have hmatches := hmatches.mono hstep.follows
      simp only [RecordJustified, hstate]
      exact ⟨⟨haccepts, hmatches, j, reserving, first, hfirst, hprepared,
        hfollows.trans hstep.follows⟩, hmatches⟩
    · intro u answer hu husound hstillSilent hwritten v hv committed hcommitted
      obtain ⟨hmem, ⟨hstate, -⟩, hmatches⟩ := hwritten committed (mapError_ok_iff.mp hcommitted)
      exact ⟨hv.sound husound, (hstillSilent (hsilent.rely ht)).rely hv,
        (hreserved.later htsound hu).later husound hv.later, committed, hv.subset hmem, hstate,
        hmatches⟩
  · rintro _ u ⟨husound, husilent, hureserved, hucommitted⟩
    exact upholds_generateAndRelease husound husilent hucommitted hureserved hasks

theorem upholds_handleAck (hsound : w.Sound network)
    (hjournaled : network.Unforgeable → ∀ parsed descriptor,
      authorizeAck network.library (network.servers server) request env.now =
        .ok (parsed, descriptor) →
      Journaled network server descriptor.protocolBinding parsed.responseDigest w.history) :
    Upholds (discipline network ι) i (onOk (Answers network i source server request))
      (handleAck network server request env) w := by
  apply upholds_lift_bind
  rintro ⟨parsed, descriptor⟩ hauthorize
  apply upholds_lookup hsound
  intro t answer ht htsound hfound
  refine upholds_lift_bind fun found hanswer => upholds_lift_bind fun _ hchecks => ?_
  obtain ⟨hrecord, hid⟩ := hfound found (mapError_ok_iff.mp hanswer)
  simp only [revertIf_ok_iff, not_or, not_not] at hchecks
  obtain ⟨hbinding, hreleased, hdigest⟩ := hchecks
  apply Upholds.andThen (P := fun _ _ => True)
  · apply upholds_transact (fun _ => True) htsound
    · rintro u hu husound record ledger hwrote ⟨hstate, hid'⟩
      refine ⟨?_, trivial⟩
      simp only [RecordJustified, hstate]
      intro hunforgeable
      -- the record of the session is still the one that was looked up, or one that follows it
      obtain ⟨current, hcurrent, hfollows⟩ := (hu.ledgers htsound server).record hrecord
      obtain ⟨hsame, hstep⟩ := husound.step_of_wrote hcurrent hwrote
        (hid'.trans (hfollows.identity.1.trans hid).symm)
      have hdigest' := (hfollows.trans hstep.follows).responseDigest (by rw [hreleased]; decide)
      rw [hsame, hbinding, hdigest', hdigest]
      exact (hjournaled hunforgeable parsed descriptor hauthorize).mono
        (fun event hmem => hu.subset (ht.subset hmem))
    · intro t answer _ _ _ _ u _ a _
      trivial
  · rintro _ t - u - response hresponse
    obtain rfl := Except.ok.inj hresponse
    exact answers_empty

theorem upholds_handle (hsound : w.Sound network) (hsilent : Silent i w)
    (hjournaled : network.Unforgeable → ∀ parsed descriptor,
      authorizeAck network.library (network.servers server) request env.now =
        .ok (parsed, descriptor) →
      Journaled network server descriptor.protocolBinding parsed.responseDigest w.history) :
    Upholds (discipline network ι) i (onOk (Answers network i source server request))
      (handle network server request env) w := by
  unfold handle
  split
  · exact upholds_handlePrepare hsound
  · split
    · exact upholds_handleCommit hsound hsilent
    · split
      · exact upholds_handleAck hsound hjournaled
      · exact fun t _ a h => nomatch h

/-- The party has answered nothing. -/
def Unanswered (i : ι) (w : World ι S) : Prop :=
  ∀ source server response, .answered i source server response ∉ w.history

/-- An operation that is not an answer. -/
def Op.Inner (op : Op S) : Prop := ∀ source server response, op ≠ .respond source server response

omit [DecidableEq S] in
theorem settle_inner {α : Type} {tx : Tx} {code : FailureCode} {refusal : Refusal} (x : Option α) :
    (settle server tx descriptor code refusal x).Obeys Op.Inner fun _ => True := by
  cases x with
  | some a => exact trivial
  | none => exact ⟨(fun _ _ _ h => nomatch h), fun _ => trivial⟩

omit [DecidableEq S] in
/-- A handler leaves the answer to the server. -/
theorem handle_inner :
    (handle network server request env).Obeys Op.Inner fun _ => True := by
  have hledger {tx : Tx} {asked : ReleaseDescriptor} {call : Ledger.Call} :
      (Op.ledger server tx asked call).Inner := fun _ _ _ h => nomatch h
  have hlookup {isOpen : Bool} {sessionID : Digest} : (Op.get server isOpen sessionID).Inner :=
    fun _ _ _ h => nomatch h
  have hgenerate {asked : ReleaseDescriptor} : (Op.generate server asked).Inner :=
    fun _ _ _ h => nomatch h
  have hsettle {α : Type} {tx : Tx} {asked : ReleaseDescriptor} {code : FailureCode}
      {refusal : Refusal} {x : Option α} {Q : α → Prop} (hQ : ∀ a, Q a) :
      (settle server tx asked code refusal x).Obeys Op.Inner Q :=
    (settle_inner x).mono fun a _ => hQ a
  unfold handle
  split
  · simp only [handlePrepare, transaction, transact, Program.obeys_bind, Program.obeys_lift,
      Program.obeys_pure]
    exact fun _ _ => ⟨hledger, fun _ _ _ => trivial⟩
  · split
    · simp only [handleCommit, generateAndRelease, transaction, transact, lookup, generate,
        Program.obeys_bind, Program.obeys_lift, Program.obeys_throwIf, Program.obeys_pure]
      refine fun _ _ => ⟨hlookup, fun _ _ _ _ => ⟨hledger, fun _ _ _ => ⟨hgenerate, fun _ => ?_⟩⟩⟩
      exact hsettle fun _ => hsettle fun _ => ⟨hledger, fun _ => hsettle fun _ =>
        ⟨hledger, fun _ => hsettle fun _ => trivial⟩⟩
    · split
      · simp only [handleAck, transaction, transact, lookup, Program.obeys_bind,
          Program.obeys_lift, Program.obeys_throwIf, Program.obeys_pure]
        exact fun _ _ => ⟨hlookup, fun _ _ _ _ => ⟨hledger, fun _ _ _ => trivial⟩⟩
      · exact trivial

omit [DecidableEq S] in
theorem Unanswered.after {acted : ι → Prop} {w' : World ι S} (h : Unanswered i w)
    (hafter : w.After network acted w') (hacted : ¬ acted i) : Unanswered i w' := by
  intro source server response hmem
  obtain ⟨events, heq, hevents⟩ := hafter.history
  rw [heq] at hmem
  exact (List.mem_append.mp hmem).elim (fun hnew => hacted (hevents _ hnew)) (h _ _ _)

theorem Unanswered.act {op : Op S} (h : Unanswered i w) (hop : op.Inner) :
    Unanswered i (op.act network i w).2 := by
  intro source' server' response' hmem
  cases op with
  | receive source => cases source <;> exact h _ _ _ hmem
  | get server isOpen sessionID => exact h _ _ _ hmem
  | ledger server tx asked call =>
      have hmem : .answered i source' server' response' ∈
        (w.transact i server tx asked call).2.history := hmem
      rcases w.transact_cases i server tx asked call with ⟨error, heq⟩ |
        ⟨record, ledger, -, heq⟩ <;> rw [heq] at hmem
      · exact h _ _ _ hmem
      · rcases List.mem_cons.mp hmem with hnew | hold
        · exact nomatch hnew
        · exact h _ _ _ hold
  | openLedger server clock =>
      have hmem : .answered i source' server' response' ∈
          (w.openLedger server clock).2.history := hmem
      unfold World.openLedger at hmem
      split at hmem <;> exact h _ _ _ hmem
  | generate server descriptor =>
      rcases List.mem_cons.mp hmem with hnew | hold
      · exact nomatch hnew
      · exact h _ _ _ hold
  | respond source server response => exact (hop _ _ _ rfl).elim
  | send server request => exact h _ _ _ hmem
  | await ticket choice => exact h _ _ _ hmem
  | persist journal succeeds =>
      cases succeeds with
      | false => exact h _ _ _ hmem
      | true =>
          rcases List.mem_cons.mp hmem with hnew | hold
          · exact nomatch hnew
          · exact h _ _ _ hold

omit [DecidableEq S] in
theorem journaled_of_sent {parsed : SignedRequest}
    (h : SentSoundly network w.history server request)
    (hauthorize : authorizeAck network.library (network.servers server) request env.now =
      .ok (parsed, descriptor)) :
    Journaled network server descriptor.protocolBinding parsed.responseDigest w.history := by
  simp only [authorizeAck, bind_ok_iff, revertIf_ok_iff, exists_const, pure_ok_iff] at hauthorize
  obtain ⟨⟨parsed', descriptor'⟩, hauthorized, -, heq⟩ := hauthorize
  obtain ⟨rfl, rfl⟩ := Prod.mk.inj heq
  obtain ⟨hasks, hoperation⟩ := authorize_ok hauthorized
  exact h _ _ hasks hoperation

/-- An operator keeps to the discipline whatever it is asked. -/
theorem upholds_serve (source : Source S) (hready : (discipline network ι).ready i w) :
    Upholds (discipline network ι) i (onOk fun _ _ => True) (serve network env source) w := by
  apply upholds_ask_bind
  intro t ht
  obtain ⟨htsound, hnone⟩ := (discipline network ι).ready_rely hready ht
  refine ⟨trivial, ?_⟩
  have hsilent : Silent i t := fun server descriptor hmem => hnone _ hmem rfl
  have hunanswered : Unanswered i t := fun _ _ _ hmem => hnone _ hmem rfl
  obtain ⟨received, hreceived⟩ :
      ∃ received, Op.act network i (.receive source) t = (received, t) := by
    cases source <;> exact ⟨_, rfl⟩
  show Upholds (discipline network ι) i (onOk fun _ _ => True)
    (serveReceived network env source (Op.act network i (.receive source) t).1)
    (Op.act network i (.receive source) t).2
  rw [hreceived]
  have hreceived := congrArg Prod.fst hreceived
  cases received with
  | none => exact fun _ _ _ _ => trivial
  | some delivery =>
      obtain ⟨server, request⟩ := delivery
      -- the request stays where it was found
      have hsent (ticket : ℕ) (hticket : source = .sent ticket) :
          t.sent[ticket]? = some (server, request) := by
        subst hticket
        exact hreceived
      have hjournaled (hunforgeable : network.Unforgeable) (parsed : SignedRequest)
          (descriptor : ReleaseDescriptor)
          (hauthorize : authorizeAck network.library (network.servers server) request env.now =
            .ok (parsed, descriptor)) :
          Journaled network server descriptor.protocolBinding parsed.responseDigest
            t.history := by
        cases source with
        | sent ticket =>
            have hmem := List.mem_of_getElem? (hsent ticket rfl)
            exact journaled_of_sent (htsound.sent hmem) hauthorize
        | outside server' request' =>
            have hreceived : (if network.outside server' request' then
              some (server', request') else none) = some (server, request) := hreceived
            split at hreceived
            · next houtside =>
                obtain ⟨rfl, rfl⟩ := Prod.mk.inj (Option.some.inj hreceived)
                exact (hunforgeable _ _ _ _ houtside hauthorize).elim
            · exact nomatch hreceived
      have hhandle : Upholds (discipline network ι) i
          (onOk (Answers network i source server request)) (handle network server request env) t :=
        upholds_handle htsound hsilent hjournaled
      have hhandled := hhandle.keeping handle_inner
        (A := fun u => u.Sound network ∧ Unanswered i u ∧ t.sent <+: u.sent)
        (fun hrely h => ⟨hrely.sound h.1, h.2.1.after hrely (fun hne => hne rfl),
          h.2.2.trans hrely.sent⟩)
        (fun hop hknows h => ⟨(Op.act_after hknows).sound h.1, h.2.1.act hop,
          h.2.2.trans (Op.act_after hknows).sent⟩)
        ⟨htsound, hunanswered, List.prefix_refl _⟩
      apply Upholds.andThen hhandled.outcome
      rintro result u ⟨hanswers, husound, huunanswered, husent⟩
      intro v hv
      have hjustified : Answers network i source server request (answer result) u := by
        cases result with
        | ok response => exact hanswers response rfl
        | error refusal =>
            refine ⟨⟨(fun _ h => nomatch h), fun _ hdelivers => ?_⟩, fun _ h => nomatch h⟩
            have := refusal.isError
            have : refusal.status < 300 := hdelivers.2.1
            omega
      refine ⟨⟨hjustified.1.mono hv.subset, huunanswered.after hv (fun hne => hne rfl),
        fun ticket hticket => ⟨request, ?_, hjustified.2⟩⟩, fun _ _ _ _ => trivial⟩
      obtain ⟨later, heq⟩ := husent.trans hv.sent
      rw [← heq]
      have hfound := hsent ticket hticket
      rw [List.getElem?_append_left (List.getElem?_eq_some_iff.mp hfound).1]
      exact hfound

end

/-! ## The coordinator -/

section

variable {network : Network S} {i : ι} {w : World ι S} {client : OperatorClient S}
  {operation : Operation} {descriptor : ReleaseDescriptor} {ciphertext : Bytes}
  {responseDigest : Digest} {env : CallEnv} {α : Type} {R : α → World ι S → Prop}

omit [DecidableEq S] in
/-- An operator reads in a request what the coordinator asked. -/
theorem signRequest_ok {library : NetworkLibrary} {nonce : Digest} {request : HttpRequest}
    (h : signRequest library client operation descriptor ciphertext responseDigest nonce =
      .ok request) :
    ∃ parsed, request.asks = .ok (parsed, descriptor) ∧ parsed.operation = operation ∧
      parsed.responseDigest = responseDigest := by
  simp only [signRequest, bind_ok_iff, revertIf_ok_iff, exists_const, pure_ok_iff] at h
  obtain ⟨-, descriptorWire, hdescriptor, -, wire, hwire, rfl⟩ := h
  have hparsed := SignedRequest.unmarshal_marshalBinary hwire
  have hread := unmarshal_marshalReleaseDescriptor hdescriptor
  exact ⟨_, bind_ok_iff.mpr ⟨_, hparsed, bind_ok_iff.mpr ⟨_, hread, rfl⟩⟩, rfl, rfl⟩

/-- A share that is read was delivered whole. -/
theorem readReply_ok {reply : Option Response} {body : Bytes}
    (h : readReply operationCommit reply = .ok body) :
    ∃ response, reply = some response ∧ response.Delivers ∧ response.body = body := by
  simp only [readReply, bind_ok_iff, require_ok_iff, revertIf_ok_iff, exists_const, if_true,
    pure_ok_iff, not_or, not_lt, not_le] at h
  obtain ⟨response, rfl, ⟨hlow, hhigh⟩, ⟨hnonempty, hbound⟩, rfl⟩ := h
  -- what is cut off would be longer than the bound
  have hwhole : response.body.take (maxReleaseResponseBytes + 1) = response.body := by
    rw [List.length_take] at hbound
    exact List.take_of_length_le (by omega)
  rw [hwhole] at hnonempty ⊢
  exact ⟨response, rfl, ⟨hlow, hhigh, fun hnil => hnonempty (by rw [hnil]; rfl)⟩, rfl⟩

/-- The operator answered the request behind the ticket with a share for the binding, of
this digest. -/
def AnsweredTo (network : Network S) (server : S) (binding digest : Digest) (ticket : ℕ)
    (history : List (Event ι S)) : Prop :=
  ∃ i response carried, .answered i (.sent ticket) server response ∈ history ∧
    response.carries = some carried ∧ carried.protocolBinding = binding ∧
      network.library.sha256 response.body = digest

section

variable {server : S} {binding digest digest' : Digest} {ticket ticket' : ℕ}

omit [DecidableEq S] in
theorem AnsweredTo.mono {history history' : List (Event ι S)}
    (h : AnsweredTo network server binding digest ticket history) (hsub : history ⊆ history') :
    AnsweredTo network server binding digest ticket history' := by
  obtain ⟨i, response, carried, hmem, hanswered⟩ := h
  exact ⟨i, response, carried, hsub hmem, hanswered⟩

omit [DecidableEq S] in
theorem AnsweredTo.released (h : AnsweredTo network server binding digest ticket w.history)
    (hsound : w.Sound network) : Released server binding digest w.history := by
  obtain ⟨i, response, carried, hmem, hcarries, rfl, rfl⟩ := h
  obtain ⟨-, record, hrecord, hstate⟩ := (hsound.justified hmem).1 carried hcarries
  exact ⟨i, carried, record, hrecord, hstate⟩

omit [DecidableEq S] in
/-- One operator does not answer two requests with a share for one binding. -/
theorem AnsweredTo.ticket_eq (h : AnsweredTo network server binding digest ticket w.history)
    (h' : AnsweredTo network server binding digest' ticket' w.history)
    (hsound : w.Sound network) : ticket = ticket' := by
  obtain ⟨i, response, carried, hmem, hcarries, rfl, -⟩ := h
  obtain ⟨j, response', carried', hmem', hcarries', hbinding, -⟩ := h'
  have hclaim {k : ι} {source : Source S} {answer : Response} {descriptor : ReleaseDescriptor}
      (hcarried : answer.carries = some descriptor) :
      (Event.answered k source server answer).claim =
        some ⟨.answered, server, descriptor.protocolBinding⟩ := by
    simp only [Event.claim, hcarried, Option.map_some]
  have heq := hsound.claimed.eq hmem hmem' (hclaim hcarries)
    (by rw [hclaim hcarries', hbinding])
  obtain ⟨-, hsource, -⟩ := Event.answered.inj heq
  exact Source.sent.inj hsource

end

/-- A call that returns to a COMMIT returns a share that its operator answered it with. -/
theorem upholds_call {f : Bytes → Party S α} (hsound : w.Sound network)
    (hjournaled : operation = operationAck →
      Journaled network client.server descriptor.protocolBinding responseDigest w.history)
    (hnext : ∀ (t : World ι S) body, w.Later network t → t.Sound network →
      (operation = operationCommit → ∃ ticket, w.sent.length ≤ ticket ∧ ticket < t.sent.length ∧
        AnsweredTo network client.server descriptor.protocolBinding
          (network.library.sha256 body) ticket t.history) →
      Upholds (discipline network ι) i (onOk R) (f body) t) :
    Upholds (discipline network ι) i (onOk R)
      (call network.library client operation descriptor ciphertext responseDigest env >>= f)
      w := by
  unfold call
  cases hrequest : signRequest network.library client operation descriptor ciphertext
      responseDigest env.nonce with
  | error error => exact fun t _ a h => nomatch h
  | ok request =>
      obtain ⟨parsed, hasks, hoperation, hdigest⟩ := signRequest_ok hrequest
      intro t ht
      have hsent : SentSoundly network t.history client.server request := by
        intro parsed' descriptor' hasks' hack
        obtain ⟨rfl, rfl⟩ := Prod.mk.inj (Except.ok.inj (hasks.symm.trans hasks'))
        rw [hdigest]
        exact (hjournaled (hoperation.symm.trans hack)).mono ht.subset
      have hknows : Knows network i (.send client.server request) t := hsent
      have hafter := Op.act_after hknows
      have htsound := ht.sound hsound
      refine ⟨hsent, ?_⟩
      intro u hu
      have husound := hu.sound (hafter.sound htsound)
      refine ⟨trivial, ?_⟩
      apply upholds_lift_bind
      intro body hbody
      refine hnext u body ((ht.later.trans hafter.later).trans hu.later) husound fun hcommit => ?_
      subst hcommit
      obtain ⟨response, hreply, hdelivers, rfl⟩ := readReply_ok hbody
      -- the reply is to this request, which is still where it was put
      obtain ⟨reply, hmem, rfl⟩ := List.mem_map.mp (List.mem_of_getElem? hreply)
      obtain ⟨hmem, hticket⟩ := List.mem_filter.mp hmem
      obtain ⟨server, request', hfound, hasked⟩ := husound.replied hmem
      rw [of_decide_eq_true hticket] at hfound
      obtain ⟨j, parsed', descriptor', hasks', hcarries, hanswered⟩ := hasked hdelivers
      rw [of_decide_eq_true hticket] at hanswered
      obtain ⟨later, hlater⟩ := hu.sent
      have hplaced : u.sent[t.sent.length]? = some (client.server, request) := by
        rw [← hlater]
        show ((t.sent ++ [(client.server, request)]) ++ later)[t.sent.length]? = _
        rw [List.append_assoc, List.getElem?_append_right le_rfl, Nat.sub_self]
        rfl
      obtain ⟨rfl, rfl⟩ := Prod.mk.inj (Option.some.inj (hfound.symm.trans hplaced))
      obtain ⟨rfl, rfl⟩ := Prod.mk.inj (Except.ok.inj (hasks.symm.trans hasks'))
      exact ⟨_, ht.sent.length_le, (List.getElem?_eq_some_iff.mp hplaced).1, j, _, _,
        hanswered, hcarries, rfl, rfl⟩

theorem upholds_prepare {ciphertext : Ciphertext} {f : Unit → Party S α}
    (hsound : w.Sound network)
    (hnext : ∀ t : World ι S, w.Later network t → t.Sound network →
      Upholds (discipline network ι) i (onOk R) (f ()) t) :
    Upholds (discipline network ι) i (onOk R)
      (prepare network.library client descriptor ciphertext env >>= f) w := by
  apply Upholds.andThen (P := fun _ t => w.Later network t ∧ t.Sound network)
  · apply upholds_call hsound (fun h => absurd h (by decide))
    intro t body ht htsound _ u hu _ _
    exact ⟨ht.trans hu.later, hu.sound htsound⟩
  · rintro _ t ⟨ht, htsound⟩
    exact hnext t ht htsound

/-- What a coordinator has to journal was released under the digest that it acknowledges. -/
theorem upholds_commit {ciphertext : Ciphertext}
    {f : ThresholdReleaseResponse × Digest × Bytes → Party S α} (hsound : w.Sound network)
    (hnext : ∀ (t : World ι S) response digest wire, w.Later network t → t.Sound network →
      network.library.sha256 wire = digest →
      (∃ ticket, w.sent.length ≤ ticket ∧ ticket < t.sent.length ∧
        AnsweredTo network client.server descriptor.protocolBinding digest ticket t.history) →
      Upholds (discipline network ι) i (onOk R) (f (response, digest, wire)) t) :
    Upholds (discipline network ι) i (onOk R)
      (commit network.library client descriptor ciphertext env >>= f) w := by
  apply Upholds.andThen (P := fun committed t => w.Later network t ∧ t.Sound network ∧
    network.library.sha256 committed.2.2 = committed.2.1 ∧
      ∃ ticket, w.sent.length ≤ ticket ∧ ticket < t.sent.length ∧
        AnsweredTo network client.server descriptor.protocolBinding committed.2.1 ticket t.history)
  · apply upholds_call hsound (fun h => absurd h (by decide))
    intro t body ht htsound hanswered
    apply upholds_lift_bind
    intro response _
    apply upholds_lift_bind
    intro rewritten _
    apply upholds_lift_bind
    intro _ hsame u hu committed hcommitted
    obtain rfl := Except.ok.inj hcommitted
    obtain ⟨ticket, hfrom, hto, hanswered⟩ := hanswered rfl
    exact ⟨ht.trans hu.later, hu.sound htsound, not_not.mp (revertIf_ok_iff.mp hsame), ticket,
      hfrom, hto.trans_le hu.sent.length_le, hanswered.mono hu.subset⟩
  · rintro ⟨response, digest, wire⟩ t ⟨ht, htsound, hdigest, hanswered⟩
    exact hnext t response digest wire ht htsound hdigest hanswered

theorem upholds_ack {digest : Digest} {f : Unit → Party S α} (hsound : w.Sound network)
    (hjournaled : Journaled network client.server descriptor.protocolBinding digest w.history)
    (hnext : ∀ t : World ι S, w.Later network t → t.Sound network →
      Upholds (discipline network ι) i (onOk R) (f ()) t) :
    Upholds (discipline network ι) i (onOk R)
      (ack network.library client descriptor digest env >>= f) w := by
  apply Upholds.andThen (P := fun _ t => w.Later network t ∧ t.Sound network)
  · apply upholds_call hsound (fun _ => hjournaled)
    intro t body ht htsound _ u hu _ _
    exact ⟨ht.trans hu.later, hu.sound htsound⟩
  · rintro _ t ⟨ht, htsound⟩
    exact hnext t ht htsound

/-- A coordinator acknowledges what it has journaled. -/
theorem upholds_release (release : ReleaseCall S) (hsound : w.Sound network) :
    Upholds (discipline network ι) i (onOk fun _ _ => True)
      (releaseSelectedCoalition network.library release) w := by
  apply upholds_prepare hsound
  intro t₁ _ h₁
  apply upholds_prepare h₁
  intro t₂ _ h₂
  apply upholds_commit h₂
  intro t₃ responseA digestA wireA _ h₃ hdigestA ⟨ticketA, _, htoA, hansweredA⟩
  apply upholds_commit h₃
  intro t₄ responseB digestB wireB hlater h₄ hdigestB ⟨ticketB, hfromB, _, hansweredB⟩
  apply upholds_ask_bind
  intro t ht
  have hbacked : Event.Justified network t.history (.persisted i
      { descriptor := release.descriptor
        servers := (release.clients.1.server, release.clients.2.server)
        wires := (wireA, wireB) }) := by
    have htsound := ht.sound h₄
    have hansweredA := (hansweredA.mono hlater.subset).mono ht.subset
    have hansweredB := hansweredB.mono ht.subset
    refine ⟨?_, ?_, ?_⟩
    · -- the two commits were two requests
      intro hsame
      have hservers : release.clients.1.server = release.clients.2.server := hsame
      rw [hservers] at hansweredA
      have := hansweredA.ticket_eq hansweredB htsound
      omega
    · rw [hdigestA]
      exact hansweredA.released htsound
    · rw [hdigestB]
      exact hansweredB.released htsound
  refine ⟨hbacked, ?_⟩
  have hknows : Knows network i (.persist
      { descriptor := release.descriptor
        servers := (release.clients.1.server, release.clients.2.server)
        wires := (wireA, wireB) } release.persists) t := hbacked
  have hafter := Op.act_after hknows
  apply upholds_lift_bind
  intro _ hpersisted
  have hwritten : ¬ release.persists = false := revertIf_ok_iff.mp hpersisted
  have hpersisted : release.persists = true := Bool.eq_true_of_not_eq_false hwritten
  rw [hpersisted] at hafter ⊢
  have hsound' := hafter.sound (ht.sound h₄)
  apply upholds_ack hsound' ⟨i, _, List.mem_cons_self, rfl, .inl ⟨rfl, hdigestA⟩⟩
  intro u hu husound
  apply upholds_ack husound
    ⟨i, _, hu.subset List.mem_cons_self, rfl, .inr ⟨rfl, hdigestB⟩⟩
  exact fun _ _ _ _ _ _ _ => trivial

end

/-! ## Runs -/

section

variable {network : Network S}

theorem upholds_program (i : ι) (task : Task S) (w : World ι S)
    (hready : (discipline network ι).ready i w) :
    Upholds (discipline network ι) i (onOk fun _ _ => True) (task.program network) w := by
  cases task with
  | serve source env => exact upholds_serve source hready
  | openLedger server clock => exact fun t _ => ⟨trivial, fun _ _ _ _ => trivial⟩
  | release call =>
      apply Upholds.andThen (upholds_release call hready.1)
      exact fun _ _ _ _ _ _ _ => trivial

variable [DecidableEq ι]

/-- Every world that is reached is sound, and so is where each party stands. -/
theorem run_sound_start {moves : List (Move ι (Task S))}
    {pool : Pool ι (World ι S) (Op S) Op.Answer String Unit}
    (hrun : run (exec network) (start ι S) moves = .ok pool) :
    pool.state.Sound network ∧
      pool.Sound (discipline network ι) fun _ => onOk fun _ _ => True := by
  have hstart : (start ι S).Sound (discipline network ι) fun _ => onOk fun _ _ => True :=
    fun _ => ⟨World.sound_empty, fun _ h => nomatch h⟩
  refine ⟨?_, run_sound upholds_program hrun hstart⟩
  exact run_always_known upholds_program
    (fun _ _ _ hknows hsound => (Op.act_after hknows).sound hsound) (fun _ _ h => h) hrun hstart
    World.sound_empty

/-- In a run that goes on, no ledger forgets anything and the history grows. -/
theorem run_later {moves : List (Move ι (Task S))}
    {middle pool : Pool ι (World ι S) (Op S) Op.Answer String Unit}
    (hrun : run (exec network) middle moves = .ok pool)
    (hsound : middle.Sound (discipline network ι) fun _ => onOk fun _ _ => True) :
    middle.state.Later network pool.state :=
  run_always_known upholds_program
    (fun _ _ _ hknows h => h.trans (Op.act_after hknows).later) (fun _ _ h => h) hrun hsound
    (.refl _)

end

end Mordant.ThresholdNet
