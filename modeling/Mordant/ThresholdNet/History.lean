/-
# What the history of a network shows

Every event of the history is justified by earlier ones: a share is generated behind the
barrier, a response leaves once its digest is released, a record is acknowledged where its
response was journaled.  Reservations, commitments, generations and answers of one binding
happen once at an operator.

`World.Sound` collects what holds of the ledgers, the messages and the history at all
times, and `Knows` what a party must know to perform an operation.  An operation that is
performed with that knowledge keeps the world sound.
-/

import Mordant.Foundation.Chronicle
import Mordant.ThresholdNet.Service

namespace Mordant.ThresholdNet

open Evm Foundation
open Function (update_self update_of_ne update)
open Coalition (Digest ReleaseDescriptor)

variable {ι S : Type}

/-! ## Events -/

namespace Event

/-- Whose event it is. -/
def party : Event ι S → ι
  | wrote i _ _ _ => i
  | generated i _ _ => i
  | answered i _ _ _ => i
  | persisted i _ => i

end Event

/-- What happens to a binding once at an operator. -/
inductive Stage
  | reserved
  | committed
  | generated
  | answered
  deriving DecidableEq

structure Claim (S : Type) where
  stage : Stage
  server : S
  binding : Digest

/-- What an event claims. -/
def Event.claim : Event ι S → Option (Claim S)
  | .wrote _ server _ record =>
    match record.state with
    | .prepared => some ⟨.reserved, server, record.binding⟩
    | .committed => some ⟨.committed, server, record.binding⟩
    | _ => none
  | .generated _ server descriptor => some ⟨.generated, server, descriptor.protocolBinding⟩
  | .answered _ _ server response =>
    response.carries.map fun descriptor => ⟨.answered, server, descriptor.protocolBinding⟩
  | .persisted _ _ => none

/-- A record of the session, the binding and the coalition of a descriptor. -/
structure Matches (library : NetworkLibrary) (descriptor : ReleaseDescriptor) (record : Record) :
    Prop where
  sessionID : record.sessionID = descriptor.sessionID
  binding : record.binding = descriptor.protocolBinding
  coalition : record.coalitionDigest = coalitionDigest library descriptor.coalition

theorem Matches.mono {library : NetworkLibrary} {descriptor : ReleaseDescriptor}
    {record record' : Record} (h : Matches library descriptor record)
    (hfollows : record.Follows record') : Matches library descriptor record' := by
  obtain ⟨hsession, hbinding, hcoalition⟩ := hfollows.identity
  exact ⟨hsession.trans h.sessionID, hbinding.trans h.binding, hcoalition.trans h.coalition⟩

/-- The operator accepts the descriptor with some ciphertext. -/
def Network.Accepts (network : Network S) (server : S) (descriptor : ReleaseDescriptor) : Prop :=
  ∃ ciphertext, (network.servers server).operator.validateReleaseRequest
    network.library.toFheLibrary descriptor ciphertext = .ok ()

/-- Nobody else than a coordinator can have an operator accept an acknowledgement. -/
def Network.Unforgeable (network : Network S) : Prop :=
  ∀ server request now result, network.outside server request = true →
    authorizeAck network.library (network.servers server) request now ≠ .ok result

/-- The operator released the response with this digest for the binding. -/
def Released (server : S) (binding digest : Digest) (history : List (Event ι S)) : Prop :=
  ∃ i asked record, .wrote i server asked record ∈ history ∧ record.state = .released ∧
    record.binding = binding ∧ record.responseDigest = digest

/-- A coordinator journaled the responses to the binding, this operator's with this digest. -/
def Journaled (network : Network S) (server : S) (binding digest : Digest)
    (history : List (Event ι S)) : Prop :=
  ∃ i journal, .persisted i journal ∈ history ∧ journal.descriptor.protocolBinding = binding ∧
    ((journal.servers.1 = server ∧ network.library.sha256 journal.wires.1 = digest) ∨
      (journal.servers.2 = server ∧ network.library.sha256 journal.wires.2 = digest))

/-- A response of status 2xx with a body; of the signed requests only COMMIT is answered so. -/
def Response.Delivers (response : Response) : Prop :=
  200 ≤ response.status ∧ response.status < 300 ∧ response.body ≠ []

/-- What justifies the writing of a record. -/
def RecordJustified (network : Network S) (earlier : List (Event ι S)) (i : ι) (server : S)
    (asked : ReleaseDescriptor) (record : Record) : Prop :=
  match record.state with
  | .prepared => network.Accepts server asked ∧ Matches network.library asked record
  | .committed => network.Accepts server asked ∧ Matches network.library asked record ∧
      ∃ j reserved old, .wrote j server reserved old ∈ earlier ∧ old.state = .prepared ∧
        old.Follows record
  | .generated => .generated i server asked ∈ earlier ∧ record.binding = asked.protocolBinding
  | .released => ∃ old, .wrote i server asked old ∈ earlier ∧ old.state = .generated ∧
      old.Follows record
  | .acked => network.Unforgeable →
      Journaled network server record.binding record.responseDigest earlier
  | .abortedPrestart | .failedTerminal => True

/-- What justifies an event. -/
def Event.Justified (network : Network S) (earlier : List (Event ι S)) : Event ι S → Prop
  | .wrote i server asked record => RecordJustified network earlier i server asked record
  | .generated i server descriptor => ∃ record, .wrote i server descriptor record ∈ earlier ∧
      record.state = .committed ∧ Matches network.library descriptor record
  | .answered i _ server response =>
      (∀ descriptor, response.carries = some descriptor →
        .generated i server descriptor ∈ earlier ∧
          ∃ record, .wrote i server descriptor record ∈ earlier ∧ record.state = .released ∧
            record.binding = descriptor.protocolBinding ∧
            record.responseDigest = network.library.sha256 response.body) ∧
        (response.carries = none → ¬ response.Delivers)
  | .persisted _ journal => journal.servers.1 ≠ journal.servers.2 ∧
      Released journal.servers.1 journal.descriptor.protocolBinding
          (network.library.sha256 journal.wires.1) earlier ∧
        Released journal.servers.2 journal.descriptor.protocolBinding
          (network.library.sha256 journal.wires.2) earlier

section

variable {network : Network S} {history history' : List (Event ι S)} {server : S}
  {binding digest : Digest} {event : Event ι S}

theorem Released.mono (h : Released server binding digest history) (hsub : history ⊆ history') :
    Released server binding digest history' := by
  obtain ⟨i, asked, record, hmem, hrecord⟩ := h
  exact ⟨i, asked, record, hsub hmem, hrecord⟩

theorem Journaled.mono (h : Journaled network server binding digest history)
    (hsub : history ⊆ history') : Journaled network server binding digest history' := by
  obtain ⟨i, journal, hmem, hjournal⟩ := h
  exact ⟨i, journal, hsub hmem, hjournal⟩

theorem RecordJustified.mono {i : ι} {asked : ReleaseDescriptor} {record : Record}
    (h : RecordJustified network history i server asked record) (hsub : history ⊆ history') :
    RecordJustified network history' i server asked record := by
  unfold RecordJustified at h ⊢
  cases hstate : record.state <;> simp only [hstate] at h ⊢
  case prepared => exact h
  case committed =>
    obtain ⟨haccepts, hmatches, j, reserved, old, hmem, hold⟩ := h
    exact ⟨haccepts, hmatches, j, reserved, old, hsub hmem, hold⟩
  case generated => exact ⟨hsub h.1, h.2⟩
  case released =>
    obtain ⟨old, hmem, hold⟩ := h
    exact ⟨old, hsub hmem, hold⟩
  case acked => exact fun hunforgeable => (h hunforgeable).mono hsub

/-- What was justified stays so. -/
theorem Event.Justified.mono (hsub : history ⊆ history') (h : event.Justified network history) :
    event.Justified network history' := by
  cases event with
  | wrote i server asked record => exact RecordJustified.mono h hsub
  | generated i server descriptor =>
      obtain ⟨record, hmem, hrecord⟩ := h
      exact ⟨record, hsub hmem, hrecord⟩
  | answered i source server response =>
      refine ⟨fun descriptor hcarries => ?_, h.2⟩
      obtain ⟨hgenerated, record, hmem, hrecord⟩ := h.1 descriptor hcarries
      exact ⟨hsub hgenerated, record, hsub hmem, hrecord⟩
  | persisted i journal => exact ⟨h.1, h.2.1.mono hsub, h.2.2.mono hsub⟩

end

/-! ## Messages -/

/-- What the body of a request asks for. -/
def HttpRequest.asks (request : HttpRequest) :
    Except String (SignedRequest × ReleaseDescriptor) := do
  let parsed ← unmarshalSignedRequest request.body
  let descriptor ← unmarshalReleaseDescriptor parsed.descriptor
  pure (parsed, descriptor)

/-- An acknowledgement on the network is of a journaled response. -/
def SentSoundly (network : Network S) (history : List (Event ι S)) (server : S)
    (request : HttpRequest) : Prop :=
  ∀ parsed descriptor, request.asks = .ok (parsed, descriptor) →
    parsed.operation = operationAck →
      Journaled network server descriptor.protocolBinding parsed.responseDigest history

/-- A share on its way to a coordinator was answered to its request, and for what the
request asked. -/
def AnsweredSoundly (history : List (Event ι S)) (sent : List (S × HttpRequest)) (ticket : ℕ)
    (response : Response) : Prop :=
  ∃ server request, sent[ticket]? = some (server, request) ∧
    (response.Delivers → ∃ i parsed descriptor, request.asks = .ok (parsed, descriptor) ∧
      response.carries = some descriptor ∧
        .answered i (.sent ticket) server response ∈ history)

/-! ## Sound worlds -/

/-- What holds at all times. -/
structure World.Sound (network : Network S) (w : World ι S) : Prop where
  consistent : ∀ server, (w.ledgers server).Consistent
  recorded : ∀ {i server asked record}, .wrote i server asked record ∈ w.history →
    ∃ current, (w.ledgers server).record record.binding = some current ∧ record.Follows current
  written : ∀ {server binding current}, (w.ledgers server).record binding = some current →
    current.state ≠ .failedTerminal → ∃ i asked, .wrote i server asked current ∈ w.history
  reserved : ∀ {server binding current}, (w.ledgers server).record binding = some current →
    ∃ i asked record, .wrote i server asked record ∈ w.history ∧ record.state = .prepared ∧
      record.Follows current
  chronicle : Chronicle (Event.Justified network) w.history
  claimed : ClaimedOnce Event.claim w.history
  sent : ∀ {server request}, (server, request) ∈ w.sent →
    SentSoundly network w.history server request
  replied : ∀ {ticket response}, (ticket, response) ∈ w.replies →
    AnsweredSoundly w.history w.sent ticket response

/-- What a party must know to perform an operation. -/
def Knows (network : Network S) (i : ι) : Op S → World ι S → Prop
  | .receive _, _ | .get _ _ _, _ | .openLedger _ _, _ | .await _ _, _ => True
  | .ledger server _ asked call, w => ∀ record ledger,
      (w.ledgers server).Wrote record ledger → call.Asks record →
        RecordJustified network w.history i server asked record
  | .generate server descriptor, w =>
      Event.Justified network w.history (.generated i server descriptor) ∧
        ∀ server descriptor, .generated i server descriptor ∉ w.history
  | .respond source server response, w =>
      Event.Justified network w.history (.answered i source server response) ∧
        (∀ source server response, .answered i source server response ∉ w.history) ∧
        ∀ ticket, source = .sent ticket → ∃ request, w.sent[ticket]? = some (server, request) ∧
          ∀ descriptor, response.carries = some descriptor →
            ∃ parsed, request.asks = .ok (parsed, descriptor)
  | .send server request, w => SentSoundly network w.history server request
  | .persist journal _, w => Event.Justified network w.history (.persisted i journal)

section

variable {network : Network S} {w : World ι S} {i : ι} {server : S} {asked : ReleaseDescriptor}
  {record : Record} {ledger : Ledger} {event : Event ι S}

theorem World.sound_empty : World.Sound network ({} : World ι S) where
  consistent _ := Ledger.consistent_empty
  recorded h := nomatch h
  written h := nomatch h
  reserved h := nomatch h
  chronicle := trivial
  claimed := List.nodup_nil
  sent h := nomatch h
  replied h := nomatch h

theorem SentSoundly.mono {history history' : List (Event ι S)} {request : HttpRequest}
    (h : SentSoundly network history server request) (hsub : history ⊆ history') :
    SentSoundly network history' server request :=
  fun parsed descriptor hasks hack => (h parsed descriptor hasks hack).mono hsub

theorem AnsweredSoundly.mono {history history' : List (Event ι S)}
    {sent sent' : List (S × HttpRequest)} {ticket : ℕ} {response : Response}
    (h : AnsweredSoundly history sent ticket response) (hsub : history ⊆ history')
    (hsent : sent <+: sent') : AnsweredSoundly history' sent' ticket response := by
  obtain ⟨server, request, hticket, hdelivers⟩ := h
  refine ⟨server, request, ?_, fun h => ?_⟩
  · obtain ⟨later, rfl⟩ := hsent
    exact List.getElem?_append_left (List.getElem?_eq_some_iff.mp hticket).1 ▸ hticket
  · obtain ⟨i, parsed, descriptor, hasks, hcarries, hanswered⟩ := hdelivers h
    exact ⟨i, parsed, descriptor, hasks, hcarries, hsub hanswered⟩

/-- Where an event stands in a sound history, what justifies it stands there too. -/
theorem World.Sound.justified (h : w.Sound network) (hevent : event ∈ w.history) :
    event.Justified network w.history :=
  h.chronicle.of_mem (fun hsub => Event.Justified.mono hsub) hevent

/-- An event that writes no record. -/
theorem World.Sound.after (h : w.Sound network) (hjustified : event.Justified network w.history)
    (hnew : ∀ i server asked record, event ≠ .wrote i server asked record)
    (hfree : ∀ name, event.claim = some name → ∀ other ∈ w.history, other.claim ≠ some name) :
    (w.record event).Sound network where
  consistent := h.consistent
  recorded hmem := by
    rcases List.mem_cons.mp hmem with heq | hmem
    · exact (hnew _ _ _ _ heq.symm).elim
    · exact h.recorded hmem
  written hrecord hstate := by
    obtain ⟨i, asked, hmem⟩ := h.written hrecord hstate
    exact ⟨i, asked, List.mem_cons_of_mem _ hmem⟩
  reserved hrecord := by
    obtain ⟨i, asked, record, hmem, hprepared⟩ := h.reserved hrecord
    exact ⟨i, asked, record, List.mem_cons_of_mem _ hmem, hprepared⟩
  chronicle := ⟨hjustified, h.chronicle⟩
  claimed := h.claimed.cons hfree
  sent hmem := (h.sent hmem).mono (List.subset_cons_self _ _)
  replied hmem := (h.replied hmem).mono (List.subset_cons_self _ _) (List.prefix_refl _)

/-- A record that was reserved or committed at this operator claims its binding. -/
theorem Event.wrote_of_claim {name : Claim S} (hclaim : event.claim = some name)
    (hstage : name.stage = .reserved ∨ name.stage = .committed) :
    ∃ i asked record, event = .wrote i name.server asked record ∧ record.binding = name.binding ∧
      ((name.stage = .reserved ∧ record.state = .prepared) ∨
        (name.stage = .committed ∧ record.state = .committed)) := by
  cases event with
  | wrote i server asked record =>
      simp only [claim] at hclaim
      split at hclaim
      · next hstate =>
          obtain rfl := Option.some.inj hclaim
          exact ⟨i, asked, record, rfl, rfl, .inl ⟨rfl, hstate⟩⟩
      · next hstate =>
          obtain rfl := Option.some.inj hclaim
          exact ⟨i, asked, record, rfl, rfl, .inr ⟨rfl, hstate⟩⟩
      · exact nomatch hclaim
  | generated i server descriptor =>
      obtain rfl := Option.some.inj hclaim
      exact (hstage.elim (fun h => nomatch h) (fun h => nomatch h))
  | answered i source server response =>
      obtain ⟨descriptor, -, rfl⟩ := Option.map_eq_some_iff.mp hclaim
      exact (hstage.elim (fun h => nomatch h) (fun h => nomatch h))
  | persisted i journal => exact nomatch hclaim

/-- A generation claims its binding. -/
theorem Event.generated_of_claim {binding : Digest}
    (hclaim : event.claim = some ⟨.generated, server, binding⟩) :
    ∃ i descriptor, event = .generated i server descriptor ∧
      descriptor.protocolBinding = binding := by
  cases event with
  | wrote i server asked record =>
      simp only [claim] at hclaim
      split at hclaim <;> simp at hclaim
  | generated i server descriptor =>
      obtain ⟨-, rfl, rfl⟩ := Claim.mk.inj (Option.some.inj hclaim)
      exact ⟨i, descriptor, rfl, rfl⟩
  | answered i source server response =>
      obtain ⟨descriptor, -, heq⟩ := Option.map_eq_some_iff.mp hclaim
      exact nomatch (Claim.mk.inj heq).1
  | persisted i journal => exact nomatch hclaim

/-- An answer that carries a share claims its binding. -/
theorem Event.answered_of_claim {binding : Digest}
    (hclaim : event.claim = some ⟨.answered, server, binding⟩) :
    ∃ i source response descriptor, event = .answered i source server response ∧
      response.carries = some descriptor ∧ descriptor.protocolBinding = binding := by
  cases event with
  | wrote i server asked record =>
      simp only [claim] at hclaim
      split at hclaim <;> simp at hclaim
  | generated i server descriptor => exact nomatch (Claim.mk.inj (Option.some.inj hclaim)).1
  | answered i source server response =>
      obtain ⟨descriptor, hcarries, heq⟩ := Option.map_eq_some_iff.mp hclaim
      obtain ⟨-, rfl, rfl⟩ := Claim.mk.inj heq
      exact ⟨i, source, response, descriptor, rfl, hcarries, rfl⟩
  | persisted i journal => exact nomatch hclaim

/-- What a written record claims. -/
theorem Event.stage_of_wrote {name : Claim S}
    (hclaim : (Event.wrote i server asked record).claim = some name) :
    name.stage = .reserved ∨ name.stage = .committed := by
  simp only [claim] at hclaim
  split at hclaim
  · obtain rfl := Option.some.inj hclaim
    exact .inl rfl
  · obtain rfl := Option.some.inj hclaim
    exact .inr rfl
  · exact nomatch hclaim

variable [DecidableEq S]

/-- A transaction that was made. -/
theorem World.Sound.wrote (h : w.Sound network) (hwrote : (w.ledgers server).Wrote record ledger)
    (hjustified : RecordJustified network w.history i server asked record) :
    ((w.setLedger server ledger).record (.wrote i server asked record)).Sound network where
  consistent other := by
    show (update w.ledgers server ledger other).Consistent
    by_cases hother : other = server
    · subst hother
      rw [update_self]
      exact hwrote.consistent (h.consistent _)
    · rw [update_of_ne hother]
      exact h.consistent other
  recorded {j other asked' found} hmem := by
    show ∃ current, (update w.ledgers server ledger other).record found.binding =
      some current ∧ found.Follows current
    rcases List.mem_cons.mp hmem with heq | hmem
    · obtain ⟨rfl, rfl, rfl, rfl⟩ := Event.wrote.inj heq
      rw [update_self]
      exact ⟨found, hwrote.record_self, .refl found⟩
    · obtain ⟨current, hcurrent, hfollows⟩ := h.recorded hmem
      by_cases hother : other = server
      · subst hother
        rw [update_self]
        obtain ⟨current', hcurrent', hfollows'⟩ :=
          (hwrote.extends (h.consistent _)).record hcurrent
        exact ⟨current', hcurrent', hfollows.trans hfollows'⟩
      · rw [update_of_ne hother]
        exact ⟨current, hcurrent, hfollows⟩
  written {other binding current} hcurrent hstate := by
    have hrecord : (update w.ledgers server ledger other).record binding =
      some current := hcurrent
    show ∃ j reserving, Event.wrote j other reserving current ∈
      Event.wrote i server asked record :: w.history
    have hold (hfound : (w.ledgers other).record binding = some current) :
        ∃ j reserving, Event.wrote j other reserving current ∈
          Event.wrote i server asked record :: w.history := by
      obtain ⟨j, reserving, hmem⟩ := h.written hfound hstate
      exact ⟨j, reserving, List.mem_cons_of_mem _ hmem⟩
    by_cases hother : other = server
    · subst hother
      rw [update_self, hwrote.record_eq] at hrecord
      by_cases hbinding : binding = record.binding
      · subst hbinding
        rw [update_self] at hrecord
        obtain rfl := Option.some.inj hrecord
        exact ⟨i, asked, List.mem_cons_self⟩
      · rw [update_of_ne hbinding] at hrecord
        exact hold hrecord
    · rw [update_of_ne hother] at hrecord
      exact hold hrecord
  reserved {other binding current} hcurrent := by
    have hold {found : Record} (hfound : (w.ledgers other).record binding = some found)
        (hfollows : found.Follows current) :
        ∃ j reserving old, Event.wrote j other reserving old ∈
          Event.wrote i server asked record :: w.history ∧
            old.state = .prepared ∧ old.Follows current := by
      obtain ⟨j, reserving, old, hmem, hprepared, hreserved⟩ := h.reserved hfound
      exact ⟨j, reserving, old, List.mem_cons_of_mem _ hmem, hprepared, hreserved.trans hfollows⟩
    have hrecord : (update w.ledgers server ledger other).record binding =
      some current := hcurrent
    show ∃ j reserving old, Event.wrote j other reserving old ∈
      Event.wrote i server asked record :: w.history ∧ old.state = .prepared ∧
        old.Follows current
    by_cases hother : other = server
    · subst hother
      rw [update_self, hwrote.record_eq] at hrecord
      by_cases hbinding : binding = record.binding
      · subst hbinding
        rw [update_self] at hrecord
        obtain rfl := Option.some.inj hrecord
        rcases hwrote.origin with ⟨hprepared, -, -⟩ | ⟨old, hfound, hstep⟩
        · exact ⟨i, asked, record, List.mem_cons_self, hprepared, .refl record⟩
        · exact hold hfound hstep.follows
      · rw [update_of_ne hbinding] at hrecord
        exact hold hrecord (.refl current)
    · rw [update_of_ne hother] at hrecord
      exact hold hrecord (.refl current)
  chronicle := ⟨hjustified, h.chronicle⟩
  claimed := by
    refine h.claimed.cons fun name hclaim other hother hsame => ?_
    obtain ⟨_, _, _, heq, hbinding, hstage⟩ := Event.wrote_of_claim hclaim
      (Event.stage_of_wrote hclaim)
    obtain ⟨rfl, rfl, rfl, rfl⟩ := Event.wrote.inj heq
    obtain ⟨j, asked', found, rfl, hfound, hstage'⟩ := Event.wrote_of_claim hsame
      (Event.stage_of_wrote hclaim)
    obtain ⟨current, hcurrent, hfollows⟩ := h.recorded hother
    rw [hfound, ← hbinding] at hcurrent
    have hrank := hfollows.rank_le
    rcases hwrote.origin with ⟨-, hnone, -⟩ | ⟨old, hold, hstep⟩
    · rw [hnone] at hcurrent
      exact nomatch hcurrent
    · obtain rfl := Option.some.inj (hold.symm.trans hcurrent)
      have hlt := hstep.edge.rank_lt
      rcases hstage with ⟨hstage, hstate⟩ | ⟨hstage, hstate⟩ <;>
        rcases hstage' with ⟨hstage', hstate'⟩ | ⟨hstage', hstate'⟩
      case inl.inr | inr.inl => exact nomatch hstage.symm.trans hstage'
      all_goals
        rw [hstate] at hlt
        rw [hstate'] at hrank
        omega
  sent hmem := (h.sent hmem).mono (List.subset_cons_self _ _)
  replied hmem := (h.replied hmem).mono (List.subset_cons_self _ _) (List.prefix_refl _)

/-- An opening. -/
theorem World.Sound.opened (h : w.Sound network) {clock : Digest → ℤ}
    (hsession : ledger.session = (w.ledgers server).session)
    (hrecord : ∀ binding, ledger.record binding =
      ((w.ledgers server).record binding).map (Ledger.recovered (clock binding))) :
    (w.setLedger server ledger).Sound network where
  consistent other := by
    show (update w.ledgers server ledger other).Consistent
    by_cases hother : other = server
    · subst hother
      rw [update_self]
      exact (h.consistent _).recovered hsession hrecord
    · rw [update_of_ne hother]
      exact h.consistent other
  recorded {j other asked' found} hmem := by
    show ∃ current, (update w.ledgers server ledger other).record found.binding =
      some current ∧ found.Follows current
    obtain ⟨current, hcurrent, hfollows⟩ := h.recorded hmem
    by_cases hother : other = server
    · subst hother
      rw [update_self]
      obtain ⟨current', hcurrent', hfollows'⟩ :=
        (Ledger.Extends.of_recovered hsession hrecord).record hcurrent
      exact ⟨current', hcurrent', hfollows.trans hfollows'⟩
    · rw [update_of_ne hother]
      exact ⟨current, hcurrent, hfollows⟩
  written {other binding current} hcurrent hstate := by
    have hfound : (update w.ledgers server ledger other).record binding =
      some current := hcurrent
    by_cases hother : other = server
    · subst hother
      rw [update_self, hrecord, Option.map_eq_some_iff] at hfound
      obtain ⟨old, hold, rfl⟩ := hfound
      -- what was not closed is as it was
      have hopen : ¬ old.state.InFlight := by
        intro hflight
        rw [Ledger.recovered, if_pos hflight] at hstate
        exact hstate rfl
      rw [Ledger.recovered, if_neg hopen] at hstate ⊢
      exact h.written hold hstate
    · rw [update_of_ne hother] at hfound
      exact h.written hfound hstate
  reserved {other binding current} hcurrent := by
    have hfound : (update w.ledgers server ledger other).record binding =
      some current := hcurrent
    by_cases hother : other = server
    · subst hother
      rw [update_self, hrecord, Option.map_eq_some_iff] at hfound
      obtain ⟨old, hold, rfl⟩ := hfound
      obtain ⟨j, reserving, found, hmem, hprepared, hfollows⟩ := h.reserved hold
      exact ⟨j, reserving, found, hmem, hprepared, hfollows.trans (old.follows_recovered _)⟩
    · rw [update_of_ne hother] at hfound
      exact h.reserved hfound
  chronicle := h.chronicle
  claimed := h.claimed
  sent := h.sent
  replied := h.replied

end

/-! ## What an operation does -/

section

variable {network : Network S} {w w' w'' : World ι S} {i j : ι} {server : S}

/-- At most one party generates for a binding. -/
theorem World.Sound.generator (h : w.Sound network) {descriptor descriptor' : ReleaseDescriptor}
    (hgenerated : Event.Justified network w.history (.generated i server descriptor))
    (hgenerated' : Event.Justified network w.history (.generated j server descriptor'))
    (hbinding : descriptor.protocolBinding = descriptor'.protocolBinding) : i = j := by
  obtain ⟨record, hmem, hstate, hmatches⟩ := hgenerated
  obtain ⟨record', hmem', hstate', hmatches'⟩ := hgenerated'
  have hclaim {k : ι} {asked : ReleaseDescriptor} {found : Record}
      (hcommitted : found.state = .committed) :
      (Event.wrote k server asked found).claim = some ⟨.committed, server, found.binding⟩ := by
    simp only [Event.claim, hcommitted]
  have heq := h.claimed.eq hmem hmem' (hclaim hstate) (by
    rw [hclaim hstate', hmatches'.binding, ← hbinding, hmatches.binding])
  exact (Event.wrote.inj heq).1

/-- A party's first answer. -/
theorem World.Sound.answered (h : w.Sound network) {source : Source S} {response : Response}
    (hjustified : Event.Justified network w.history (.answered i source server response))
    (hfirst : ∀ source server response, .answered i source server response ∉ w.history) :
    (w.record (.answered i source server response)).Sound network := by
  refine h.after hjustified (fun _ _ _ _ heq => nomatch heq) ?_
  intro name hname other hother hsame
  obtain ⟨descriptor, hcarries, rfl⟩ := Option.map_eq_some_iff.mp hname
  obtain ⟨j, source', response', descriptor', rfl, hcarries', hbinding⟩ :=
    Event.answered_of_claim hsame
  obtain ⟨hgenerated, -⟩ := hjustified.1 descriptor hcarries
  obtain ⟨hgenerated', -⟩ := (h.justified hother).1 descriptor' hcarries'
  obtain rfl := h.generator (h.justified hgenerated) (h.justified hgenerated') hbinding.symm
  exact hfirst source' server response' hother

/-- What is left where only parties of a kind acted: the world is as sound as before, no
ledger forgot anything, and the history and the requests have grown. -/
structure World.After (network : Network S) (acted : ι → Prop) (w w' : World ι S) : Prop where
  sound : w.Sound network → w'.Sound network
  ledgers : w.Sound network → ∀ server, (w.ledgers server).Extends (w'.ledgers server)
  history : ∃ events, w'.history = events ++ w.history ∧ ∀ event ∈ events, acted event.party
  sent : w.sent <+: w'.sent

variable {acted acted' : ι → Prop}

theorem World.After.refl (w : World ι S) : w.After network acted w where
  sound h := h
  ledgers _ _ := .refl _
  history := ⟨[], rfl, fun _ h => nomatch h⟩
  sent := List.prefix_refl _

theorem World.After.trans (h : w.After network acted w') (h' : w'.After network acted w'') :
    w.After network acted w'' where
  sound hsound := h'.sound (h.sound hsound)
  ledgers hsound server := (h.ledgers hsound server).trans (h'.ledgers (h.sound hsound) server)
  history := by
    obtain ⟨events, heq, hevents⟩ := h.history
    obtain ⟨events', heq', hevents'⟩ := h'.history
    refine ⟨events' ++ events, by rw [heq', heq, List.append_assoc], fun event hmem => ?_⟩
    exact (List.mem_append.mp hmem).elim (hevents' event) (hevents event)
  sent := h.sent.trans h'.sent

theorem World.After.mono (h : w.After network acted w') (hacted : ∀ i, acted i → acted' i) :
    w.After network acted' w' where
  sound := h.sound
  ledgers := h.ledgers
  history := by
    obtain ⟨events, heq, hevents⟩ := h.history
    exact ⟨events, heq, fun event hmem => hacted _ (hevents event hmem)⟩
  sent := h.sent

theorem World.After.subset (h : w.After network acted w') : w.history ⊆ w'.history := by
  obtain ⟨events, heq, -⟩ := h.history
  rw [heq]
  exact List.subset_append_right _ _

variable [DecidableEq S]

/-- What a transaction does. -/
theorem World.transact_cases (w : World ι S) (i : ι) (server : S) (tx : Tx)
    (asked : ReleaseDescriptor) (call : Ledger.Call) :
    (∃ error, w.transact i server tx asked call = (.error error, w)) ∨
      ∃ record ledger, call.exec tx.now (w.ledgers server) = .ok (record, ledger) ∧
        w.transact i server tx asked call =
          (.ok record, (w.setLedger server ledger).record (.wrote i server asked record)) := by
  unfold transact
  split
  · split
    · next record ledger hexec => exact .inr ⟨record, ledger, hexec, rfl⟩
    · next error hexec => exact .inl ⟨error, rfl⟩
  · exact .inl ⟨_, rfl⟩

theorem extends_update {ledgers : S → Ledger} {ledger : Ledger}
    (h : (ledgers server).Extends ledger) (other : S) :
    (ledgers other).Extends (update ledgers server ledger other) := by
  by_cases hother : other = server
  · subst hother
    rw [update_self]
    exact h
  · rw [update_of_ne hother]
    exact .refl _

/-- **Step.** An operation performed with the knowledge it needs. -/
theorem Op.act_after {op : Op S} (hknows : Knows network i op w) :
    w.After network (· = i) (op.act network i w).2 := by
  cases op with
  | receive source => cases source <;> exact .refl w
  | get server isOpen sessionID => exact .refl w
  | ledger server tx asked call =>
      show w.After network (· = i) (w.transact i server tx asked call).2
      rcases w.transact_cases i server tx asked call with ⟨error, heq⟩ |
        ⟨record, ledger, hexec, heq⟩
      · rw [heq]
        exact .refl w
      · rw [heq]
        refine ⟨fun h => ?_, fun h => ?_, ⟨[_], rfl, fun event hmem => ?_⟩, List.prefix_refl _⟩
        · obtain ⟨hwrote, hasks⟩ := Ledger.Call.exec_ok (h.consistent server) hexec
          exact h.wrote hwrote (hknows record ledger hwrote hasks)
        · obtain ⟨hwrote, -⟩ := Ledger.Call.exec_ok (h.consistent server) hexec
          exact extends_update (hwrote.extends (h.consistent server))
        · obtain rfl := List.mem_singleton.mp hmem
          rfl
  | openLedger server clock =>
      show w.After network (· = i) (w.openLedger server clock).2
      unfold World.openLedger
      split
      · next ledger hopen =>
          have hrecovered (h : w.Sound network) :
              ledger.session = (w.ledgers server).session ∧
                ∀ binding, ledger.record binding =
                  ((w.ledgers server).record binding).map (Ledger.recovered (clock binding)) := by
            obtain ⟨ledger', heq, hrecovered⟩ :=
              (h.consistent server).initializeAndRecover_ok clock
            obtain rfl := Except.ok.inj (heq.symm.trans hopen)
            exact hrecovered
          refine ⟨fun h => ?_, fun h => ?_, ⟨[], rfl, fun _ h => nomatch h⟩, List.prefix_refl _⟩
          · exact h.opened (hrecovered h).1 (hrecovered h).2
          · exact extends_update (.of_recovered (hrecovered h).1 (hrecovered h).2)
      · exact .refl w
  | generate server descriptor =>
      obtain ⟨hjustified, hfirst⟩ := hknows
      refine ⟨fun h => ?_, fun h server => .refl _, ⟨[_], rfl, fun event hmem => ?_⟩,
        List.prefix_refl _⟩
      · refine h.after hjustified (fun _ _ _ _ heq => nomatch heq) ?_
        rintro name hname other hother hsame
        obtain rfl := Option.some.inj hname
        obtain ⟨j, descriptor', rfl, hbinding⟩ := Event.generated_of_claim hsame
        obtain rfl := h.generator hjustified (h.justified hother) hbinding.symm
        exact hfirst server descriptor' hother
      · obtain rfl := List.mem_singleton.mp hmem
        rfl
  | respond source server response =>
      obtain ⟨hjustified, hfirst, hsource⟩ := hknows
      cases source with
      | outside server' request =>
          refine ⟨fun h => h.answered hjustified hfirst, fun h server => .refl _,
            ⟨[_], rfl, fun event hmem => ?_⟩, List.prefix_refl _⟩
          obtain rfl := List.mem_singleton.mp hmem
          rfl
      | sent ticket =>
          refine ⟨fun h => ?_, fun h server => .refl _, ⟨[_], rfl, fun event hmem => ?_⟩,
            List.prefix_refl _⟩
          · have hanswered := h.answered hjustified hfirst
            refine { hanswered with replied := fun {ticket' response'} hmem => ?_ }
            rcases List.mem_append.mp hmem with hmem | hmem
            · exact hanswered.replied hmem
            · obtain ⟨rfl, rfl⟩ := Prod.mk.inj (List.mem_singleton.mp hmem)
              obtain ⟨request, hticket, hasks⟩ := hsource _ rfl
              refine ⟨server, request, hticket, fun hdelivers => ?_⟩
              cases hcarries : response'.carries with
              | none => exact (hjustified.2 hcarries hdelivers).elim
              | some descriptor =>
                  obtain ⟨parsed, hparsed⟩ := hasks descriptor hcarries
                  exact ⟨i, parsed, descriptor, hparsed, rfl, List.mem_cons_self⟩
          · obtain rfl := List.mem_singleton.mp hmem
            rfl
  | send server request =>
      refine ⟨fun h => ?_, fun h server => .refl _, ⟨[], rfl, fun _ h => nomatch h⟩,
        List.prefix_append _ _⟩
      refine { h with
        sent := fun {server' request'} hmem => ?_
        replied := fun hmem =>
          (h.replied hmem).mono (List.Subset.refl _) (List.prefix_append _ _) }
      rcases List.mem_append.mp hmem with hmem | hmem
      · exact h.sent hmem
      · obtain ⟨rfl, rfl⟩ := Prod.mk.inj (List.mem_singleton.mp hmem)
        exact hknows
  | await ticket choice => exact .refl w
  | persist journal succeeds =>
      cases succeeds with
      | false => exact .refl w
      | true =>
          refine ⟨fun h => ?_, fun h server => .refl _, ⟨[_], rfl, fun event hmem => ?_⟩,
            List.prefix_refl _⟩
          · exact h.after hknows (fun _ _ _ _ heq => nomatch heq) fun _ hname => nomatch hname
          · obtain rfl := List.mem_singleton.mp hmem
            rfl

end

end Mordant.ThresholdNet
