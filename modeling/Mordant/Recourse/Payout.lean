/-
# Payout safety

Over a whole run of either adapter: no run identifier, result digest or
attestation is consumed twice, no case goes back, and tokens leave only through
a holder's claim, each side of a case once and by the signed amount, or through
the owner's withdrawal of what is available.
-/

import Mordant.Recourse.CaseFile

namespace Mordant.Recourse

open Evm Foundation

/-- The lifecycle of a case, as a relation. -/
inductive CaseState.Next : CaseState → CaseState → Prop
  | stay (state : CaseState) : Next state state
  | opened : Next .none .cureOpen
  | refused : Next .none .refused
  | cured : Next .cureOpen .cured
  | entitled : Next .cureOpen .entitled
  | claimed : Next .entitled .claimed

/-- The states a case is never seen to leave. -/
def CaseState.Terminal : CaseState → Prop
  | .refused | .cured | .claimed => True
  | .none | .cureOpen | .entitled => False

/-- No case returns to `None`, a terminal one stays as it is, and an entitled one
is entitled or claimed ever after. -/
structure CaseState.Keeps (state state' : CaseState) : Prop where
  left : state ≠ .none → state' ≠ .none
  terminal : state.Terminal → state' = state
  entitled : state = .entitled → state' = .entitled ∨ state' = .claimed

theorem CaseState.Next.keeps {state state' : CaseState} (h : state.Next state') :
    state.Keeps state' := by
  cases h with
  | stay => exact ⟨id, fun _ => rfl, .inl⟩
  | opened | refused => exact ⟨fun hne => absurd rfl hne, False.elim, fun hne => nomatch hne⟩
  | cured | entitled =>
      exact ⟨fun _ hne => CaseState.noConfusion hne, False.elim, fun hne => nomatch hne⟩
  | claimed => exact ⟨fun _ hne => CaseState.noConfusion hne, False.elim, fun _ => .inr rfl⟩

theorem CaseState.Keeps.trans {s₁ s₂ s₃ : CaseState} (h : s₁.Keeps s₂) (h' : s₂.Keeps s₃) :
    s₁.Keeps s₃ where
  left hne := h'.left (h.left hne)
  terminal hterminal := by
    have hsame := h.terminal hterminal
    rw [← hsame] at hterminal
    exact (h'.terminal hterminal).trans hsame
  entitled hstate := by
    rcases h.entitled hstate with hsame | hclaimed
    · exact h'.entitled hsame
    · right
      rw [h'.terminal (by rw [hclaimed]; trivial), hclaimed]

/-- Two releases that share none of the three replay keys. -/
def AcceptedRelease.Distinct (r s : AcceptedRelease) : Prop :=
  r.runId ≠ s.runId ∧ r.resultDigest ≠ s.resultDigest ∧ r.attestationDigest ≠ s.attestationDigest

/-- When a call is made. -/
def Event.time {W R : Type} : Event W R → Option ℕ
  | .call msg _ => some msg.timestamp
  | .outside .. => none

/-- Block times do not decrease along the list. -/
def Chronological {W R : Type} (events : List (Event W R)) : Prop :=
  events.Pairwise fun earlier later =>
    ∀ t t', earlier.time = some t → later.time = some t' → t ≤ t'

section

variable {W R : Type} {crypto : Crypto} {env : Externals W} {terms : AdapterTerms}
variable {accepted : W → R → AcceptedRelease} {c c' : Chain W} {event : Event W R} {g : Register}

/-- One event moves every case along its lifecycle. -/
theorem CaseStep.next (hstep : CaseStep crypto terms accepted c event g) (runId : Bytes32) :
    (c.adapter.caseByRun runId).state.Next (g.caseByRun runId).state := by
  have hwrite : ∀ (g : Register) (id : Bytes32) (entry : Case),
      g.caseByRun = c.adapter.caseByRun → (c.adapter.caseByRun id).state.Next entry.state →
      (c.adapter.caseByRun runId).state.Next ((g.write id entry).caseByRun runId).state := by
    intro g id entry hcases hnext
    simp only [Register.write, hcases]
    by_cases hsame : runId = id
    · rw [hsame, Function.update_self]
      exact hnext
    · rw [Function.update_of_ne hsame]
      exact .stay _
  cases hstep with
  | refuse _ hnew => exact hwrite _ _ _ rfl (by rw [hnew]; exact .refused)
  | openCase _ hnew => exact hwrite _ _ _ rfl (by rw [hnew]; exact .opened)
  | cure hopen => exact hwrite _ _ _ rfl (by rw [hopen]; exact .cured)
  | finalize hopen => exact hwrite _ _ _ rfl (by rw [hopen]; exact .entitled)
  | @claim _ _ holderIsA hentitled =>
      apply hwrite _ _ _ rfl
      rcases Reserve.markPaid_state holderIsA hentitled with hafter | hafter
      · rw [hafter, hentitled]
        exact .stay _
      · rw [hafter, hentitled]
        exact .claimed
  | quiet => exact .stay _

/-- What has been consumed is marked, under all three keys. -/
def Marked (releases : List AcceptedRelease) (g : Register) : Prop :=
  ∀ r ∈ releases, (g.caseByRun r.runId).state ≠ .none ∧ g.resultConsumed r.resultDigest = true ∧
    g.attestationConsumed r.attestationDigest = true

theorem update_true {α : Type} [DecidableEq α] {marks : α → Bool} {key key' : α}
    (h : marks key = true) : Function.update marks key' true key = true := by
  by_cases hsame : key = key'
  · rw [hsame, Function.update_self]
  · rw [Function.update_of_ne hsame, h]

/-- Marks are never taken back. -/
theorem CaseStep.marks (hstep : CaseStep crypto terms accepted c event g) :
    (∀ digest, c.adapter.resultConsumed digest = true → g.resultConsumed digest = true) ∧
      ∀ digest, c.adapter.attestationConsumed digest = true →
        g.attestationConsumed digest = true := by
  cases hstep with
  | refuse | openCase => exact ⟨fun _ => update_true, fun _ => update_true⟩
  | cure | finalize | claim | quiet => exact ⟨fun _ => id, fun _ => id⟩

/-- An event consumes at most one release, which is fresh under every key before
and marked under every key after. -/
theorem CaseStep.consumes (hstep : CaseStep crypto terms accepted c event g) :
    consumption accepted c event = [] ∨
      ∃ r, consumption accepted c event = [r] ∧
        (c.adapter.caseByRun r.runId).state = .none ∧
        c.adapter.resultConsumed r.resultDigest = false ∧
        c.adapter.attestationConsumed r.attestationDigest = false ∧ Marked [r] g := by
  cases hstep with
  | @refuse _ _ _ r hrelease hnew hresult hattestation =>
      subst hrelease
      refine .inr ⟨_, rfl, hnew, hresult, hattestation, fun s hmem => ?_⟩
      rw [List.mem_singleton.mp hmem]
      simp [Register.write, Register.consume, AcceptedRelease.refused]
  | @openCase _ _ _ r hrelease hnew hresult hattestation =>
      subst hrelease
      refine .inr ⟨_, rfl, hnew, hresult, hattestation, fun s hmem => ?_⟩
      rw [List.mem_singleton.mp hmem]
      simp [Register.write, Register.consume, AcceptedRelease.opened]
  | cure | finalize | claim => exact .inl rfl
  | quiet hquiet =>
      left
      cases event with
      | outside => rfl
      | call msg call =>
          cases call with
          | consumeRelease => exact absurd trivial hquiet
          | _ => rfl

/-- One event keeps what was consumed marked and pairwise distinct. -/
theorem consumed_step {releases : List AcceptedRelease}
    (hmarked : Marked releases c.adapter.register)
    (hdistinct : releases.Pairwise AcceptedRelease.Distinct)
    (hstep : CaseStep crypto terms accepted c event g) :
    Marked (releases ++ consumption accepted c event) g ∧
      (releases ++ consumption accepted c event).Pairwise AcceptedRelease.Distinct := by
  have hkept : Marked releases g := by
    intro r hmem
    obtain ⟨hstate, hresult, hattestation⟩ := hmarked r hmem
    exact ⟨(hstep.next r.runId).keeps.left hstate, hstep.marks.1 _ hresult,
      hstep.marks.2 _ hattestation⟩
  rcases hstep.consumes with hnone | ⟨r, hone, hnew, hresult, hattestation, hmark⟩
  · rw [hnone, List.append_nil]
    exact ⟨hkept, hdistinct⟩
  · rw [hone]
    constructor
    · intro s hmem
      rcases List.mem_append.mp hmem with hmem | hmem
      · exact hkept s hmem
      · exact hmark s hmem
    · refine List.pairwise_append.mpr ⟨hdistinct, List.pairwise_singleton _ _, ?_⟩
      intro s hmem r' hmem'
      rw [List.mem_singleton.mp hmem']
      obtain ⟨hstate, hspent, hused⟩ := hmarked s hmem
      refine ⟨fun hsame => hstate ?_, fun hsame => ?_, fun hsame => ?_⟩
      · rw [hsame]
        exact hnew
      · rw [hsame] at hspent
        exact nomatch hspent.symm.trans hresult
      · rw [hsame] at hused
        exact nomatch hused.symm.trans hattestation

end

section

variable {W R : Type} {crypto : Crypto} {env : Externals W} {terms : AdapterTerms}
variable {flavour : Flavour W R} {accepted : W → R → AcceptedRelease}
variable {token : Ledger Address 256} {world : W} {events : List (Event W R)} {c : Chain W}

/-- The calls of a run about one run identifier, in order. -/
def history (env : Externals W) (terms : AdapterTerms) (flavour : Flavour W R)
    (accepted : W → R → AcceptedRelease) (runId : Bytes32) (start : Chain W)
    (events : List (Event W R)) : List Entry :=
  trace (exec env terms flavour) (entries accepted runId) start events

/-- The releases a run consumed, in order. -/
def consumptions (env : Externals W) (terms : AdapterTerms) (flavour : Flavour W R)
    (accepted : W → R → AcceptedRelease) (start : Chain W) (events : List (Event W R)) :
    List AcceptedRelease :=
  trace (exec env terms flavour) (consumption accepted) start events

/-- Every case of a run has its file. -/
theorem run_filed (hflavour : flavour.Files crypto env terms accepted)
    (hrun : run (exec env terms flavour) (deployed token world) events = .ok c) (runId : Bytes32) :
    CaseFile crypto terms runId
      (history env terms flavour accepted runId (deployed token world) events)
      (c.adapter.caseByRun runId) := by
  refine run_history (P := fun events c => CaseFile crypto terms runId
    (history env terms flavour accepted runId (deployed token world) events)
    (c.adapter.caseByRun runId)) .blank ?_ hrun
  intro before event c₁ c₂ hbefore hfile hexec
  rw [history, trace_snoc hbefore hexec]
  exact hfile.step (exec_filed hflavour hexec).1

/-- The releases of a run are pairwise distinct. -/
theorem run_consumed (hflavour : flavour.Files crypto env terms accepted)
    (hrun : run (exec env terms flavour) (deployed token world) events = .ok c) :
    (consumptions env terms flavour accepted (deployed token world) events).Pairwise
      AcceptedRelease.Distinct := by
  have hboth := run_history (P := fun events c =>
    Marked (consumptions env terms flavour accepted (deployed token world) events)
        c.adapter.register ∧
      (consumptions env terms flavour accepted (deployed token world) events).Pairwise
        AcceptedRelease.Distinct) ⟨(fun r hmem => nomatch hmem), List.Pairwise.nil⟩ ?_ hrun
  · exact hboth.2
  · rintro before event c₁ c₂ hbefore ⟨hmarked, hdistinct⟩ hexec
    rw [consumptions, trace_snoc hbefore hexec]
    exact consumed_step hmarked hdistinct (exec_filed hflavour hexec).1

/-- Along any run no case goes back. -/
theorem run_keeps (hflavour : flavour.Files crypto env terms accepted) {c₁ : Chain W}
    (hrun : run (exec env terms flavour) c₁ events = .ok c) (runId : Bytes32) :
    (c₁.adapter.caseByRun runId).state.Keeps (c.adapter.caseByRun runId).state :=
  run_relates (P := fun _ => True)
    (R := fun c c' : Chain W =>
      (c.adapter.caseByRun runId).state.Keeps (c'.adapter.caseByRun runId).state)
    (fun _ => (CaseState.Next.stay _).keeps) CaseState.Keeps.trans (fun _ _ _ _ _ => trivial)
    (fun _ _ _ _ hexec => ((exec_filed hflavour hexec).1.next runId).keeps) hrun trivial

end

/-! ## What a payment rests on -/

section

variable {W R : Type} (crypto : Crypto) (env : Externals W) (terms : AdapterTerms)
variable (flavour : Flavour W R) (accepted : W → R → AcceptedRelease)

/-- One claim of a run, made after `before` from `c₁` to `c₂`: the consumption it
is paid from, the finalization in between, no cure in the whole run, no earlier
claim of the same side, and the transfer. -/
structure Payment (start : Chain W) (events before : List (Event W R)) (msg : Msg)
    (runId : Bytes32) (holderIsA : Bool) (c₁ c₂ : Chain W) (k : Consumption)
    (finalizedAt : ℕ) : Prop where
  attested : k.Attested crypto terms runId
  conflict : k.release.conflict = true
  finalized : k.deadline terms < finalizedAt
  earlier : ∃ rest, history env terms flavour accepted runId start before =
    .consumed k :: .finalized finalizedAt :: rest ∧ ∀ time, .claimed time holderIsA ∉ rest
  uncured : ∀ time, .cured time ∉ history env terms flavour accepted runId start events
  amount : c₁.token.move terms.adapter (k.release.holder holderIsA)
    (k.release.payout holderIsA) = some c₂.token
  late : Chronological events → k.deadline terms < msg.timestamp

/-- What a run of an adapter may pay. -/
structure PayoutSafety (start : Chain W) (events : List (Event W R)) (c : Chain W) : Prop where
  once : (consumptions env terms flavour accepted start events).Pairwise AcceptedRelease.Distinct
  file : ∀ runId, CaseFile crypto terms runId
    (history env terms flavour accepted runId start events) (c.adapter.caseByRun runId)
  keeps : ∀ before after c₁, events = before ++ after →
    run (exec env terms flavour) start before = .ok c₁ →
    ∀ runId, (c₁.adapter.caseByRun runId).state.Keeps (c.adapter.caseByRun runId).state
  pays : ∀ before after msg runId holderIsA c₁ c₂,
    events = before ++ .call msg (.claim runId holderIsA) :: after →
    run (exec env terms flavour) start before = .ok c₁ →
    exec env terms flavour c₁ (.call msg (.claim runId holderIsA)) = .ok c₂ →
    ∃ k finalizedAt, Payment crypto env terms flavour accepted start events before msg runId
      holderIsA c₁ c₂ k finalizedAt
  others : ∀ before after event c₁ c₂, events = before ++ event :: after →
    run (exec env terms flavour) start before = .ok c₁ →
    exec env terms flavour c₁ event = .ok c₂ → TokenStep terms c₁ c₂ event

end

section

variable {W R : Type} {crypto : Crypto} {env : Externals W} {terms : AdapterTerms}
variable {flavour : Flavour W R} {accepted : W → R → AcceptedRelease}
variable {token : Ledger Address 256} {world : W} {events before after : List (Event W R)}
variable {c c₁ c₂ : Chain W} {runId : Bytes32} {holderIsA : Bool}

/-- A case that is entitled or claimed was never cured. -/
theorem CaseFile.uncured {entries : List Entry} {entry : Case}
    (h : CaseFile crypto terms runId entries entry)
    (hstate : entry.state = .entitled ∨ entry.state = .claimed) (time : ℕ) :
    .cured time ∉ entries := by
  cases h with
  | blank | refused | opened | cured => rcases hstate with hstate | hstate <;> exact nomatch hstate
  | entitled | paid | closed => simp

/-- An entry of a history is as old as some event of its run. -/
theorem history_time {start : Chain W} {entry : Entry}
    (h : entry ∈ history env terms flavour accepted runId start events) :
    ∃ event ∈ events, event.time = some entry.time := by
  obtain ⟨event, hmem, c, hentry⟩ := mem_trace h
  refine ⟨event, hmem, ?_⟩
  cases event with
  | outside => cases hentry
  | call msg call =>
      cases call with
      | fundReserve | withdrawAvailable => cases hentry
      | consumeRelease | cure | finalize | claim =>
          simp only [entries] at hentry
          split at hentry
          · rw [List.mem_singleton.mp hentry]
            rfl
          · cases hentry

/-- What the record of an entitled case says about the side a claim pays. -/
theorem CaseFile.payable {entries : List Entry} {entry : Case}
    (h : CaseFile crypto terms runId entries entry) (hentitled : entry.state = .entitled)
    (hunpaid : entry.paid holderIsA = false) :
    ∃ (k : Consumption) (time : ℕ), k.Attested crypto terms runId ∧ k.release.conflict = true ∧
      k.deadline terms < time ∧ (∃ rest, entries = .consumed k :: .finalized time :: rest ∧
        ∀ time, .claimed time holderIsA ∉ rest) ∧
      entry.holder holderIsA = k.release.holder holderIsA ∧
      entry.payout holderIsA = k.release.payout holderIsA := by
  obtain ⟨k, time, hattested, hconflict, hwindow, ⟨rfl, rfl⟩ | ⟨first, side, -, rfl, rfl⟩⟩ :=
    h.of_entitled hentitled
  · refine ⟨k, time, hattested, hconflict, hwindow, ⟨[], rfl, fun _ hmem => nomatch hmem⟩, ?_, ?_⟩
    · cases holderIsA <;> rfl
    · cases holderIsA <;> rfl
  · refine ⟨k, time, hattested, hconflict, hwindow, ⟨_, rfl, fun time hmem => ?_⟩, ?_, ?_⟩
    · obtain ⟨-, rfl⟩ := Entry.claimed.inj (List.mem_singleton.mp hmem)
      cases holderIsA <;> exact nomatch hunpaid
    · cases holderIsA <;> cases side <;> rfl
    · cases holderIsA <;> cases side <;> rfl

/-- Every claim of a run is a payment with all it rests on. -/
theorem run_pays (hflavour : flavour.Files crypto env terms accepted)
    (hrun : run (exec env terms flavour) (deployed token world) events = .ok c) {msg : Msg}
    (hsplit : events = before ++ .call msg (.claim runId holderIsA) :: after)
    (hbefore : run (exec env terms flavour) (deployed token world) before = .ok c₁)
    (hexec : exec env terms flavour c₁ (.call msg (.claim runId holderIsA)) = .ok c₂) :
    ∃ k finalizedAt, Payment crypto env terms flavour accepted (deployed token world) events before
      msg runId holderIsA c₁ c₂ k finalizedAt := by
  have hfile := run_filed hflavour hbefore runId
  have hthrough : ∃ gate, claimThrough env terms c₁ gate runId holderIsA = .ok c₂ := by
    simp only [exec, bind_ok_iff] at hexec
    obtain ⟨-, -, hcall⟩ := hexec
    exact hflavour.claim hcall
  obtain ⟨gate, hclaim⟩ := hthrough
  obtain ⟨hmove, hentitled, hunpaid, -, -⟩ := claimThrough_register hclaim
  obtain ⟨k, finalizedAt, hattested, hconflict, hwindow, hearlier, hholder, hpayout⟩ :=
    hfile.payable hentitled hunpaid
  refine ⟨k, finalizedAt, hattested, hconflict, hwindow, hearlier, ?_, ?_, fun htimes => ?_⟩
  · apply (run_filed hflavour hrun runId).uncured
    rw [hsplit] at hrun
    obtain ⟨c₁', hbefore', hrest⟩ := run_append_ok_iff.mp hrun
    obtain rfl := Except.ok.inj (hbefore.symm.trans hbefore')
    exact (run_keeps hflavour hrest runId).entitled hentitled
  · rw [← hholder, ← hpayout]
    exact hmove
  · -- the finalization is an earlier event of the run
    obtain ⟨rest, hhistory, -⟩ := hearlier
    have hmem : .finalized finalizedAt ∈
        history env terms flavour accepted runId (deployed token world) before := by
      rw [hhistory]
      exact List.mem_cons_of_mem _ List.mem_cons_self
    obtain ⟨event, hevent, htime⟩ := history_time hmem
    rw [hsplit] at htimes
    have hordered := (List.pairwise_append.mp htimes).2.2 event hevent _ List.mem_cons_self
    exact hwindow.trans_le (hordered _ _ htime rfl)

theorem run_safe (hflavour : flavour.Files crypto env terms accepted)
    (hrun : run (exec env terms flavour) (deployed token world) events = .ok c) :
    PayoutSafety crypto env terms flavour accepted (deployed token world) events c where
  once := run_consumed hflavour hrun
  file := run_filed hflavour hrun
  keeps before after c₁ hsplit hbefore runId := by
    rw [hsplit] at hrun
    obtain ⟨c₁', hbefore', hrest⟩ := run_append_ok_iff.mp hrun
    obtain rfl := Except.ok.inj (hbefore.symm.trans hbefore')
    exact run_keeps hflavour hrest runId
  pays _ _ _ _ _ _ _ hsplit hbefore hexec := run_pays hflavour hrun hsplit hbefore hexec
  others _ _ _ _ _ _ _ hexec := (exec_filed hflavour hexec).2

end

/-- **Payout safety.** Every run of either adapter is safe in what it pays. -/
theorem payout_safety {W : Type} (crypto : Crypto) (env : Externals W) :
    (∀ terms token world events c,
      run (exec env terms (governed crypto env terms)) (deployed token world) events = .ok c →
      PayoutSafety crypto env terms (governed crypto env terms)
        (GovernedRelease.acceptedIn crypto env terms) (deployed token world) events c) ∧
    (∀ (terms : CoalitionTerms) token world events c,
      run (exec env terms.toAdapterTerms (coalition crypto env terms)) (deployed token world)
          events = .ok c →
      PayoutSafety crypto env terms.toAdapterTerms (coalition crypto env terms)
        (CoalitionRelease.acceptedIn crypto env terms.toAdapterTerms) (deployed token world)
        events c) := by
  constructor
  · intro terms token world events c hrun
    exact run_safe (governed_files terms) hrun
  · intro terms token world events c hrun
    exact run_safe (coalition_files terms) hrun

/-- Both adapters after the sample run. -/
theorem payout_safety_sample :
    (∃ c, PayoutSafety Sample.crypto Sample.env Sample.terms
        (governed Sample.crypto Sample.env Sample.terms)
        (GovernedRelease.acceptedIn Sample.crypto Sample.env Sample.terms)
        (deployed Sample.token ()) (Sample.events Sample.release) c) ∧
    ∃ c, PayoutSafety Sample.crypto Sample.env Sample.coalitionTerms.toAdapterTerms
        (coalition Sample.crypto Sample.env Sample.coalitionTerms)
        (CoalitionRelease.acceptedIn Sample.crypto Sample.env Sample.coalitionTerms.toAdapterTerms)
        (deployed Sample.token ()) (Sample.events Sample.coalitionRelease) c := by
  obtain ⟨c, -, world, hrun⟩ := Sample.governed_reaches
  obtain ⟨c', -, world', hrun'⟩ := Sample.coalition_reaches
  exact ⟨⟨c, (payout_safety Sample.crypto Sample.env).1 _ _ _ _ _ hrun⟩, c',
    (payout_safety Sample.crypto Sample.env).2 _ _ _ _ _ hrun'⟩

end Mordant.Recourse
