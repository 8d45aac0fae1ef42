/-
# One durable authorization for a result

Any number of executors share a directory of records.  Their calls interleave at
every await and at every operation on the directory, and an executor may crash
between any two of them, which loses its memory and its calls but no file.

A record is linked into place complete, or not at all; a permit is consumed before
anything is written.
-/

import Mordant.Foundation.Exclusion
import Mordant.Foundation.Occurrence
import Mordant.Protection.BridgeRecords

namespace Mordant.Protection

open Foundation Script
open Function (update update_self update_apply)

/-- Where a call of an executor is. -/
inductive BridgeCall (ε : Type)
  | idle
  /-- `simulate`, past its look at the preparation. -/
  | simulating (executor : ε) (handle : ℕ) (state : PreparedState)
  /-- `sign`, with its permit consumed and the record in a temporary file; it links next. -/
  | publishing (executor : ε) (permit : SimulationState) (record : BridgeOperationRecord)
  /-- `sign`, with another record in the way; it reads that next. -/
  | lost (executor : ε) (permit : SimulationState)
  /-- `sign`, with its record linked or reused; it returns next. -/
  | returning (executor : ε) (permit : SimulationState) (result : SignedBridge)
  | simulated (result : SimulatedBridge)
  | signed (executor : ε) (permit : SimulationState) (result : SignedBridge)
  | failed (thrown : BridgeThrown)

/-- What a crash of an executor leaves of a call. -/
def BridgeCall.afterCrash {ε : Type} [DecidableEq ε] (crashed : ε) : BridgeCall ε → BridgeCall ε
  | .simulating executor handle state =>
      if executor = crashed then .idle else .simulating executor handle state
  | .publishing executor permit record =>
      if executor = crashed then .idle else .publishing executor permit record
  | .lost executor permit => if executor = crashed then .idle else .lost executor permit
  | .returning executor permit result =>
      if executor = crashed then .idle else .returning executor permit result
  | call => call

/-- Executors of any number of processes, the records they share, and their calls. -/
structure BridgeSystem (ε τ : Type) where
  executors : ε → Executor
  records : BridgeRecords
  calls : τ → BridgeCall ε

/-- An executor that has issued nothing. -/
def Executor.fresh : Executor := ⟨fun _ => none, fun _ => none⟩

def BridgeSystem.initial (ε τ : Type) : BridgeSystem ε τ :=
  ⟨fun _ => .fresh, fun _ => none, fun _ => .idle⟩

/-- What can happen next. An object is named by a number that no live one has. -/
inductive BridgeEvent (ε τ : Type)
  /-- A preparation that has run to its end. -/
  | prepare (executor : ε) (handle : ℕ) (preparation : Preparation)
  | simulate (call : τ) (executor : ε) (handle : ℕ)
  /-- The rest of `simulate`, with what it finds outside and the object it returns. -/
  | finishSimulation (call : τ) (outside : BridgeDependencies) (permit : ℕ)
  /-- `sign` up to the link, with its two readings of the clock. -/
  | sign (call : τ) (executor : ε) (permit : ℕ) (signedAt persistedAt : ℤ)
  | link (call : τ)
  | reuse (call : τ)
  | finish (call : τ)
  | crash (executor : ε)

section

variable (runtime : RecordRuntime) {ε τ : Type} [DecidableEq ε] [DecidableEq τ]

/-- A call goes to another place. -/
def BridgeSystem.goes (s : BridgeSystem ε τ) (call : τ) (next : BridgeCall ε) :
    BridgeSystem ε τ :=
  { s with calls := update s.calls call next }

/-- An executor remembers something else. -/
def BridgeSystem.remembers (s : BridgeSystem ε τ) (executor : ε) (memory : Executor) :
    BridgeSystem ε τ :=
  { s with executors := update s.executors executor memory }

/-- An executor with a preparation more, under an object of its own. -/
def Executor.issue (memory : Executor) (handle : ℕ) (state : PreparedState) : Executor :=
  { memory with preparedStates := update memory.preparedStates handle (some state) }

/-- An executor without a permit. -/
def Executor.consume (memory : Executor) (permit : ℕ) : Executor :=
  { memory with simulationStates := update memory.simulationStates permit none }

/-- An executor after a preparation led to a permit. -/
def Executor.brand (memory : Executor) (handle permit : ℕ) (state : SimulationState) :
    Executor where
  preparedStates := update memory.preparedStates handle none
  simulationStates := update memory.simulationStates permit (some state)

def simulationStale : BridgeThrown := .execution "SIMULATION_STALE"
  "The successful bridge simulation is no longer fresh enough to authorize signing"

/-- `sign` up to the link. -/
def BridgeSystem.sign (s : BridgeSystem ε τ) (call : τ) (executor : ε) (permit : ℕ)
    (signedAt persistedAt : ℤ) : BridgeSystem ε τ :=
  match (s.executors executor).simulationStates permit with
  | none => s.goes call (.failed (.execution "SIMULATION_REQUIRED"
      "A fresh successful bridge simulation is required before signing"))
  | some state =>
    let consumed := s.remembers executor ((s.executors executor).consume permit)
    if signedAt < state.simulatedAtUnix ∨
        bridgeSimulationMaxAgeSeconds < signedAt - state.simulatedAtUnix then
      consumed.goes call (.failed simulationStale)
    else
      let record := signedRecord state.prepared state.signature persistedAt
      match bridgeRecordPath record.governedResultDigest with
      | .error thrown => consumed.goes call (.failed thrown)
      | .ok _ => consumed.goes call (.publishing executor state record)

/-- `link(2)`: the record appears complete, or another was there. -/
def BridgeSystem.link (s : BridgeSystem ε τ) (call : τ) (executor : ε)
    (permit : SimulationState) (record : BridgeOperationRecord) : BridgeSystem ε τ :=
  match s.records record.governedResultDigest with
  | some _ => s.goes call (.lost executor permit)
  | none =>
    { s.goes call
        (.returning executor permit ⟨permit.prepared, permit.signature, record, true⟩) with
      records := update s.records record.governedResultDigest (some record.json) }

/-- The rest of `simulate`. -/
def BridgeSystem.finishSimulation (s : BridgeSystem ε τ) (call : τ) (executor : ε)
    (handle : ℕ) (state : PreparedState) (outside : BridgeDependencies) (permit : ℕ) :
    BridgeSystem ε τ :=
  match settlementGate runtime.toRuntime state with
  | .error thrown => s.goes call (.failed thrown)
  | .ok () => match simulateCandidate runtime.toRuntime outside state.prepared with
    | .error thrown => s.goes call (.failed thrown)
    | .ok candidate =>
      (s.remembers executor ((s.executors executor).brand handle permit
        ⟨state.prepared, candidate, outside.now⟩)).goes call
          (.simulated ⟨state.prepared.intentDigest, state.prepared.typedDataDigest,
            state.prepared.signerAddress, outside.now⟩)

/-- One event. It is not there where it cannot happen. -/
def BridgeSystem.exec (s : BridgeSystem ε τ) :
    BridgeEvent ε τ → Except Unit (BridgeSystem ε τ)
  | .prepare executor handle preparation =>
    match (s.executors executor).preparedStates handle with
    | some _ => .error ()
    | none => match preparation.result runtime.toBridgeRuntime with
      | .error _ => .ok s
      | .ok state => .ok (s.remembers executor ((s.executors executor).issue handle state))
  | .simulate call executor handle =>
    match s.calls call with
    | .idle => match (s.executors executor).preparedStates handle with
      | none => .ok (s.goes call (.failed (.execution "PREPARED_UNTRUSTED"
          "The bridge preparation was not issued by this executor")))
      | some state => .ok (s.goes call (.simulating executor handle state))
    | _ => .error ()
  | .finishSimulation call outside permit =>
    match s.calls call with
    | .simulating executor handle state =>
      match (s.executors executor).simulationStates permit with
      | some _ => .error ()
      | none => .ok (s.finishSimulation runtime call executor handle state outside permit)
    | _ => .error ()
  | .sign call executor permit signedAt persistedAt =>
    match s.calls call with
    | .idle => .ok (s.sign call executor permit signedAt persistedAt)
    | _ => .error ()
  | .link call =>
    match s.calls call with
    | .publishing executor permit record => .ok (s.link call executor permit record)
    | _ => .error ()
  | .reuse call =>
    match s.calls call with
    | .lost executor permit =>
      match reuseSigned runtime s.records permit.prepared with
      | .error thrown => .ok (s.goes call (.failed thrown))
      | .ok signed => .ok (s.goes call (.returning executor permit signed))
    | _ => .error ()
  | .finish call =>
    match s.calls call with
    | .returning executor permit result => .ok (s.goes call (.signed executor permit result))
    | _ => .error ()
  | .crash executor => .ok
    { executors := update s.executors executor .fresh
      records := s.records
      calls := fun call => (s.calls call).afterCrash executor }

end

/-! ## What an event can do -/

section

variable {ε τ : Type} [DecidableEq ε] [DecidableEq τ]

inductive BridgeSystem.Step (runtime : RecordRuntime) (s : BridgeSystem ε τ) :
    BridgeEvent ε τ → BridgeSystem ε τ → Prop
  | refused {executor : ε} {handle : ℕ} {preparation : Preparation} :
      Step runtime s (.prepare executor handle preparation) s
  | issued {executor : ε} {handle : ℕ} {preparation : Preparation} {state : PreparedState}
      (hnone : (s.executors executor).preparedStates handle = none)
      (hstate : preparation.result runtime.toBridgeRuntime = .ok state) :
      Step runtime s (.prepare executor handle preparation)
        (s.remembers executor ((s.executors executor).issue handle state))
  | failed {e : BridgeEvent ε τ} {call : τ} {thrown : BridgeThrown}
      (halive : ∀ executor, e ≠ .crash executor) :
      Step runtime s e (s.goes call (.failed thrown))
  | simulates {call : τ} {executor : ε} {handle : ℕ} {state : PreparedState}
      (hstate : (s.executors executor).preparedStates handle = some state) :
      Step runtime s (.simulate call executor handle)
        (s.goes call (.simulating executor handle state))
  | permits {call : τ} {executor : ε} {handle permit : ℕ} {state : PreparedState}
      {outside : BridgeDependencies} {candidate : Hex} {result : SimulatedBridge}
      (hcall : s.calls call = .simulating executor handle state)
      (hgate : settlementGate runtime.toRuntime state = .ok ())
      (hcandidate : simulateCandidate runtime.toRuntime outside state.prepared = .ok candidate) :
      Step runtime s (.finishSimulation call outside permit)
        ((s.remembers executor ((s.executors executor).brand handle permit
          ⟨state.prepared, candidate, outside.now⟩)).goes call (.simulated result))
  | spends {call : τ} {executor : ε} {permit : ℕ} {signedAt persistedAt : ℤ}
      {thrown : BridgeThrown} :
      Step runtime s (.sign call executor permit signedAt persistedAt)
        ((s.remembers executor ((s.executors executor).consume permit)).goes call
          (.failed thrown))
  | publishes {call : τ} {executor : ε} {permit : ℕ} {signedAt persistedAt : ℤ}
      {state : SimulationState}
      (hstate : (s.executors executor).simulationStates permit = some state)
      (hstarted : state.simulatedAtUnix ≤ signedAt)
      (hfresh : signedAt - state.simulatedAtUnix ≤ bridgeSimulationMaxAgeSeconds) :
      Step runtime s (.sign call executor permit signedAt persistedAt)
        ((s.remembers executor ((s.executors executor).consume permit)).goes call
          (.publishing executor state (signedRecord state.prepared state.signature persistedAt)))
  | loses {call : τ} {executor : ε} {permit : SimulationState} {record : BridgeOperationRecord}
      (hcall : s.calls call = .publishing executor permit record) :
      Step runtime s (.link call) (s.goes call (.lost executor permit))
  | links {call : τ} {executor : ε} {permit : SimulationState} {record : BridgeOperationRecord}
      (hcall : s.calls call = .publishing executor permit record)
      (hnone : s.records record.governedResultDigest = none) :
      Step runtime s (.link call)
        { s.goes call (.returning executor permit
            ⟨permit.prepared, permit.signature, record, true⟩) with
          records := update s.records record.governedResultDigest (some record.json) }
  | reuses {call : τ} {executor : ε} {permit : SimulationState} {signed : SignedBridge}
      (hcall : s.calls call = .lost executor permit)
      (hreuse : reuseSigned runtime s.records permit.prepared = .ok signed) :
      Step runtime s (.reuse call) (s.goes call (.returning executor permit signed))
  | finishes {call : τ} {executor : ε} {permit : SimulationState} {signed : SignedBridge}
      (hcall : s.calls call = .returning executor permit signed) :
      Step runtime s (.finish call) (s.goes call (.signed executor permit signed))
  | crashes {executor : ε} :
      Step runtime s (.crash executor)
        { executors := update s.executors executor .fresh
          records := s.records
          calls := fun call => (s.calls call).afterCrash executor }

variable {runtime : RecordRuntime} {s s' : BridgeSystem ε τ} {e : BridgeEvent ε τ}

theorem BridgeSystem.step_sign {call : τ} {executor : ε} {permit : ℕ} {signedAt persistedAt : ℤ} :
    s.Step runtime (.sign call executor permit signedAt persistedAt)
      (s.sign call executor permit signedAt persistedAt) := by
  rw [sign]
  split
  · exact .failed nofun
  · next state hstate =>
      dsimp only
      split
      · exact .spends
      · next hfresh =>
          simp only [not_or, Int.not_lt] at hfresh
          split
          · exact .spends
          · exact .publishes hstate hfresh.1 hfresh.2

theorem BridgeSystem.step_finishSimulation {call : τ} {executor : ε} {handle permit : ℕ}
    {state : PreparedState} {outside : BridgeDependencies}
    (hcall : s.calls call = .simulating executor handle state) :
    s.Step runtime (.finishSimulation call outside permit)
      (s.finishSimulation runtime call executor handle state outside permit) := by
  rw [finishSimulation]
  split
  · exact .failed nofun
  · next hgate =>
      split
      · exact .failed nofun
      · next hcandidate => exact .permits hcall hgate hcandidate

theorem BridgeSystem.step_of_exec (hexec : s.exec runtime e = .ok s') : s.Step runtime e s' := by
  cases e with
  | crash executor =>
      obtain rfl := Except.ok.inj hexec
      exact .crashes
  | prepare executor handle preparation =>
      simp only [exec] at hexec
      split at hexec
      · exact nomatch hexec
      · next hnone =>
          split at hexec <;> obtain rfl := Except.ok.inj hexec
          · exact .refused
          · next hstate => exact .issued hnone hstate
  | simulate call executor handle =>
      simp only [exec] at hexec
      split at hexec
      · split at hexec <;> obtain rfl := Except.ok.inj hexec
        · exact .failed nofun
        · next hstate => exact .simulates hstate
      · exact nomatch hexec
  | finishSimulation call outside permit =>
      simp only [exec] at hexec
      split at hexec
      · next hcall =>
          split at hexec
          · exact nomatch hexec
          · obtain rfl := Except.ok.inj hexec
            exact step_finishSimulation hcall
      · exact nomatch hexec
  | sign call executor permit signedAt persistedAt =>
      simp only [exec] at hexec
      split at hexec
      · obtain rfl := Except.ok.inj hexec
        exact step_sign
      · exact nomatch hexec
  | link call =>
      simp only [exec] at hexec
      split at hexec
      · next hcall =>
          obtain rfl := Except.ok.inj hexec
          rw [link]
          split
          · exact .loses hcall
          · next hnone => exact .links hcall hnone
      · exact nomatch hexec
  | reuse call =>
      simp only [exec] at hexec
      split at hexec
      · next hcall =>
          split at hexec <;> obtain rfl := Except.ok.inj hexec
          · exact .failed nofun
          · next hreuse => exact .reuses hcall hreuse
      · exact nomatch hexec
  | finish call =>
      simp only [exec] at hexec
      split at hexec
      · next hcall =>
          obtain rfl := Except.ok.inj hexec
          exact .finishes hcall
      · exact nomatch hexec

end

/-! ## What a result was authorized by -/

section

variable (runtime : RecordRuntime) {ε τ : Type} [DecidableEq ε] [DecidableEq τ]

/-- The executor simulated what the permit names, and the adapter accepted it. -/
def SimulatedBefore (events : List (BridgeEvent ε τ)) (executor : ε) (permit : SimulationState) :
    Prop :=
  ∃ call outside number before s handle state,
    Happens (BridgeSystem.exec runtime) (.initial ε τ) events
      (.finishSimulation call outside number) before s ∧
    s.calls call = .simulating executor handle state ∧ state.prepared = permit.prepared ∧
    settlementGate runtime.toRuntime state = .ok () ∧
    simulateCandidate runtime.toRuntime outside state.prepared = .ok permit.signature ∧
    permit.simulatedAtUnix = outside.now

/-- The call of `sign` held the permit, fresh, and there was a simulation before. -/
def AuthorizedBy (events : List (BridgeEvent ε τ)) (call : τ) (executor : ε)
    (permit : SimulationState) : Prop :=
  ∃ number signedAt persistedAt before s,
    Happens (BridgeSystem.exec runtime) (.initial ε τ) events
      (.sign call executor number signedAt persistedAt) before s ∧
    (s.executors executor).simulationStates number = some permit ∧
    permit.simulatedAtUnix ≤ signedAt ∧
    signedAt - permit.simulatedAtUnix ≤ bridgeSimulationMaxAgeSeconds ∧
    SimulatedBefore runtime before executor permit

/-- What a call stands for where it is. -/
def BridgeCall.Sound (events : List (BridgeEvent ε τ)) (records : BridgeRecords) (call : τ) :
    BridgeCall ε → Prop
  | .simulating _ _ state => CanonicalPrepared state.prepared
  | .publishing executor permit record =>
      CanonicalPrepared permit.prepared ∧ AuthorizedBy runtime events call executor permit ∧
        ∃ now, record = signedRecord permit.prepared permit.signature now
  | .lost executor permit =>
      CanonicalPrepared permit.prepared ∧ AuthorizedBy runtime events call executor permit
  | .returning executor permit result | .signed executor permit result =>
      result.prepared = permit.prepared ∧ CarriesRecord records result ∧
        AuthorizedBy runtime events call executor permit
  | _ => True

/-- What holds of an executor's memory. -/
structure Executor.Sound (events : List (BridgeEvent ε τ)) (executor : ε) (memory : Executor) :
    Prop where
  prepared : ∀ handle state, memory.preparedStates handle = some state →
    CanonicalPrepared state.prepared
  permits : ∀ number permit, memory.simulationStates number = some permit →
    CanonicalPrepared permit.prepared ∧ SimulatedBefore runtime events executor permit

/-- What holds of the system after the events that led to it. -/
structure BridgeTrace (events : List (BridgeEvent ε τ)) (s : BridgeSystem ε τ) : Prop where
  executors : ∀ executor, (s.executors executor).Sound runtime events executor
  records : ∀ digest raw, s.records digest = some raw →
    ∃ record : BridgeOperationRecord, raw = record.json ∧ record.governedResultDigest = digest
  calls : ∀ call, (s.calls call).Sound runtime events s.records call

end

section

variable {runtime : RecordRuntime} {ε τ : Type} [DecidableEq ε] [DecidableEq τ]
  {events later : List (BridgeEvent ε τ)} {records records' : BridgeRecords} {call : τ}
  {executor : ε} {permit : SimulationState} {s s' : BridgeSystem ε τ} {memory : Executor}

theorem SimulatedBefore.mono (h : SimulatedBefore runtime events executor permit)
    (hlater : events <+: later) : SimulatedBefore runtime later executor permit := by
  obtain ⟨call, outside, number, before, s, handle, state, hhappens, hfacts⟩ := h
  exact ⟨call, outside, number, before, s, handle, state, hhappens.mono hlater, hfacts⟩

theorem AuthorizedBy.mono (h : AuthorizedBy runtime events call executor permit)
    (hlater : events <+: later) : AuthorizedBy runtime later call executor permit := by
  obtain ⟨number, signedAt, persistedAt, before, s, hhappens, hfacts⟩ := h
  exact ⟨number, signedAt, persistedAt, before, s, hhappens.mono hlater, hfacts⟩

theorem CarriesRecord.mono {signed : SignedBridge} (h : CarriesRecord records signed)
    (hrecords : Extends records records') : CarriesRecord records' signed := by
  obtain ⟨record, hrecord, hfacts⟩ := h
  exact ⟨record, hrecords _ _ hrecord, hfacts⟩

theorem BridgeCall.Sound.mono {place : BridgeCall ε}
    (h : place.Sound runtime events records call) (hlater : events <+: later)
    (hrecords : Extends records records') : place.Sound runtime later records' call := by
  cases place with
  | idle | simulated _ | failed _ | simulating _ _ _ => exact h
  | publishing executor permit record =>
      obtain ⟨hcanonical, hauthorized, hrecord⟩ := h
      exact ⟨hcanonical, hauthorized.mono hlater, hrecord⟩
  | lost executor permit =>
      obtain ⟨hcanonical, hauthorized⟩ := h
      exact ⟨hcanonical, hauthorized.mono hlater⟩
  | returning executor permit result | signed executor permit result =>
      obtain ⟨hprepared, hcarries, hauthorized⟩ := h
      exact ⟨hprepared, hcarries.mono hrecords, hauthorized.mono hlater⟩

theorem BridgeCall.Sound.afterCrash {place : BridgeCall ε} {crashed : ε}
    (h : place.Sound runtime events records call) :
    (place.afterCrash crashed).Sound runtime events records call := by
  cases place with
  | idle | simulated _ | failed _ | signed _ _ _ => exact h
  | simulating executor _ _ | publishing executor _ _ | lost executor _
  | returning executor _ _ =>
      simp only [BridgeCall.afterCrash]
      split
      · trivial
      · exact h

theorem Executor.fresh_sound : Executor.fresh.Sound runtime events executor where
  prepared := by
    intro handle state hstate
    exact nomatch hstate
  permits := by
    intro number permit hpermit
    exact nomatch hpermit

theorem Executor.Sound.mono (h : memory.Sound runtime events executor)
    (hlater : events <+: later) : memory.Sound runtime later executor where
  prepared := h.prepared
  permits := by
    intro number permit hpermit
    exact ⟨(h.permits number permit hpermit).1, (h.permits number permit hpermit).2.mono hlater⟩

theorem Executor.Sound.issue {handle : ℕ} {state : PreparedState}
    (h : memory.Sound runtime events executor) (hstate : CanonicalPrepared state.prepared) :
    (memory.issue handle state).Sound runtime events executor where
  prepared := by
    intro other found hfound
    simp only [Executor.issue, update_apply] at hfound
    split at hfound
    · obtain rfl := Option.some.inj hfound
      exact hstate
    · exact h.prepared other found hfound
  permits := h.permits

theorem Executor.Sound.consume {number : ℕ} (h : memory.Sound runtime events executor) :
    (memory.consume number).Sound runtime events executor where
  prepared := h.prepared
  permits := by
    intro other found hfound
    simp only [Executor.consume, update_apply] at hfound
    split at hfound
    · exact nomatch hfound
    · exact h.permits other found hfound

theorem Executor.Sound.brand {handle number : ℕ} (h : memory.Sound runtime events executor)
    (hcanonical : CanonicalPrepared permit.prepared)
    (hsimulated : SimulatedBefore runtime events executor permit) :
    (memory.brand handle number permit).Sound runtime events executor where
  prepared := by
    intro other found hfound
    simp only [Executor.brand, update_apply] at hfound
    split at hfound
    · exact nomatch hfound
    · exact h.prepared other found hfound
  permits := by
    intro other found hfound
    simp only [Executor.brand, update_apply] at hfound
    split at hfound
    · obtain rfl := Option.some.inj hfound
      exact ⟨hcanonical, hsimulated⟩
    · exact h.permits other found hfound

namespace BridgeTrace

theorem mono (h : BridgeTrace runtime events s) (hlater : events <+: later) :
    BridgeTrace runtime later s where
  executors := fun executor => (h.executors executor).mono hlater
  records := h.records
  calls := fun call => (h.calls call).mono hlater (Extends.refl _)

theorem sound {place : BridgeCall ε} (h : BridgeTrace runtime events s)
    (hcall : s.calls call = place) : place.Sound runtime events s.records call :=
  hcall ▸ h.calls call

/-- A call may go where it is sound. -/
theorem goes {next : BridgeCall ε} (h : BridgeTrace runtime events s)
    (hnext : next.Sound runtime events s.records call) :
    BridgeTrace runtime events (s.goes call next) where
  executors := h.executors
  records := h.records
  calls := by
    intro other
    show (update s.calls call next other).Sound runtime events s.records other
    rw [update_apply]
    split
    · next hsame =>
        subst hsame
        exact hnext
    · exact h.calls other

/-- An executor may remember what is sound. -/
theorem remembers (h : BridgeTrace runtime events s)
    (hmemory : memory.Sound runtime events executor) :
    BridgeTrace runtime events (s.remembers executor memory) where
  executors := by
    intro other
    show (update s.executors executor memory other).Sound runtime events other
    rw [update_apply]
    split
    · next hsame =>
        subst hsame
        exact hmemory
    · exact h.executors other
  records := h.records
  calls := h.calls

/-- A record may appear where there is none. -/
theorem publish {record : BridgeOperationRecord} (h : BridgeTrace runtime events s)
    (hnone : s.records record.governedResultDigest = none) :
    BridgeTrace runtime events
      { s with records :=
          update s.records record.governedResultDigest (some record.json) } where
  executors := h.executors
  records := by
    intro digest raw hraw
    simp only [update_apply] at hraw
    split at hraw
    · next hsame =>
        obtain rfl := Option.some.inj hraw
        exact ⟨record, rfl, hsame.symm⟩
    · exact h.records digest raw hraw
  calls := fun call => (h.calls call).mono List.prefix_rfl (Extends.update hnone)

theorem crash {crashed : ε} (h : BridgeTrace runtime events s) :
    BridgeTrace runtime events
      ⟨update s.executors crashed .fresh, s.records,
        fun call => (s.calls call).afterCrash crashed⟩ where
  executors := (h.remembers Executor.fresh_sound).executors
  records := h.records
  calls := fun call => (h.calls call).afterCrash

end BridgeTrace

end

/-! ## Every run -/

section

variable {runtime : RecordRuntime} {ε τ : Type} [DecidableEq ε] [DecidableEq τ]
  {before events later : List (BridgeEvent ε τ)} {s s' t : BridgeSystem ε τ} {e : BridgeEvent ε τ}
  {call : τ} {executor : ε}

/-- **One event.** -/
theorem BridgeTrace.exec (hlower : LowerCaseHashes runtime.toBridgeRuntime)
    (hreached : run (BridgeSystem.exec runtime) (.initial ε τ) before = .ok s)
    (h : BridgeTrace runtime before s) (hexec : s.exec runtime e = .ok s') :
    BridgeTrace runtime (before ++ [e]) s' := by
  have hlater := h.mono (List.prefix_append before [e])
  cases BridgeSystem.step_of_exec hexec with
  | refused => exact hlater
  | issued _ hstate =>
      exact hlater.remembers
        ((hlater.executors _).issue (Preparation.canonical hlower hstate))
  | failed => exact hlater.goes trivial
  | simulates hstate => exact hlater.goes ((h.executors _).prepared _ _ hstate)
  -- a permit comes of a simulation only
  | permits hcall hgate hcandidate =>
      refine (hlater.remembers ((hlater.executors _).brand ?_ ?_)).goes trivial
      · exact h.sound hcall
      · exact ⟨_, _, _, before, s, _, _, .last hreached, hcall, rfl, hgate, hcandidate, rfl⟩
  | spends => exact (hlater.remembers (hlater.executors _).consume).goes trivial
  | publishes hstate hstarted hfresh =>
      obtain ⟨hcanonical, hsimulated⟩ := (h.executors _).permits _ _ hstate
      apply (hlater.remembers (hlater.executors _).consume).goes
      exact ⟨hcanonical, ⟨_, _, _, before, s, .last hreached, hstate, hstarted, hfresh,
        hsimulated⟩, _, rfl⟩
  | loses hcall =>
      have hsound := hlater.sound hcall
      exact hlater.goes ⟨hsound.1, hsound.2.1⟩
  -- what is linked is the record of the permit
  | links hcall hnone =>
      obtain ⟨-, hauthorized, now, rfl⟩ := hlater.sound hcall
      apply (hlater.publish hnone).goes
      exact ⟨rfl, ⟨_, update_self _ _ _, rfl, rfl, rfl, rfl⟩, hauthorized⟩
  | reuses hcall hreuse =>
      have hsound := hlater.sound hcall
      have hfiles : ∀ digest raw, s.records digest = some raw →
          ∃ record : BridgeOperationRecord, raw = record.json := by
        intro digest raw hraw
        obtain ⟨record, hrecord, -⟩ := h.records digest raw hraw
        exact ⟨record, hrecord⟩
      obtain ⟨hprepared, hcarries⟩ := reuseSigned_ok hlower hsound.1 hfiles hreuse
      exact hlater.goes ⟨hprepared, hcarries, hsound.2⟩
  | finishes hcall =>
      have hsound := hlater.sound hcall
      exact hlater.goes hsound
  | crashes => exact hlater.crash

theorem BridgeTrace.initial : BridgeTrace runtime [] (.initial ε τ) where
  executors := fun _ => Executor.fresh_sound
  records := by
    intro digest raw hraw
    exact nomatch hraw
  calls := fun _ => trivial

/-- **Every run.** -/
theorem BridgeTrace.run (hlower : LowerCaseHashes runtime.toBridgeRuntime)
    (hrun : run (BridgeSystem.exec runtime) (.initial ε τ) events = .ok s) :
    BridgeTrace runtime events s :=
  run_history BridgeTrace.initial
    (fun _ _ _ _ hreached h hexec => h.exec hlower hreached hexec) hrun

/-- No event replaces a record. -/
theorem BridgeSystem.exec_extends (hexec : s.exec runtime e = .ok s') :
    Extends s.records s'.records := by
  cases step_of_exec hexec with
  | links _ hnone => exact Extends.update hnone
  | refused | issued | failed | simulates | permits | spends | publishes | loses | reuses
  | finishes | crashes => exact Extends.refl _

/-- No run replaces a record. -/
theorem BridgeSystem.run_extends (hrun : run (BridgeSystem.exec runtime) s later = .ok t) :
    Extends s.records t.records := by
  apply run_history (P := fun _ reached => Extends s.records reached.records) (Extends.refl _)
    _ hrun
  intro _ _ _ _ _ h hexec
  exact h.trans (exec_extends hexec)

/-- The call would publish a record for the result if it linked now. -/
def BridgeSystem.Publishes (s : BridgeSystem ε τ) (call : τ) (digest : Hex) : Prop :=
  ∃ executor permit record, s.calls call = .publishing executor permit record ∧
    record.governedResultDigest = digest ∧ s.records digest = none

/-- A record that was published stays, as what was published. -/
theorem BridgeSystem.Publishes.stays {digest : Hex} (h : s.Publishes call digest)
    (hlink : Happens (BridgeSystem.exec runtime) (.initial ε τ) events (.link call) before s)
    (hrun : run (BridgeSystem.exec runtime) (.initial ε τ) events = .ok t) :
    ∃ executor permit record, s.calls call = .publishing executor permit record ∧
      t.records digest = some record.json := by
  obtain ⟨executor, permit, record, hcall, hdigest, hnone⟩ := h
  obtain ⟨s₁, after, hexec, -, hafter⟩ := hlink.step hrun
  have hlinked : s₁.records digest = some record.json := by
    simp only [exec, hcall] at hexec
    obtain rfl := Except.ok.inj hexec
    subst hdigest
    simp only [link, hnone, update_self]
  exact ⟨executor, permit, record, hcall, run_extends hafter digest record.json hlinked⟩

/-- **Durable one-shot authorization.** In every run of any number of executors over
the same records, crashes included: a result has at most one publication, every
record there stays what it is, and what `sign` returned carries the record of its
result, on a permit that was fresh and comes of simulating what was signed. -/
theorem bridge_records_one_shot (hlower : LowerCaseHashes runtime.toBridgeRuntime)
    (hrun : run (BridgeSystem.exec runtime) (.initial ε τ) events = .ok s)
    (hlater : run (BridgeSystem.exec runtime) s later = .ok t) :
    (∀ digest call call' before before' s₁ s₂,
      Happens (BridgeSystem.exec runtime) (.initial ε τ) events (.link call) before s₁ →
      Happens (BridgeSystem.exec runtime) (.initial ε τ) events (.link call') before' s₂ →
      s₁.Publishes call digest → s₂.Publishes call' digest → before = before' ∧ call = call') ∧
    (∀ digest raw, s.records digest = some raw →
      (∃ record : BridgeOperationRecord, raw = record.json ∧
        record.governedResultDigest = digest) ∧ t.records digest = some raw) ∧
    ∀ call executor permit signed, s.calls call = .signed executor permit signed →
      signed.prepared = permit.prepared ∧ CarriesRecord t.records signed ∧
        AuthorizedBy runtime events call executor permit := by
  have htrace := BridgeTrace.run hlower hrun
  have hextends := BridgeSystem.run_extends hlater
  refine ⟨?_, ?_, ?_⟩
  · intro digest call call' before before' s₁ s₂ hfirst hsecond hpublishes hpublishes'
    have hearlier : ∀ {call call' before before'} {s₁ s₂ : BridgeSystem ε τ},
        run (BridgeSystem.exec runtime) (.initial ε τ) before = .ok s₁ →
        run (BridgeSystem.exec runtime) (.initial ε τ) before' = .ok s₂ →
        s₁.Publishes call digest → s₂.Publishes call' digest →
        ¬ before ++ [.link call] <+: before' := by
      intro call call' before before' s₁ s₂ hreached hreached' hpublishes hpublishes' hbefore
      obtain ⟨_, _, record, -, hthere⟩ := hpublishes.stays ⟨hbefore, hreached⟩ hreached'
      obtain ⟨_, _, _, -, -, hnone⟩ := hpublishes'
      exact nomatch hthere.symm.trans hnone
    rcases hfirst.same_or_before hsecond with ⟨hbefore, hevent⟩ | hbefore | hbefore
    · exact ⟨hbefore, BridgeEvent.link.inj hevent⟩
    · exact absurd hbefore (hearlier hfirst.reached hsecond.reached hpublishes hpublishes')
    · exact absurd hbefore (hearlier hsecond.reached hfirst.reached hpublishes' hpublishes)
  · intro digest raw hraw
    exact ⟨htrace.records digest raw hraw, hextends digest raw hraw⟩
  · intro call executor permit signed hcall
    have hsound := htrace.calls call
    rw [hcall] at hsound
    obtain ⟨hprepared, hcarries, hauthorized⟩ := hsound
    exact ⟨hprepared, hcarries.mono hextends, hauthorized⟩

end

namespace Sample

/-- The plan that pays the conflict of run `run-a`. -/
def bridgePlan : SettlementPlan :=
  { plan with runId := runHash }

/-- The hash of that plan besides. Addresses of digits alone are their own checksum. -/
def recordRuntime : RecordRuntime where
  toBridgeRuntime :=
    { bridgeRuntime with
      lower_hex := bridge_lower_hex
      sha256 := fun text =>
        if lit "MordantSettlementPlan/v1" <+: text then
          lit "309d3ca154c0d783bb808d0bdd793c097e48ad1a70bcc41b28cfb6270d54bcb0"
        else lit "995368e550098376c716e59eef8ef11ba5be19e26f5c68a71e2bb9471820d555" }
  getAddress text := some text
  recoverAddress _ _ := some adapterState.attestor

theorem lowerUnit_digit {unit : UInt16} (h : isLowerHexDigit unit = true) :
    lowerUnit unit = unit := by
  simp only [isLowerHexDigit, Bool.or_eq_true, Bool.and_eq_true, decide_eq_true_eq,
    UInt16.le_iff_toNat_le, UInt16.reduceToNat] at h
  rw [lowerUnit, if_neg]
  simp only [UInt16.le_iff_toNat_le, UInt16.reduceToNat]
  omega

theorem lowerCaseHashes : LowerCaseHashes recordRuntime.toBridgeRuntime where
  hashTypedData payload digest h := by
    obtain rfl := Option.some.inj h
    show isCanonicalHex 32 (lit _) = true
    decide
  sha256 text := by
    show isDigestDigits (if _ then _ else _) = true
    split <;> decide
  lower text h := by
    simp only [isCanonicalHex, matchesDigits, Bool.and_eq_true, decide_eq_true_eq,
      List.all_eq_true] at h
    obtain ⟨⟨⟨digits, rfl⟩, -⟩, hdigits⟩ := h
    rw [List.drop_left] at hdigits
    show (lit "0x" ++ digits).map lowerUnit = lit "0x" ++ digits
    have hhead : (lit "0x").map lowerUnit = lit "0x" := by decide
    rw [List.map_append, hhead, List.map_congr_left fun unit hunit =>
      lowerUnit_digit (hdigits unit hunit), List.map_id']

def bridgeOutside : BridgeDependencies where
  loadSigner := .ok ⟨adapterState.attestor, fun _ => some blankSignature⟩
  simulates _ _ _ := true
  now := 1000

/-- A preparation of the conflict, with the authority to pay it. -/
def preparation : Preparation :=
  .direct adapterReader adapterState.address (.ok artifacts.configuration)
    (fun _ => .ok (holders, releaseOf true)) (.ok deployment) bridgeWindow
    (some ⟨bridgePlan, deriveSettlementAuthorization recordRuntime.toRuntime bridgePlan⟩)

/-- One executor, from the preparation to the signature. -/
def signing : List (BridgeEvent ℕ ℕ) :=
  [.prepare 0 0 preparation, .simulate 0 0 0, .finishSimulation 0 bridgeOutside 0,
    .sign 1 0 0 1030 1031, .link 1, .finish 1]

/-- Whether the call returned a record it published. -/
def publishedBy (call : ℕ) (s : BridgeSystem ℕ ℕ) : Bool :=
  match s.calls call with
  | .signed _ _ signed => signed.newlySigned
  | _ => false

end Sample

/-- A call of `sign` returns what it published. -/
theorem signing_publishes :
    ∃ s, run (BridgeSystem.exec Sample.recordRuntime) (.initial ℕ ℕ) Sample.signing = .ok s ∧
      ∃ executor permit signed, s.calls 1 = .signed executor permit signed ∧
        signed.newlySigned = true ∧ CarriesRecord s.records signed := by
  obtain ⟨s, hrun, hpublished⟩ := any_ok_iff.mp
    (show (run (BridgeSystem.exec Sample.recordRuntime) (.initial ℕ ℕ)
      Sample.signing).toOption.any (Sample.publishedBy 1) = true by decide +kernel)
  refine ⟨s, hrun, ?_⟩
  simp only [Sample.publishedBy] at hpublished
  split at hpublished
  · next executor permit signed hcall =>
      have hshot := bridge_records_one_shot Sample.lowerCaseHashes hrun (run_nil _ _)
      exact ⟨executor, permit, signed, hcall, hpublished, (hshot.2.2 1 _ _ _ hcall).2.1⟩
  · exact nomatch hpublished

end Mordant.Protection
