/-
# Operators and coordinators on a network

An operator serves signed requests over its ledger: PREPARE reserves a binding, COMMIT
crosses the barrier and generates one share, ACK closes the record.  A coordinator runs
the three against two operators and journals both responses before it acknowledges.

Requests are served one ledger transaction at a time, in any order, any number of times,
and a party can be lost at any point.  A request on the network stays there, so it may be
delivered late, again, or never.  A ledger may be opened at any moment; a restart is the
case in which the requests that were being served are lost first.

The history records what was written, generated, answered and journaled, newest first.
Nothing but the history reads it.
-/

import Mordant.Foundation.Interleaving
import Mordant.ThresholdNet.Lifecycle
import Mordant.ThresholdNet.Wire

namespace Mordant.ThresholdNet

open Evm Foundation
open Coalition (Digest Word64 Ciphertext ReleaseDescriptor ThresholdReleaseResponse
  ThresholdOperator FheLibrary uint64Bytes)

/-! ## Requests -/

/-- What the service calls and does not implement. -/
structure NetworkLibrary extends FheLibrary where
  sha256 : Bytes → Digest
  unmarshalCiphertext : Bytes → Except String Ciphertext

structure OperatorServer where
  operator : ThresholdOperator
  coordinatorPublicKey : Bytes

/-- A request as the server gets it: no verified chains where there is no TLS, and the key
of the peer's first certificate where it is an Ed25519 key. -/
structure HttpRequest where
  path : String
  method : String
  verifiedChains : ℕ
  peerKey : Option Bytes
  body : Bytes

/-- An answer; `carries` names the descriptor whose share is the body. -/
structure Response where
  status : ℕ
  body : Bytes := []
  carries : Option ReleaseDescriptor := none

/-- A request that is refused with an error status. -/
structure Refusal where
  status : ℕ
  message : String
  isError : 400 ≤ status

/-- `writeBoundedError`. -/
def boundedError (status : ℕ) (message : String) (isError : 400 ≤ status := by decide) :
    Refusal :=
  ⟨status, message, isError⟩

def preparePath : String := "/v1/prepare"
def commitPath : String := "/v1/commit"
def ackPath : String := "/v1/ack"

section

variable (library : NetworkLibrary)

def wireDomain : Bytes := stringBytes "mordant.threshold.network-request/v1"

def signedRequestDigest (request : SignedRequest) : Digest :=
  library.sha256 (wireDomain ++ [0, request.operation] ++
    wordBytes (library.sha256 request.descriptor) ++
    wordBytes (library.sha256 request.ciphertext) ++ wordBytes request.responseDigest ++
    wordBytes request.nonce)

def verifySignedRequest (request : SignedRequest) (publicKey : Bytes) : Bool :=
  request.nonce ≠ 0 && publicKey.length = 32 &&
    library.ed25519Verify publicKey (wordBytes (signedRequestDigest library request))
      request.signature.1

/-- The bytes that `coalitionDigest` hashes. -/
def coalitionText (coalition : Word64 × Word64) : Bytes :=
  stringBytes "mordant.threshold.coalition/v1" ++ [0] ++
    (if coalition.1 < coalition.2 then
      uint64Bytes coalition.1 ++ uint64Bytes coalition.2
    else uint64Bytes coalition.2 ++ uint64Bytes coalition.1)

def coalitionDigest (coalition : Word64 × Word64) : Digest :=
  library.sha256 (coalitionText coalition)

/-- What `authorize` checks of every request, at a time. -/
def authorize (server : OperatorServer) (request : HttpRequest) (now : ℤ)
    (expected : Operation) : Except Refusal (SignedRequest × ReleaseDescriptor) := do
  revertIf (request.method ≠ "POST" ∨ request.verifiedChains = 0 ∨
      server.coordinatorPublicKey.length ≠ 32)
    (boundedError 401 "coordinator authentication required")
  revertIf (request.peerKey ≠ some server.coordinatorPublicKey)
    (boundedError 401 "coordinator authentication required")
  revertIf (maxNetworkBodyBytes < request.body.length)
    (boundedError 400 "invalid binary request")
  let parsed ← (unmarshalSignedRequest request.body).mapError fun _ =>
    boundedError 401 "invalid signed request"
  revertIf (parsed.operation ≠ expected ∨
      verifySignedRequest library parsed server.coordinatorPublicKey = false)
    (boundedError 401 "invalid signed request")
  let descriptor ← (unmarshalReleaseDescriptor parsed.descriptor).mapError fun _ =>
    boundedError 400 "invalid release descriptor"
  revertIf (descriptor.validUntil < BitVec.ofInt 64 now)
    (boundedError 410 "release descriptor expired")
  pure (parsed, descriptor)

/-- `authorize` of an acknowledgement, which has no ciphertext. -/
def authorizeAck (server : OperatorServer) (request : HttpRequest) (now : ℤ) :
    Except Refusal (SignedRequest × ReleaseDescriptor) := do
  let (parsed, descriptor) ← authorize library server request now operationAck
  revertIf (parsed.ciphertext.length ≠ 0 ∨ parsed.responseDigest = 0)
    (boundedError 400 "invalid acknowledgement")
  pure (parsed, descriptor)

/-- `authorize` of a request with a ciphertext. -/
def authorizeRelease (server : OperatorServer) (request : HttpRequest) (now : ℤ)
    (expected : Operation) : Except Refusal (ReleaseDescriptor × Ciphertext) := do
  let (parsed, descriptor) ← authorize library server request now expected
  revertIf (parsed.ciphertext.length = 0 ∨ parsed.responseDigest ≠ 0)
    (boundedError 400 "invalid release payload")
  let ciphertext ← (library.unmarshalCiphertext parsed.ciphertext).mapError fun _ =>
    boundedError 400 "invalid result ciphertext"
  pure (descriptor, ciphertext)

def generateReleaseShare (operator : ThresholdOperator) (descriptor : ReleaseDescriptor)
    (ciphertext : Ciphertext) (coins : Bytes) : Except String ThresholdReleaseResponse := do
  operator.validateReleaseRequest library.toFheLibrary descriptor ciphertext
  operator.respond library.toFheLibrary descriptor ciphertext coins

end

/-! ## What happens between the parties -/

/-- The two responses a coordinator journals, with the operator each came from. -/
structure Journal (S : Type) where
  descriptor : ReleaseDescriptor
  servers : S × S
  wires : Bytes × Bytes

/-- Where a served request comes from: a coordinator sent it, or someone else. -/
inductive Source (S : Type)
  | sent (ticket : ℕ)
  | outside (server : S) (request : HttpRequest)

/-- The circumstances of a transaction: the clock, and whether the database is open. -/
structure Tx where
  now : ℤ
  isOpen : Bool := true

/-- What the history records; `asked` is the request on whose behalf a record was written. -/
inductive Event (ι S : Type)
  | wrote (party : ι) (server : S) (asked : ReleaseDescriptor) (record : Record)
  | generated (party : ι) (server : S) (descriptor : ReleaseDescriptor)
  | answered (party : ι) (source : Source S) (server : S) (response : Response)
  | persisted (party : ι) (journal : Journal S)

/-- The ledgers, what was sent and answered, and the history. A ticket is the place of a
request among those sent. -/
structure World (ι S : Type) where
  ledgers : S → Ledger := fun _ => {}
  sent : List (S × HttpRequest) := []
  replies : List (ℕ × Response) := []
  history : List (Event ι S) := []

/-- What a party does outside its own memory, and the generation of a share. -/
inductive Op (S : Type)
  | receive (source : Source S)
  | get (server : S) (isOpen : Bool) (sessionID : Digest)
  | ledger (server : S) (tx : Tx) (asked : ReleaseDescriptor) (call : Ledger.Call)
  | openLedger (server : S) (clock : Digest → ℤ)
  | generate (server : S) (descriptor : ReleaseDescriptor)
  | respond (source : Source S) (server : S) (response : Response)
  | send (server : S) (request : HttpRequest)
  | await (ticket choice : ℕ)
  | persist (journal : Journal S) (succeeds : Bool)

abbrev Op.Answer {S : Type} : Op S → Type
  | .receive _ => Option (S × HttpRequest)
  | .get _ _ _ => Except StoreError Record
  | .ledger _ _ _ _ => Except StoreError Record
  | .openLedger _ _ => Except StoreError Unit
  | .generate _ _ => Unit
  | .respond _ _ _ => Unit
  | .send _ _ => ℕ
  | .await _ _ => Option Response
  | .persist _ _ => Bool

/-- The operators, what coordinators and operators call, and which requests someone else
than a coordinator can have an operator receive. -/
structure Network (S : Type) where
  library : NetworkLibrary
  servers : S → OperatorServer
  outside : S → HttpRequest → Bool

section

variable {ι S : Type} [DecidableEq S]

namespace World

def record (w : World ι S) (event : Event ι S) : World ι S :=
  { w with history := event :: w.history }

/-- The replies to one request. -/
def repliesTo (w : World ι S) (ticket : ℕ) : List Response :=
  (w.replies.filter fun reply => reply.1 = ticket).map Prod.snd

def setLedger (w : World ι S) (server : S) (ledger : Ledger) : World ι S :=
  { w with ledgers := Function.update w.ledgers server ledger }

/-- A transaction is made as a whole or not at all. -/
def transact (w : World ι S) (i : ι) (server : S) (tx : Tx) (asked : ReleaseDescriptor)
    (call : Ledger.Call) : Except StoreError Record × World ι S :=
  if tx.isOpen then
    match call.exec tx.now (w.ledgers server) with
    | .ok (record, ledger) =>
      (.ok record, (w.setLedger server ledger).record (.wrote i server asked record))
    | .error error => (.error error, w)
  else (.error ⟨some .databaseNotOpen, ""⟩, w)

def openLedger (w : World ι S) (server : S) (clock : Digest → ℤ) :
    Except StoreError Unit × World ι S :=
  match (w.ledgers server).initializeAndRecover clock with
  | .ok ledger => (.ok (), w.setLedger server ledger)
  | .error error => (.error error, w)

def respond (w : World ι S) (i : ι) (source : Source S) (server : S) (response : Response) :
    World ι S :=
  let answered := w.record (.answered i source server response)
  match source with
  | .sent ticket => { answered with replies := w.replies ++ [(ticket, response)] }
  | .outside _ _ => answered

end World

/-- What an operation of the party `i` answers and does. -/
def Op.act (network : Network S) (i : ι) : (op : Op S) → World ι S → op.Answer × World ι S
  | .receive (.sent ticket), w => (w.sent[ticket]?, w)
  | .receive (.outside server request), w =>
    (if network.outside server request then some (server, request) else none, w)
  | .get server isOpen sessionID, w =>
    (if isOpen then (w.ledgers server).get sessionID else .error ⟨some .databaseNotOpen, ""⟩, w)
  | .ledger server tx asked call, w => w.transact i server tx asked call
  | .openLedger server clock, w => w.openLedger server clock
  | .generate server descriptor, w => ((), w.record (.generated i server descriptor))
  | .respond source server response, w => ((), w.respond i source server response)
  | .send server request, w => (w.sent.length, { w with sent := w.sent ++ [(server, request)] })
  | .await ticket choice, w => ((w.repliesTo ticket)[choice]?, w)
  | .persist journal succeeds, w =>
    (succeeds, if succeeds then w.record (.persisted i journal) else w)

/-- Losing a party changes nothing that is shared. -/
def effects (network : Network S) (ι : Type) : Effects ι (World ι S) (Op S) Op.Answer :=
  ⟨Op.act network, fun _ w => w⟩

end

abbrev Handler (S α : Type) : Type := Program (Op S) Op.Answer Refusal α

abbrev Party (S α : Type) : Type := Program (Op S) Op.Answer String α

section

variable {S ε : Type}

def receive (source : Source S) : Program (Op S) Op.Answer ε (Option (S × HttpRequest)) :=
  Program.ask (Op.receive source)

def respond (source : Source S) (server : S) (response : Response) :
    Program (Op S) Op.Answer ε Unit :=
  Program.ask (Op.respond source server response)

def lookup (server : S) (isOpen : Bool) (sessionID : Digest) :
    Program (Op S) Op.Answer ε (Except StoreError Record) :=
  Program.ask (Op.get server isOpen sessionID)

def transact (server : S) (tx : Tx) (asked : ReleaseDescriptor) (call : Ledger.Call) :
    Program (Op S) Op.Answer ε (Except StoreError Record) :=
  Program.ask (Op.ledger server tx asked call)

def generate (server : S) (descriptor : ReleaseDescriptor) : Program (Op S) Op.Answer ε Unit :=
  Program.ask (Op.generate server descriptor)

def await (ticket choice : ℕ) : Program (Op S) Op.Answer ε (Option Response) :=
  Program.ask (Op.await ticket choice)

def persist (journal : Journal S) (succeeds : Bool) : Program (Op S) Op.Answer ε Bool :=
  Program.ask (Op.persist journal succeeds)

end

/-! ## The operator -/

/-- The circumstances of a served request: the time, its transactions, and the randomness of
its share. -/
structure Env where
  now : ℤ
  tx : ℕ → Tx
  coins : Bytes

section

variable {S : Type} (network : Network S) (server : S) (request : HttpRequest) (env : Env)

open Program

/-- The release request that both handlers insist on. -/
def validated (expected : Operation) : Except Refusal (ReleaseDescriptor × Ciphertext) := do
  let (descriptor, ciphertext) ← authorizeRelease network.library (network.servers server) request
    env.now expected
  ((network.servers server).operator.validateReleaseRequest network.library.toFheLibrary
    descriptor ciphertext).mapError fun _ => boundedError 422 "release request rejected"
  pure (descriptor, ciphertext)

/-- A transaction that is refused where it fails. -/
def transaction (tx : Tx) (asked : ReleaseDescriptor) (call : Ledger.Call)
    (refuse : StoreError → Refusal) : Handler S Record := do
  let answer ← transact server tx asked call
  lift (answer.mapError refuse)

def handlePrepare : Handler S Response := do
  let (descriptor, _) ← lift (validated network server request env operationPrepare)
  let _ ← transaction server (env.tx 0) descriptor
    (.prepare
      { sessionID := descriptor.sessionID
        binding := descriptor.protocolBinding
        coalitionDigest := coalitionDigest network.library descriptor.coalition })
    fun error =>
      if error.sentinel = some .bindingConsumed ∨ error.sentinel = some .sessionExists then
        boundedError 409 "protocol binding consumed"
      else boundedError 500 "ledger prepare failed"
  pure { status := 204 }

/-- What failed after the barrier is recorded as failed, and refused. -/
def settle {α : Type} (tx : Tx) (descriptor : ReleaseDescriptor) (code : FailureCode)
    (refusal : Refusal) : Option α → Handler S α
  | some a => pure a
  | none => do
    let _ ← transact server tx descriptor (.failTerminal descriptor.sessionID code)
    lift (.error refusal)

/-- `handleCommit` after the barrier. -/
def generateAndRelease (descriptor : ReleaseDescriptor) (ciphertext : Ciphertext) :
    Handler S Response := do
  generate server descriptor
  let response ← settle server (env.tx 2) descriptor failureGeneration
    (boundedError 422 "share generation failed")
    (generateReleaseShare network.library (network.servers server).operator descriptor ciphertext
      env.coins).toOption
  let wire ← settle server (env.tx 2) descriptor failureGeneration
    (boundedError 500 "share encoding failed")
    (marshalThresholdReleaseResponse network.library.keccak256 response).toOption
  let generated ← transact server (env.tx 2) descriptor
    (.markGenerated descriptor.sessionID (network.library.sha256 wire))
  let _ ← settle server (env.tx 3) descriptor failureGeneration
    (boundedError 500 "share state failed") generated.toOption
  let released ← transact server (env.tx 3) descriptor (.markReleased descriptor.sessionID)
  let _ ← settle server (env.tx 4) descriptor failureRelease
    (boundedError 500 "release state failed") released.toOption
  pure { status := 200, body := wire, carries := some descriptor }

def handleCommit : Handler S Response := do
  let (descriptor, ciphertext) ← lift (validated network server request env operationCommit)
  let found ← lookup server (env.tx 0).isOpen descriptor.sessionID
  let record ← lift (found.mapError fun _ => boundedError 409 "session is not prepared")
  throwIf (record.binding ≠ descriptor.protocolBinding ∨
      record.coalitionDigest ≠ coalitionDigest network.library descriptor.coalition ∨
      record.state ≠ .prepared)
    (boundedError 409 "session is not prepared")
  let _ ← transaction server (env.tx 1) descriptor (.commit descriptor.sessionID) fun _ =>
    boundedError 409 "session commit rejected"
  generateAndRelease network server env descriptor ciphertext

def handleAck : Handler S Response := do
  let (parsed, descriptor) ← lift (authorizeAck network.library (network.servers server) request
    env.now)
  let found ← lookup server (env.tx 0).isOpen descriptor.sessionID
  let record ← lift (found.mapError fun _ =>
    boundedError 409 "release acknowledgement rejected")
  throwIf (record.binding ≠ descriptor.protocolBinding ∨ record.state ≠ .released ∨
      record.responseDigest ≠ parsed.responseDigest)
    (boundedError 409 "release acknowledgement rejected")
  let _ ← transaction server (env.tx 1) descriptor (.markAcked descriptor.sessionID) fun _ =>
    boundedError 409 "release acknowledgement rejected"
  pure { status := 204 }

/-- `Handler` for the three signed requests; the liveness answer of `/v1/status`, which touches
no ledger and no share, is left out. -/
def handle : Handler S Response :=
  if request.path = preparePath then handlePrepare network server request env
  else if request.path = commitPath then handleCommit network server request env
  else if request.path = ackPath then handleAck network server request env
  else lift (.error (boundedError 404 "404 page not found"))

/-- What is written back, accepted or refused. -/
def answer : Except Refusal Response → Response
  | .ok response => response
  | .error refusal => { status := refusal.status, body := stringBytes refusal.message }

/-- What was received is handled, and the answer written back. -/
def serveReceived (source : Source S) : Option (S × HttpRequest) → Party S Unit
  | none => pure ()
  | some (server, request) => do
    let result ← (handle network server request env).outcome
    respond source server (answer result)

/-- One delivery of a request, served. -/
def serve (source : Source S) : Party S Unit := do
  let received ← receive source
  serveReceived network env source received

end

/-! ## The coordinator -/

/-- `OperatorClient`: the operator it talks to, and the keys it signs and connects with. -/
structure OperatorClient (S : Type) where
  server : S
  signingKey : Bytes
  peerKey : Bytes

/-- The circumstances of one call: its nonce, and which of the replies that reached it it
reads, if any. -/
structure CallEnv where
  nonce : Digest
  choice : ℕ

/-- A call of `ReleaseSelectedCoalition`: its arguments, its circumstances, and whether its
journal can be written. -/
structure ReleaseCall (S : Type) where
  clients : OperatorClient S × OperatorClient S
  descriptor : ReleaseDescriptor
  ciphertext : Ciphertext
  persists : Bool
  env : ℕ → CallEnv

def maxReleaseResponseBytes : ℕ := 64 * 2 ^ 20 + 512

section

variable {S : Type} (library : NetworkLibrary)

open Program

/-- The path of an operation. -/
def operationPath (operation : Operation) : String :=
  if operation = operationPrepare then preparePath
  else if operation = operationCommit then commitPath
  else ackPath

/-- The request that `call` signs and sends. -/
def signRequest (client : OperatorClient S) (operation : Operation)
    (descriptor : ReleaseDescriptor) (ciphertext : Bytes) (responseDigest nonce : Digest) :
    Except String HttpRequest := do
  revertIf (client.signingKey.length ≠ 64) "unauthorized threshold coordinator"
  let descriptorWire ← marshalReleaseDescriptor descriptor
  revertIf (maxCiphertextBytes < ciphertext.length) "malformed threshold network request"
  let unsigned : SignedRequest :=
    { operation, descriptor := descriptorWire, ciphertext, responseDigest, nonce
      signature := .copy [] }
  let digest := signedRequestDigest library unsigned
  let wire ← { unsigned with
    signature := .copy (library.sign client.signingKey (wordBytes digest)) }.marshalBinary
  pure
    { path := operationPath operation
      method := "POST"
      verifiedChains := 1
      peerKey := some client.peerKey
      body := wire }

/-- What `call` returns of a reply: the body of a share, and nothing else. -/
def readReply (operation : Operation) (reply : Option Response) : Except String Bytes := do
  let response ← require "connection lost" reply
  let body := response.body.take (maxReleaseResponseBytes + 1)
  revertIf (response.status < 200 ∨ 300 ≤ response.status) "invalid threshold network state"
  if operation = operationCommit then do
    revertIf (body.length = 0 ∨ maxReleaseResponseBytes < body.length)
      "malformed threshold network request"
    pure body
  else do
    revertIf (body.length ≠ 0) "malformed threshold network request"
    pure []

def call (client : OperatorClient S) (operation : Operation) (descriptor : ReleaseDescriptor)
    (ciphertext : Bytes) (responseDigest : Digest) (env : CallEnv) : Party S Bytes := do
  let request ← lift (signRequest library client operation descriptor ciphertext responseDigest
    env.nonce)
  let ticket ← ask (Op.send client.server request)
  let reply ← await ticket env.choice
  lift (readReply operation reply)

def prepare (client : OperatorClient S) (descriptor : ReleaseDescriptor) (ciphertext : Ciphertext)
    (env : CallEnv) : Party S Unit := do
  let _ ← call library client operationPrepare descriptor ciphertext 0 env
  pure ()

/-- `OperatorClient.Commit`, and the check that its response is written as it came. -/
def commit (client : OperatorClient S) (descriptor : ReleaseDescriptor) (ciphertext : Ciphertext)
    (env : CallEnv) : Party S (ThresholdReleaseResponse × Digest × Bytes) := do
  let wire ← call library client operationCommit descriptor ciphertext 0 env
  let response ← lift (unmarshalThresholdReleaseResponse library.keccak256 wire)
  let digest := library.sha256 wire
  let rewritten ← lift (marshalThresholdReleaseResponse library.keccak256 response)
  throwIf (library.sha256 rewritten ≠ digest) "malformed threshold network request"
  pure (response, digest, rewritten)

def ack (client : OperatorClient S) (descriptor : ReleaseDescriptor) (responseDigest : Digest)
    (env : CallEnv) : Party S Unit := do
  let _ ← call library client operationAck descriptor [] responseDigest env
  pure ()

def releaseSelectedCoalition (release : ReleaseCall S) :
    Party S (ThresholdReleaseResponse × ThresholdReleaseResponse) := do
  let (first, second) := release.clients
  prepare library first release.descriptor release.ciphertext (release.env 0)
  prepare library second release.descriptor release.ciphertext (release.env 1)
  let (responseA, digestA, wireA) ←
    commit library first release.descriptor release.ciphertext (release.env 2)
  let (responseB, digestB, wireB) ←
    commit library second release.descriptor release.ciphertext (release.env 3)
  let persisted ← persist
    { descriptor := release.descriptor
      servers := (first.server, second.server)
      wires := (wireA, wireB) } release.persists
  throwIf (persisted = false) "persist threshold responses"
  ack library first release.descriptor digestA (release.env 4)
  ack library second release.descriptor digestB (release.env 5)
  pure (responseA, responseB)

end

/-! ## The parties -/

/-- What a party does: it serves one delivery of a request, opens a ledger, or releases. -/
inductive Task (S : Type)
  | serve (source : Source S) (env : Env)
  | openLedger (server : S) (clock : Digest → ℤ)
  | release (call : ReleaseCall S)

def Task.program {S : Type} (network : Network S) : Task S → Party S Unit
  | .serve source env => ThresholdNet.serve network env source
  | .openLedger server clock => do
    let _ ← Program.ask (Op.openLedger server clock)
    pure ()
  | .release call => do
    let _ ← releaseSelectedCoalition network.library call
    pure ()

/-- Before anyone does anything. -/
def start (ι S : Type) : Pool ι (World ι S) (Op S) Op.Answer String Unit :=
  ⟨{}, fun _ => .idle⟩

/-- One move of the parties. -/
abbrev exec {ι S : Type} [DecidableEq ι] [DecidableEq S] (network : Network S) :
    Pool ι (World ι S) (Op S) Op.Answer String Unit → Move ι (Task S) →
      Except Unscheduled (Pool ι (World ι S) (Op S) Op.Answer String Unit) :=
  Pool.exec (effects network ι) fun _ task => task.program network

end Mordant.ThresholdNet
