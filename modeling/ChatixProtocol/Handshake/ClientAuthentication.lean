import ChatixProtocol.Crypto.Auth
import ChatixProtocol.Foundation.Execution
import ChatixProtocol.Payloads.Hello
import Mathlib.Logic.Function.Basic

/-! # Clients authenticating over an untrusted network

Honest clients and servers run any number of sessions at once. The network
decides what each of them receives, so a client may be given any ServerHello and
nonce, and a server any ClientHello and signature. Every response an honest
client signs, and every response a server accepts, is recorded with the view of
the session it happened in.
-/

namespace ChatixProtocol

open Execution

structure ClientSession where
  signingSeed : FixedBytes 32
  clientHello : Bytes
  serverHello : Option Bytes

structure ServerSession where
  clientHello : Bytes
  serverHello : Bytes
  nonce : Option (FixedBytes 32)

/-- What one side saw of a handshake when the client's response was made or checked. -/
structure Conversation where
  clientHello : Bytes
  serverHello : Bytes
  nonce : FixedBytes 32
  deriving DecidableEq

/-- The message that authenticates a conversation. -/
def Conversation.message (sha256 : Hash) (conversation : Conversation) : Bytes :=
  authMessage (computeHandshakeTranscript sha256 conversation.clientHello
    conversation.serverHello) conversation.nonce

structure SignedResponse where
  signingSeed : FixedBytes 32
  conversation : Conversation
  deriving DecidableEq

structure AcceptedResponse where
  verifyingKey : FixedBytes mlDsa65VkSize
  conversation : Conversation
  deriving DecidableEq

structure Handshakes where
  client : Nat → Option ClientSession
  server : Nat → Option ServerSession
  signed : List SignedResponse
  accepted : List AcceptedResponse

/-- One call of a client or server. The numbers name sessions; everything a side
receives is chosen by the network. -/
inductive HandshakeEvent where
  | sendClientHello (session : Nat) (signingSeed : FixedBytes 32) (payload : ClientHelloPayload)
  | receiveServerHello (session : Nat) (bytes : Bytes)
  | receiveAuthChallenge (session : Nat) (nonce : FixedBytes 32)
  | receiveClientHello (session : Nat) (bytes serverHello : Bytes)
  | sendAuthChallenge (session : Nat) (nonce : FixedBytes 32)
  | receiveAuthResponse (session : Nat) (verifyingKey : FixedBytes mlDsa65VkSize)
      (signature : FixedBytes mlDsa65SigSize)

namespace Handshakes

def new : Handshakes where
  client := fun _ => none
  server := fun _ => none
  signed := []
  accepted := []

def setClient (handshakes : Handshakes) (session : Nat) (state : ClientSession) : Handshakes :=
  { handshakes with client := Function.update handshakes.client session (some state) }

def setServer (handshakes : Handshakes) (session : Nat) (state : ServerSession) : Handshakes :=
  { handshakes with server := Function.update handshakes.server session (some state) }

@[simp] theorem setClient_same (handshakes : Handshakes) (session : Nat) (state : ClientSession) :
    (handshakes.setClient session state).client session = some state := by
  simp [setClient]

theorem setClient_other {handshakes : Handshakes} {session other : Nat} {state : ClientSession}
    (different : other ≠ session) :
    (handshakes.setClient session state).client other = handshakes.client other := by
  simp [setClient, different]

@[simp] theorem setServer_same (handshakes : Handshakes) (session : Nat) (state : ServerSession) :
    (handshakes.setServer session state).server session = some state := by
  simp [setServer]

theorem setServer_other {handshakes : Handshakes} {session other : Nat} {state : ServerSession}
    (different : other ≠ session) :
    (handshakes.setServer session state).server other = handshakes.server other := by
  simp [setServer, different]

/-- A client signs for the hellos of its session. -/
def respond (dsa : MlDsa) (sha256 : Hash) (handshakes : Handshakes) (nonce : FixedBytes 32) :
    Option ClientSession → Handshakes
  | some { signingSeed, clientHello, serverHello := some serverHello } =>
      match signAuthResponse dsa (computeHandshakeTranscript sha256 clientHello serverHello)
        nonce signingSeed with
      | .ok _ => { handshakes with
          signed := handshakes.signed ++
            [{ signingSeed, conversation := { clientHello, serverHello, nonce } }] }
      | _ => handshakes
  | _ => handshakes

/-- A server checks a response against its own view and the nonce it issued. -/
def check (dsa : MlDsa) (sha256 : Hash) (handshakes : Handshakes)
    (verifyingKey : FixedBytes mlDsa65VkSize) (signature : FixedBytes mlDsa65SigSize) :
    Option ServerSession → Handshakes
  | some { clientHello, serverHello, nonce := some nonce } =>
      match verifyAuthResponse dsa (computeHandshakeTranscript sha256 clientHello serverHello)
        nonce verifyingKey signature with
      | .ok _ => { handshakes with
          accepted := handshakes.accepted ++
            [{ verifyingKey, conversation := { clientHello, serverHello, nonce } }] }
      | _ => handshakes
  | _ => handshakes

def step (dsa : MlDsa) (sha256 : Hash) (handshakes : Handshakes) : HandshakeEvent → Handshakes
  | .sendClientHello session signingSeed payload =>
      match payload.encode with
      | .ok clientHello =>
          handshakes.setClient session { signingSeed, clientHello, serverHello := none }
      | _ => handshakes
  | .receiveServerHello session bytes =>
      match handshakes.client session with
      | some client => handshakes.setClient session { client with serverHello := some bytes }
      | none => handshakes
  | .receiveAuthChallenge session nonce =>
      handshakes.respond dsa sha256 nonce (handshakes.client session)
  | .receiveClientHello session bytes serverHello =>
      match ClientHelloPayload.decode bytes with
      | .ok _ => handshakes.setServer session { clientHello := bytes, serverHello, nonce := none }
      | _ => handshakes
  | .sendAuthChallenge session nonce =>
      match handshakes.server session with
      | some server => handshakes.setServer session { server with nonce := some nonce }
      | none => handshakes
  | .receiveAuthResponse session verifyingKey signature =>
      handshakes.check dsa sha256 verifyingKey signature (handshakes.server session)

def after (dsa : MlDsa) (sha256 : Hash) (events : List HandshakeEvent) : Handshakes :=
  run (step dsa sha256) new events

/-- The messages signed with a seed. -/
def messagesOf (sha256 : Hash) (handshakes : Handshakes) (seed : FixedBytes 32) : List Bytes :=
  (handshakes.signed.filter (·.signingSeed = seed)).map (·.conversation.message sha256)

end Handshakes

/-! ## Hellos in front of other bytes -/

theorem ClientHelloPayload.selfDelimiting : SelfDelimiting ClientHelloPayload.encode := by
  have keyed : SelfDelimiting (fun fields : String × FixedBytes 32 => do
      let id ← encodeSizedString fields.1
      pure (id ++ fields.2.bytes)) :=
    decodeSizedString_readsPrefix.selfDelimiting.append_fixed Prod.fst Prod.snd
      fun _ _ sameId sameKey => Prod.ext sameId sameKey
  have whole := keyed.append_fixed
    (fun payload : ClientHelloPayload => (payload.clientId, payload.x25519PublicKey))
    (fun payload => payload.mlKemEk) (by
      rintro ⟨clientId, key, ek⟩ ⟨clientId', key', ek'⟩ sameFields sameEk
      cases sameFields
      cases sameEk
      rfl)
  intro left right leftBytes rightBytes leftRest rightRest leftEncoded rightEncoded
  have regroup : ∀ payload : ClientHelloPayload, payload.encode = (do
      let front ← (do
        let id ← encodeSizedString payload.clientId
        pure (id ++ payload.x25519PublicKey.bytes))
      pure (front ++ payload.mlKemEk.bytes)) := by
    intro payload
    rw [ClientHelloPayload.encode]
    cases encodeSizedString payload.clientId <;> rfl
  rw [regroup] at leftEncoded rightEncoded
  exact whole leftEncoded rightEncoded

/-! ## Invariants -/

namespace Handshakes

/-- Clients send encodings of hellos, and servers go on only after a hello that decodes. -/
structure Sound (dsa : MlDsa) (sha256 : Hash) (handshakes : Handshakes) : Prop where
  sent : ∀ session client, handshakes.client session = some client →
    ∃ payload : ClientHelloPayload, payload.encode = .ok client.clientHello
  decoded : ∀ session server, handshakes.server session = some server →
    ∃ payload, ClientHelloPayload.decode server.clientHello = .ok payload
  signedOwn : ∀ response ∈ handshakes.signed,
    ∃ payload : ClientHelloPayload, payload.encode = .ok response.conversation.clientHello
  acceptedOwn : ∀ response ∈ handshakes.accepted,
    (∃ payload, ClientHelloPayload.decode response.conversation.clientHello = .ok payload) ∧
      ∃ signature, dsa.verifyEncoded response.verifyingKey
        (response.conversation.message sha256) signature = .ok ()

variable {dsa : MlDsa} {sha256 : Hash} {handshakes : Handshakes}

theorem Sound.new : new.Sound dsa sha256 where
  sent := by simp [Handshakes.new]
  decoded := by simp [Handshakes.new]
  signedOwn := by simp [Handshakes.new]
  acceptedOwn := by simp [Handshakes.new]

theorem Sound.setClient (sound : handshakes.Sound dsa sha256) {session : Nat}
    {state : ClientSession}
    (encoded : ∃ payload : ClientHelloPayload, payload.encode = .ok state.clientHello) :
    (handshakes.setClient session state).Sound dsa sha256 where
  sent := by
    intro other client present
    by_cases same : other = session
    · subst same
      rw [setClient_same] at present
      cases present
      exact encoded
    · rw [setClient_other same] at present
      exact sound.sent other client present
  decoded := sound.decoded
  signedOwn := sound.signedOwn
  acceptedOwn := sound.acceptedOwn

theorem Sound.setServer (sound : handshakes.Sound dsa sha256) {session : Nat}
    {state : ServerSession}
    (accepted : ∃ payload, ClientHelloPayload.decode state.clientHello = .ok payload) :
    (handshakes.setServer session state).Sound dsa sha256 where
  sent := sound.sent
  decoded := by
    intro other server present
    by_cases same : other = session
    · subst same
      rw [setServer_same] at present
      cases present
      exact accepted
    · rw [setServer_other same] at present
      exact sound.decoded other server present
  signedOwn := sound.signedOwn
  acceptedOwn := sound.acceptedOwn

theorem Sound.respond (sound : handshakes.Sound dsa sha256) (session : Nat)
    (nonce : FixedBytes 32) :
    (handshakes.respond dsa sha256 nonce (handshakes.client session)).Sound dsa sha256 := by
  cases present : handshakes.client session with
  | none => exact sound
  | some client =>
      have encoded := sound.sent session client present
      rcases client with ⟨signingSeed, clientHello, _ | serverHello⟩
      · exact sound
      · simp only [Handshakes.respond, signAuthResponse_eq]
        refine ⟨sound.sent, sound.decoded, ?_, sound.acceptedOwn⟩
        intro response member
        rcases List.mem_append.mp member with earlier | now
        · exact sound.signedOwn response earlier
        · cases List.mem_singleton.mp now
          exact encoded

theorem Sound.check (sound : handshakes.Sound dsa sha256) (session : Nat)
    (verifyingKey : FixedBytes mlDsa65VkSize) (signature : FixedBytes mlDsa65SigSize) :
    (handshakes.check dsa sha256 verifyingKey signature
      (handshakes.server session)).Sound dsa sha256 := by
  cases present : handshakes.server session with
  | none => exact sound
  | some server =>
      have decoded := sound.decoded session server present
      rcases server with ⟨clientHello, serverHello, _ | nonce⟩
      · exact sound
      · simp only [Handshakes.check]
        cases verified : verifyAuthResponse dsa
          (computeHandshakeTranscript sha256 clientHello serverHello) nonce verifyingKey
          signature with
        | err error => exact sound
        | panic => exact sound
        | ok value =>
            refine ⟨sound.sent, sound.decoded, sound.signedOwn, ?_⟩
            intro response member
            rcases List.mem_append.mp member with earlier | now
            · exact sound.acceptedOwn response earlier
            · cases List.mem_singleton.mp now
              exact ⟨decoded, signature, verified⟩

theorem Sound.step (sound : handshakes.Sound dsa sha256) (event : HandshakeEvent) :
    (handshakes.step dsa sha256 event).Sound dsa sha256 := by
  cases event with
  | sendClientHello session signingSeed payload =>
      simp only [Handshakes.step]
      cases encoded : payload.encode with
      | ok clientHello => exact sound.setClient ⟨payload, encoded⟩
      | err error => exact sound
      | panic => exact sound
  | receiveServerHello session bytes =>
      simp only [Handshakes.step]
      cases present : handshakes.client session with
      | none => exact sound
      | some client => exact sound.setClient (sound.sent session client present)
  | receiveAuthChallenge session nonce => exact sound.respond session nonce
  | receiveClientHello session bytes serverHello =>
      simp only [Handshakes.step]
      cases decoded : ClientHelloPayload.decode bytes with
      | ok payload => exact sound.setServer ⟨payload, decoded⟩
      | err error => exact sound
      | panic => exact sound
  | sendAuthChallenge session nonce =>
      simp only [Handshakes.step]
      cases present : handshakes.server session with
      | none => exact sound
      | some server => exact sound.setServer (sound.decoded session server present)
  | receiveAuthResponse session verifyingKey signature =>
      exact sound.check session verifyingKey signature

theorem Sound.after (events : List HandshakeEvent) : (after dsa sha256 events).Sound dsa sha256 :=
  run_invariant (Sound dsa sha256)
    (fun _ event sound => sound.step event) .new events

end Handshakes

/-! ## Matching conversations -/

/-- Two conversations with different hellos and the same transcript hash. -/
def Conversation.Collides (sha256 : Hash) (left right : Conversation) : Prop :=
  left.clientHello ++ left.serverHello ≠ right.clientHello ++ right.serverHello ∧
    sha256 (left.clientHello ++ left.serverHello) =
      sha256 (right.clientHello ++ right.serverHello)

/-- One authenticated message stands for one conversation, unless the hash collides. -/
theorem Conversation.eq_or_collides {sha256 : Hash} {left right : Conversation}
    (leftSent : ∃ payload : ClientHelloPayload, payload.encode = .ok left.clientHello)
    (rightSent : ∃ payload : ClientHelloPayload, payload.encode = .ok right.clientHello)
    (equal : left.message sha256 = right.message sha256) :
    left = right ∨ (left.nonce = right.nonce ∧ left.Collides sha256 right) := by
  rcases authMessage_inj.mp equal with ⟨transcripts, nonces⟩
  by_cases same : left.clientHello ++ left.serverHello = right.clientHello ++ right.serverHello
  · left
    rcases leftSent with ⟨leftPayload, leftEncoded⟩
    rcases rightSent with ⟨rightPayload, rightEncoded⟩
    rcases ClientHelloPayload.selfDelimiting leftEncoded rightEncoded same with
      ⟨_, clientHellos, serverHellos⟩
    rcases left with ⟨clientHello, serverHello, nonce⟩
    cases clientHellos
    cases serverHellos
    cases nonces
    rfl
  · exact .inr ⟨nonces, same, transcripts⟩

/-- In every run, a response a server accepted under an honest client's key was
signed by that client in a session with the same ClientHello, ServerHello and
nonce, or the two sessions' hellos are a collision of the hash. -/
theorem accepted_response_matches (dsa : MlDsa) (sha256 : Hash) (events : List HandshakeEvent)
    (seed : FixedBytes 32)
    (verifiesOnly : dsa.VerifiesOnly seed
      ((Handshakes.after dsa sha256 events).messagesOf sha256 seed))
    (accepted : AcceptedResponse)
    (member : accepted ∈ (Handshakes.after dsa sha256 events).accepted)
    (honest : accepted.verifyingKey = dsa.verifyingKey seed) :
    ∃ signed ∈ (Handshakes.after dsa sha256 events).signed, signed.signingSeed = seed ∧
      (signed.conversation = accepted.conversation ∨
        (signed.conversation.nonce = accepted.conversation.nonce ∧
          signed.conversation.Collides sha256 accepted.conversation)) := by
  have sound : (Handshakes.after dsa sha256 events).Sound dsa sha256 :=
    Handshakes.Sound.after events
  rcases sound.acceptedOwn accepted member with ⟨⟨payload, decoded⟩, signature, verified⟩
  rcases MlDsa.verifyEncoded_eq_ok_iff.mp verified with ⟨_, _, verifies⟩
  rw [honest] at verifies
  rcases List.mem_map.mp (verifiesOnly _ _ verifies) with ⟨signed, signedHere, sameMessage⟩
  rcases List.mem_filter.mp signedHere with ⟨recorded, owner⟩
  exact ⟨signed, recorded, of_decide_eq_true owner, Conversation.eq_or_collides
    (sound.signedOwn signed recorded)
    ⟨payload, ClientHelloPayload.canonical.encode_of_decode decoded⟩ sameMessage⟩

/-! One client authenticates to one server. -/

def sampleHello : ClientHelloPayload :=
  ⟨"a", .replicate 32 1, .replicate mlKem768EkSize 2⟩

def sampleHelloBytes : Bytes :=
  [0, 1, 97] ++ (FixedBytes.replicate 32 1).bytes ++ (FixedBytes.replicate mlKem768EkSize 2).bytes

def sampleConversation : Conversation where
  clientHello := sampleHelloBytes
  serverHello := [7]
  nonce := .replicate 32 3

def sampleHash : Hash := FixedBytes.ofPrefix 32

def sampleDsa : MlDsa :=
  .transparent fun _ message => [sampleConversation.message sampleHash].contains message

def sampleSeed : FixedBytes 32 := .replicate 32 4

def sampleHandshake : List HandshakeEvent :=
  [.sendClientHello 0 sampleSeed sampleHello,
    .receiveClientHello 9 sampleHelloBytes [7],
    .sendAuthChallenge 9 sampleConversation.nonce,
    .receiveServerHello 0 [7],
    .receiveAuthChallenge 0 sampleConversation.nonce,
    .receiveAuthResponse 9 (sampleDsa.verifyingKey sampleSeed)
      (sampleDsa.sign sampleSeed (sampleConversation.message sampleHash))]

theorem after_sampleHandshake :
    (Handshakes.after sampleDsa sampleHash sampleHandshake).signed =
        [⟨sampleSeed, sampleConversation⟩] ∧
      (Handshakes.after sampleDsa sampleHash sampleHandshake).accepted =
        [⟨sampleDsa.verifyingKey sampleSeed, sampleConversation⟩] := by
  have encodes : sampleHello.encode = .ok sampleHelloBytes := rfl
  have decodes : ClientHelloPayload.decode sampleHelloBytes = .ok sampleHello :=
    ClientHelloPayload.canonical.decode_of_encode encodes
  have verifies : verifyAuthResponse sampleDsa
      (computeHandshakeTranscript sampleHash sampleHelloBytes [7]) sampleConversation.nonce
      (sampleDsa.verifyingKey sampleSeed)
      (sampleDsa.sign sampleSeed (sampleConversation.message sampleHash)) = .ok () :=
    MlDsa.transparent_verifies (by simp [sampleConversation, Conversation.message])
  simp [Handshakes.after, sampleHandshake, Handshakes.step, encodes, decodes, verifies,
    Handshakes.respond, Handshakes.check, signAuthResponse_eq, Handshakes.setClient,
    Handshakes.setServer, Handshakes.new]
  rfl

theorem sample_response_matches :
    ∃ signed ∈ (Handshakes.after sampleDsa sampleHash sampleHandshake).signed,
      signed.signingSeed = sampleSeed ∧
        (signed.conversation = sampleConversation ∨
          (signed.conversation.nonce = sampleConversation.nonce ∧
            signed.conversation.Collides sampleHash sampleConversation)) := by
  refine accepted_response_matches sampleDsa sampleHash sampleHandshake sampleSeed ?_
    ⟨sampleDsa.verifyingKey sampleSeed, sampleConversation⟩ ?_ rfl
  · have signed : (Handshakes.after sampleDsa sampleHash sampleHandshake).messagesOf sampleHash
        sampleSeed = [sampleConversation.message sampleHash] := by
      rw [Handshakes.messagesOf, after_sampleHandshake.1]
      rfl
    rw [signed]
    exact MlDsa.transparent_verifiesOnly sampleSeed _
  · rw [after_sampleHandshake.2]
    exact List.mem_singleton.mpr rfl

end ChatixProtocol
