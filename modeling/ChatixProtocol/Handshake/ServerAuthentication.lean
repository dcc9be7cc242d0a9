import ChatixProtocol.Crypto.Auth
import ChatixProtocol.Crypto.Session
import ChatixProtocol.Payloads.Hello

/-! # Server authentication and shared keys

A server answers any number of hellos, whoever sent them, and uses its signing
seed for nothing else. A client that accepts a hello under the pinned key shares
its session keys with one of the server's sessions.
-/

namespace ChatixProtocol

/-! ## The server's side -/

/-- One session of the server: the bytes it took for a client's hello, and what
it drew and called itself. -/
structure ServerCall where
  clientHello : Bytes
  randomness : ServerRandomness
  serverId : String
  deriving DecidableEq

namespace ServerCall

/-- Decode the hello and respond to the keys in it. -/
def respond (suite : SessionSuite) (call : ServerCall) :
    Outcome ProtocolError ServerHandshakeState := do
  let payload ← (ClientHelloPayload.decode call.clientHello).mapError .io
  ServerHandshakeState.respond suite call.randomness payload.x25519PublicKey payload.mlKemEk

/-- The signed answer, over the bytes as they were received. -/
def serverHello (suite : SessionSuite) (dsa : MlDsa) (sha256 : Hash)
    (signingSeed : FixedBytes 32) (call : ServerCall) :
    Outcome ProtocolError ServerHelloPayload := do
  let state ← call.respond suite
  let signature ← signServerHello dsa sha256 call.clientHello state.x25519Public
    state.mlKemCiphertext signingSeed
  pure {
    serverId := call.serverId
    x25519PublicKey := state.x25519Public
    mlKemCiphertext := state.mlKemCiphertext
    signature
  }

/-- What the session signs, once it got to the signature. -/
def signedMessage? (suite : SessionSuite) (sha256 : Hash) (call : ServerCall) : Option Bytes :=
  match call.respond suite with
  | .ok state => some (serverHelloMessage sha256 call.clientHello state.x25519Public
      state.mlKemCiphertext)
  | _ => none

theorem signedMessage?_eq_some_iff {suite : SessionSuite} {sha256 : Hash} {call : ServerCall}
    {message : Bytes} :
    call.signedMessage? suite sha256 = some message ↔
      ∃ state, call.respond suite = .ok state ∧
        serverHelloMessage sha256 call.clientHello state.x25519Public state.mlKemCiphertext =
          message := by
  rw [signedMessage?]
  cases call.respond suite <;> simp

/-- A server session signs its message and nothing else. -/
theorem serverHello_eq_ok_iff {suite : SessionSuite} {dsa : MlDsa} {sha256 : Hash}
    {signingSeed : FixedBytes 32} {call : ServerCall} {payload : ServerHelloPayload} :
    call.serverHello suite dsa sha256 signingSeed = .ok payload ↔
      ∃ state, call.respond suite = .ok state ∧ payload = {
        serverId := call.serverId
        x25519PublicKey := state.x25519Public
        mlKemCiphertext := state.mlKemCiphertext
        signature := dsa.sign signingSeed (serverHelloMessage sha256 call.clientHello
          state.x25519Public state.mlKemCiphertext)
      } := by
  simp only [serverHello, signServerHello_eq, Outcome.bind_eq_ok_iff, Outcome.ok.injEq,
    Outcome.pure_eq_ok, exists_eq_left']
  exact exists_congr fun state => and_congr_right fun _ => eq_comm

end ServerCall

/-- Everything the server signs in its sessions. -/
def signedHellos (suite : SessionSuite) (sha256 : Hash) (calls : List ServerCall) : List Bytes :=
  calls.filterMap (·.signedMessage? suite sha256)

/-! ## The client's side -/

namespace ClientHandshakeState

/-- The hello that carries a client's public keys. -/
def hello (client : ClientHandshakeState) (clientId : String) : ClientHelloPayload where
  clientId := clientId
  x25519PublicKey := client.x25519Public
  mlKemEk := client.mlKemEk

end ClientHandshakeState

/-- A server session that received this hello responded to its keys. -/
theorem ServerCall.respond_of_hello {suite : SessionSuite} {client : ClientHandshakeState}
    {clientId : String} {clientHello : Bytes}
    (encodes : (client.hello clientId).encode = .ok clientHello) {call : ServerCall}
    (received : call.clientHello = clientHello) :
    call.respond suite =
      ServerHandshakeState.respond suite call.randomness client.x25519Public client.mlKemEk := by
  have decodes := ClientHelloPayload.canonical.decode_of_encode encodes
  rw [respond, received, decodes]
  rfl

/-- Decode a server's hello and verify it for the client's own one. -/
def acceptServerHello (dsa : MlDsa) (sha256 : Hash) (clientHello : Bytes)
    (pinnedVerifyingKey : FixedBytes mlDsa65VkSize) (bytes : Bytes) :
    Outcome ProtocolError ServerHelloPayload := do
  let payload ← (ServerHelloPayload.decode bytes).mapError .io
  verifyServerHello dsa sha256 clientHello payload.x25519PublicKey payload.mlKemCiphertext
    pinnedVerifyingKey payload.signature
  pure payload

theorem acceptServerHello_eq_ok_iff {dsa : MlDsa} {sha256 : Hash} {clientHello : Bytes}
    {pinnedVerifyingKey : FixedBytes mlDsa65VkSize} {bytes : Bytes}
    {payload : ServerHelloPayload} :
    acceptServerHello dsa sha256 clientHello pinnedVerifyingKey bytes = .ok payload ↔
      ServerHelloPayload.decode bytes = .ok payload ∧
        verifyServerHello dsa sha256 clientHello payload.x25519PublicKey payload.mlKemCiphertext
          pinnedVerifyingKey payload.signature = .ok () := by
  simp only [acceptServerHello, Outcome.bind_eq_ok_iff, Outcome.mapError_eq_ok_iff,
    Outcome.pure_eq_ok, Outcome.ok.injEq]
  constructor
  · intro accepted
    rcases accepted with ⟨found, decodes, ⟨⟩, verified, rfl⟩
    exact ⟨decodes, verified⟩
  · intro checks
    rcases checks with ⟨decodes, verified⟩
    exact ⟨payload, decodes, (), verified, rfl⟩

/-! ## Shared keys -/

/-- If a client accepts a server's hello under the pinned key, some session of the
server produced exactly that key material. That session received the client's own
hello and the client derives its session keys, or the two hellos are a collision of
the hash. -/
theorem accepted_hello_shares_keys (suite : SessionSuite) (dsa : MlDsa) (sha256 : Hash)
    (commutes : suite.x25519.Commutes) (inverts : suite.mlKem.Inverts)
    (pinnedSeed : FixedBytes 32) (calls : List ServerCall)
    (verifiesOnly : dsa.VerifiesOnly pinnedSeed (signedHellos suite sha256 calls))
    (x25519Secret : FixedBytes 32) (mlKemSeed : FixedBytes 64) (client : ClientHandshakeState)
    (generated : ClientHandshakeState.generate suite x25519Secret mlKemSeed = .ok client)
    (clientId : String) (clientHello : Bytes)
    (encodes : (client.hello clientId).encode = .ok clientHello)
    (bytes : Bytes) (payload : ServerHelloPayload)
    (accepted : acceptServerHello dsa sha256 clientHello (dsa.verifyingKey pinnedSeed) bytes =
      .ok payload) :
    ∃ call ∈ calls, ∃ state, call.respond suite = .ok state ∧
      state.x25519Public = payload.x25519PublicKey ∧
      state.mlKemCiphertext = payload.mlKemCiphertext ∧
      ((call.clientHello = clientHello ∧
          client.deriveSessionKeys suite payload.x25519PublicKey payload.mlKemCiphertext =
            .ok state.sessionKeys) ∨
        (call.clientHello ≠ clientHello ∧ sha256 call.clientHello = sha256 clientHello)) := by
  have verified := (acceptServerHello_eq_ok_iff.mp accepted).2
  rcases MlDsa.verifyEncoded_eq_ok_iff.mp verified with ⟨_, _, verifies⟩
  rcases List.mem_filterMap.mp (verifiesOnly _ _ verifies) with ⟨call, made, signed⟩
  rcases ServerCall.signedMessage?_eq_some_iff.mp signed with ⟨state, responded, same⟩
  rcases serverHelloMessage_inj.mp same with ⟨sameHash, sameKey, sameCiphertext⟩
  refine ⟨call, made, state, responded, sameKey, sameCiphertext, ?_⟩
  by_cases received : call.clientHello = clientHello
  · left
    rw [ServerCall.respond_of_hello encodes received] at responded
    rw [← sameKey, ← sameCiphertext]
    exact ⟨received, deriveSessionKeys_of_respond commutes inverts generated responded⟩
  · exact .inr ⟨received, sameHash⟩

/-! One client and one session of the server, with libraries that hide nothing. -/

def sampleSession : SessionSuite where
  x25519 := .transparent
  mlKem := .transparent
  hkdfExpand := fun ikm _ => some (.ofPrefix 32 ikm)

def sampleHelloHash : Hash := FixedBytes.ofPrefix 32

def sampleClient : ClientHandshakeState where
  x25519Secret := .replicate 32 1
  mlKemDk := some (.replicate 64 2)
  x25519Public := .replicate 32 1
  mlKemEk := .ofPrefix mlKem768EkSize (List.replicate 64 2)

def sampleClientHello : Bytes :=
  [0, 1, 97] ++ sampleClient.x25519Public.bytes ++ sampleClient.mlKemEk.bytes

def sampleServerCall : ServerCall where
  clientHello := sampleClientHello
  randomness := ⟨.replicate 32 3, .replicate 32 4⟩
  serverId := "s"

def sampleServerState : ServerHandshakeState where
  x25519Public := .replicate 32 3
  mlKemCiphertext := .ofPrefix mlKem768CtSize (List.replicate 32 4)
  sessionKeys := ⟨.replicate 32 4, .replicate 32 4⟩

theorem sampleClient_generated :
    ClientHandshakeState.generate sampleSession (.replicate 32 1) (.replicate 64 2) =
      .ok sampleClient :=
  ClientHandshakeState.generate_eq _ _ _

theorem sampleServerCall_responds :
    ServerHandshakeState.respond sampleSession sampleServerCall.randomness
      sampleClient.x25519Public sampleClient.mlKemEk = .ok sampleServerState := by
  have shared : FixedBytes.ofPrefix 32 ((FixedBytes.ofPrefix 32 (List.zipWith (· + ·)
      (FixedBytes.replicate 32 3).bytes (FixedBytes.replicate 32 1).bytes)).bytes ++
        (FixedBytes.replicate 32 4).bytes) = .replicate 32 4 := by decide
  refine ServerHandshakeState.respond_eq_ok_iff.mpr ⟨rfl, .replicate 32 4, rfl, ?_⟩
  exact deriveKeys_eq_ok_iff.mpr ⟨congrArg some shared, congrArg some shared⟩

def sampleServerMessage : Bytes :=
  serverHelloMessage sampleHelloHash sampleClientHello sampleServerState.x25519Public
    sampleServerState.mlKemCiphertext

def sampleServerDsa : MlDsa :=
  .transparent fun _ message => [sampleServerMessage].contains message

def sampleServerHello : ServerHelloPayload where
  serverId := "s"
  x25519PublicKey := sampleServerState.x25519Public
  mlKemCiphertext := sampleServerState.mlKemCiphertext
  signature := sampleServerDsa.sign (.replicate 32 7) sampleServerMessage

def sampleServerHelloBytes : Bytes :=
  [0, 1, 115] ++ sampleServerHello.x25519PublicKey.bytes ++
    sampleServerHello.mlKemCiphertext.bytes ++ sampleServerHello.signature.bytes

theorem sample_client_shares_keys :
    ∃ call ∈ [sampleServerCall], ∃ state, call.respond sampleSession = .ok state ∧
      state.x25519Public = sampleServerHello.x25519PublicKey ∧
      state.mlKemCiphertext = sampleServerHello.mlKemCiphertext ∧
      ((call.clientHello = sampleClientHello ∧
          sampleClient.deriveSessionKeys sampleSession sampleServerHello.x25519PublicKey
            sampleServerHello.mlKemCiphertext = .ok state.sessionKeys) ∨
        (call.clientHello ≠ sampleClientHello ∧
          sampleHelloHash call.clientHello = sampleHelloHash sampleClientHello)) := by
  have encodes : (sampleClient.hello "a").encode = .ok sampleClientHello := rfl
  have responds : sampleServerCall.respond sampleSession = .ok sampleServerState := by
    rw [ServerCall.respond_of_hello encodes rfl]
    exact sampleServerCall_responds
  have signed : signedHellos sampleSession sampleHelloHash [sampleServerCall] =
      [sampleServerMessage] := by
    have message : sampleServerCall.signedMessage? sampleSession sampleHelloHash =
        some sampleServerMessage :=
      ServerCall.signedMessage?_eq_some_iff.mpr ⟨_, responds, rfl⟩
    simp [signedHellos, message]
  refine accepted_hello_shares_keys sampleSession sampleServerDsa sampleHelloHash
    X25519.transparent_commutes MlKem.transparent_inverts (.replicate 32 7) [sampleServerCall]
    ?_ (.replicate 32 1) (.replicate 64 2) sampleClient sampleClient_generated "a"
    sampleClientHello encodes sampleServerHelloBytes sampleServerHello ?_
  · rw [signed]
    exact MlDsa.transparent_verifiesOnly _ _
  · refine acceptServerHello_eq_ok_iff.mpr
      ⟨ServerHelloPayload.canonical.decode_of_encode rfl, ?_⟩
    exact MlDsa.transparent_verifies
      (List.contains_iff_mem.mpr (List.mem_singleton.mpr rfl))

end ChatixProtocol
