import ChatixProtocol.Handshake.ClientAuthentication
import ChatixProtocol.Handshake.SessionIsolation

/-! # From a verified signature to the packets received

Any number of clients and of servers' sessions take part in handshakes, with hellos
and challenges that the network chose, and exchange packets over a network that
chooses again. A side that verified a signature receives only what the signer sealed
in the same handshake.
-/

namespace ChatixProtocol

/-- A client's part in a handshake: what it drew and what it was given. -/
structure ClientPart where
  clientId : String
  x25519Secret : FixedBytes 32
  mlKemSeed : FixedBytes 64
  pinnedVerifyingKey : FixedBytes mlDsa65VkSize
  identitySeed : FixedBytes 32
  serverHello : Bytes
  challenges : List (FixedBytes 32)

structure ServerPart where
  call : ServerCall
  identitySeed : FixedBytes 32
  nonce : FixedBytes 32

inductive HandshakePart where
  | client (part : ClientPart)
  | server (part : ServerPart)

/-- What a side holds once it has both hellos. -/
structure HandshakeEnd where
  clientHello : Bytes
  serverHello : Bytes
  origin : SessionOrigin
  keys : SessionKeys

def HandshakeEnd.conversation (reached : HandshakeEnd) (nonce : FixedBytes 32) : Conversation where
  clientHello := reached.clientHello
  serverHello := reached.serverHello
  nonce := nonce

namespace HandshakePart

def finish (suite : SessionSuite) (dsa : MlDsa) (sha256 : Hash) :
    HandshakePart → Outcome ProtocolError HandshakeEnd
  | .client part => do
      let state ← ClientHandshakeState.generate suite part.x25519Secret part.mlKemSeed
      let clientHello ← (state.hello part.clientId).encode.mapError .io
      let answer ← acceptServerHello dsa sha256 clientHello part.pinnedVerifyingKey
        part.serverHello
      let keys ← state.deriveSessionKeys suite answer.x25519PublicKey answer.mlKemCiphertext
      pure {
        clientHello
        serverHello := part.serverHello
        origin := .client state answer.x25519PublicKey answer.mlKemCiphertext
        keys
      }
  | .server part => do
      let payload ← (ClientHelloPayload.decode part.call.clientHello).mapError .io
      let response ← part.call.respond suite
      let answer ← part.call.serverHello suite dsa sha256 part.identitySeed
      let serverHello ← answer.encode.mapError .io
      pure {
        clientHello := part.call.clientHello
        serverHello
        origin := .server part.call.randomness payload.x25519PublicKey payload.mlKemEk
        keys := response.sessionKeys
      }

/-- What a client did to finish. -/
structure ClientFinished (suite : SessionSuite) (dsa : MlDsa) (sha256 : Hash) (part : ClientPart)
    (reached : HandshakeEnd) (state : ClientHandshakeState) (answer : ServerHelloPayload) :
    Prop where
  generated : ClientHandshakeState.generate suite part.x25519Secret part.mlKemSeed = .ok state
  encodes : (state.hello part.clientId).encode = .ok reached.clientHello
  accepted : acceptServerHello dsa sha256 reached.clientHello part.pinnedVerifyingKey
    reached.serverHello = .ok answer
  origin : reached.origin = .client state answer.x25519PublicKey answer.mlKemCiphertext
  derives : state.deriveSessionKeys suite answer.x25519PublicKey answer.mlKemCiphertext =
    .ok reached.keys

/-- What a server did to finish. -/
structure ServerFinished (suite : SessionSuite) (dsa : MlDsa) (sha256 : Hash) (part : ServerPart)
    (reached : HandshakeEnd) (payload : ClientHelloPayload) (response : ServerHandshakeState) :
    Prop where
  clientHello : reached.clientHello = part.call.clientHello
  decodes : ClientHelloPayload.decode part.call.clientHello = .ok payload
  responds : ServerHandshakeState.respond suite part.call.randomness payload.x25519PublicKey
    payload.mlKemEk = .ok response
  answers : ∃ signature, ServerHelloPayload.encode ⟨part.call.serverId, response.x25519Public,
    response.mlKemCiphertext, signature⟩ = .ok reached.serverHello
  origin : reached.origin =
    .server part.call.randomness payload.x25519PublicKey payload.mlKemEk
  keys : reached.keys = response.sessionKeys

section

variable {suite : SessionSuite} {dsa : MlDsa} {sha256 : Hash} {reached : HandshakeEnd}

theorem exists_clientFinished {part : ClientPart}
    (finished : (HandshakePart.client part).finish suite dsa sha256 = .ok reached) :
    ∃ state answer, ClientFinished suite dsa sha256 part reached state answer := by
  simp only [finish, Outcome.bind_eq_ok_iff, Outcome.mapError_eq_ok_iff, Outcome.pure_eq_ok,
    Outcome.ok.injEq] at finished
  rcases finished with ⟨state, generated, clientHello, encodes, answer, accepted, keys, derives,
    rfl⟩
  exact ⟨state, answer, generated, encodes, accepted, rfl, derives⟩

theorem exists_serverFinished {part : ServerPart}
    (finished : (HandshakePart.server part).finish suite dsa sha256 = .ok reached) :
    ∃ payload response, ServerFinished suite dsa sha256 part reached payload response := by
  simp only [finish, Outcome.bind_eq_ok_iff, Outcome.mapError_eq_ok_iff, Outcome.pure_eq_ok,
    Outcome.ok.injEq] at finished
  rcases finished with ⟨payload, decodes, response, responds, answer, answered, serverHello,
    encodes, rfl⟩
  rcases ServerCall.serverHello_eq_ok_iff.mp answered with ⟨state, responded, rfl⟩
  cases responds.symm.trans responded
  rw [ServerCall.respond, decodes] at responds
  exact ⟨payload, response, rfl, decodes, responds, ⟨_, encodes⟩, rfl, rfl⟩

/-- A client and a server with each other's public values share the secrets and the keys. -/
theorem shared_of_material (commutes : suite.x25519.Commutes) (inverts : suite.mlKem.Inverts)
    {client : ClientPart} {server : ServerPart} {clientEnd serverEnd : HandshakeEnd}
    {state : ClientHandshakeState} {answer : ServerHelloPayload} {payload : ClientHelloPayload}
    {response : ServerHandshakeState}
    (clientFinished : ClientFinished suite dsa sha256 client clientEnd state answer)
    (serverFinished : ServerFinished suite dsa sha256 server serverEnd payload response)
    (sameHello : clientEnd.clientHello = serverEnd.clientHello)
    (sameKey : answer.x25519PublicKey = response.x25519Public)
    (sameCiphertext : answer.mlKemCiphertext = response.mlKemCiphertext) :
    clientEnd.keys = serverEnd.keys ∧
      clientEnd.origin.inputs suite = serverEnd.origin.inputs suite := by
  have decodes := serverFinished.decodes
  rw [← serverFinished.clientHello, ← sameHello,
    ClientHelloPayload.canonical.decode_of_encode clientFinished.encodes] at decodes
  cases decodes
  have generated := clientFinished.generated
  have responds := serverFinished.responds
  have derives := clientFinished.derives
  rw [sameKey, sameCiphertext] at derives
  have agreed := deriveSessionKeys_of_respond commutes inverts generated responds
  constructor
  · rw [serverFinished.keys]
    exact (Outcome.ok.inj (agreed.symm.trans derives)).symm
  · rw [clientFinished.origin, serverFinished.origin, sameKey, sameCiphertext]
    rw [ClientHandshakeState.generate_eq] at generated
    cases generated
    rcases ServerHandshakeState.respond_eq_ok_iff.mp responds with
      ⟨serverKey, kyberShared, encapsulated, _⟩
    simp only [SessionOrigin.inputs, ClientHandshakeState.hello] at encapsulated ⊢
    rw [encapsulated, Option.map_some, Option.map_some, inverts encapsulated, serverKey, commutes]

theorem clientX25519Pk_of_inputs {part : ClientPart} {state : ClientHandshakeState}
    {answer : ServerHelloPayload} {inputs : HandshakeInputs}
    (finished : ClientFinished suite dsa sha256 part reached state answer)
    (derivedFrom : reached.origin.inputs suite = some inputs) :
    inputs.clientX25519Pk = suite.x25519.publicKey part.x25519Secret := by
  have generated := finished.generated
  rw [ClientHandshakeState.generate_eq] at generated
  cases generated
  rw [finished.origin, SessionOrigin.inputs, Option.map_some, Option.some.injEq] at derivedFrom
  rw [← derivedFrom]

theorem serverX25519Pk_of_inputs {part : ServerPart} {payload : ClientHelloPayload}
    {response : ServerHandshakeState} {inputs : HandshakeInputs}
    (finished : ServerFinished suite dsa sha256 part reached payload response)
    (derivedFrom : reached.origin.inputs suite = some inputs) :
    inputs.serverX25519Pk = suite.x25519.publicKey part.call.randomness.ephemeral := by
  rw [finished.origin, SessionOrigin.inputs, Option.map_eq_some_iff] at derivedFrom
  rcases derivedFrom with ⟨_, _, rfl⟩
  rfl

end

end HandshakePart

/-! ## Whole runs -/

/-- Sides that finished their parts of handshakes, and set only the sessions they
derived in them. -/
structure Handshaken (suite : SessionSuite) (dsa : MlDsa) (sha256 : Hash) {ι : Type}
    (part : ι → HandshakePart) (reached : ι → HandshakeEnd) (events : List (NetworkEvent ι)) :
    Prop where
  finished : ∀ side, (part side).finish suite dsa sha256 = .ok (reached side)
  own : ∀ side outboundKey inboundKey,
    NetworkEvent.establish side outboundKey inboundKey ∈ events →
      outboundKey = (reached side).keys.outbound (reached side).origin.role ∧
        inboundKey = (reached side).keys.inbound (reached side).origin.role

/-- No two clients, and no two of the servers' sessions, drew one X25519 key. -/
structure FreshKeys (suite : SessionSuite) {ι : Type} (part : ι → HandshakePart) : Prop where
  clients : ∀ left right leftPart rightPart, part left = .client leftPart →
    part right = .client rightPart → suite.x25519.publicKey leftPart.x25519Secret =
      suite.x25519.publicKey rightPart.x25519Secret → left = right
  servers : ∀ left right leftPart rightPart, part left = .server leftPart →
    part right = .server rightPart →
      suite.x25519.publicKey leftPart.call.randomness.ephemeral =
        suite.x25519.publicKey rightPart.call.randomness.ephemeral → left = right

namespace Handshaken

variable {suite : SessionSuite} {dsa : MlDsa} {sha256 : Hash} {ι : Type}
  {part : ι → HandshakePart} {reached : ι → HandshakeEnd} {events : List (NetworkEvent ι)}

theorem client (handshaken : Handshaken suite dsa sha256 part reached events) {side : ι}
    {clientPart : ClientPart} (isClient : part side = .client clientPart) :
    ∃ state answer, HandshakePart.ClientFinished suite dsa sha256 clientPart (reached side) state
      answer :=
  HandshakePart.exists_clientFinished (isClient ▸ handshaken.finished side)

theorem server (handshaken : Handshaken suite dsa sha256 part reached events) {side : ι}
    {serverPart : ServerPart} (isServer : part side = .server serverPart) :
    ∃ payload response, HandshakePart.ServerFinished suite dsa sha256 serverPart (reached side)
      payload response :=
  HandshakePart.exists_serverFinished (isServer ▸ handshaken.finished side)

theorem setsOwnKeys (handshaken : Handshaken suite dsa sha256 part reached events) :
    SetsOwnKeys suite (fun side => (reached side).origin) (fun side => (reached side).keys)
      events where
  own := handshaken.own
  derived side := by
    cases acted : part side with
    | client clientPart =>
        rcases handshaken.client acted with ⟨state, answer, finished⟩
        rw [finished.origin]
        exact finished.derives
    | server serverPart =>
        rcases handshaken.server acted with ⟨payload, response, finished⟩
        rw [finished.origin, SessionOrigin.sessionKeys, finished.responds, finished.keys]
        rfl

theorem eq_of_inputs (handshaken : Handshaken suite dsa sha256 part reached events)
    (fresh : FreshKeys suite part) {left right : ι}
    (sameRole : (reached left).origin.role = (reached right).origin.role)
    (sameInputs : (reached left).origin.inputs suite = (reached right).origin.inputs suite) :
    left = right := by
  rcases SessionOrigin.expand_of_sessionKeys (handshaken.setsOwnKeys.derived left) with
    ⟨inputs, leftInputs, _⟩
  have rightInputs := sameInputs.symm.trans leftInputs
  cases leftActed : part left with
  | client leftPart =>
      rcases handshaken.client leftActed with ⟨_, _, leftFinished⟩
      cases rightActed : part right with
      | client rightPart =>
          rcases handshaken.client rightActed with ⟨_, _, rightFinished⟩
          apply fresh.clients left right leftPart rightPart leftActed rightActed
          rw [← HandshakePart.clientX25519Pk_of_inputs leftFinished leftInputs,
            ← HandshakePart.clientX25519Pk_of_inputs rightFinished rightInputs]
      | server rightPart =>
          rcases handshaken.server rightActed with ⟨_, _, rightFinished⟩
          rw [leftFinished.origin, rightFinished.origin] at sameRole
          cases sameRole
  | server leftPart =>
      rcases handshaken.server leftActed with ⟨_, _, leftFinished⟩
      cases rightActed : part right with
      | client rightPart =>
          rcases handshaken.client rightActed with ⟨_, _, rightFinished⟩
          rw [leftFinished.origin, rightFinished.origin] at sameRole
          cases sameRole
      | server rightPart =>
          rcases handshaken.server rightActed with ⟨_, _, rightFinished⟩
          apply fresh.servers left right leftPart rightPart leftActed rightActed
          rw [← HandshakePart.serverX25519Pk_of_inputs leftFinished leftInputs,
            ← HandshakePart.serverX25519Pk_of_inputs rightFinished rightInputs]

variable [DecidableEq ι] {opening : Aead}

theorem sublist_or_collide (handshaken : Handshaken suite dsa sha256 part reached events)
    (fresh : FreshKeys suite part) {receiver signer : ι}
    (opposite : (reached signer).origin.role = (reached receiver).origin.role.peer)
    (sameInputs : (reached signer).origin.inputs suite = (reached receiver).origin.inputs suite)
    (opensOnly : opening.OpensOnlySealedUnder
      ((reached receiver).keys.inbound (reached receiver).origin.role)
        (Network.after opening events).calls) :
    ((Network.after opening events).party receiver).received.Sublist
        ((Network.after opening events).party signer).sent ∨
      ∃ side, (reached side).origin.KeysCollide suite (reached receiver).origin := by
  refine handshaken.setsOwnKeys.sublist_or_collide opensOnly ?_
  intro side sameRole inputs
  exact handshaken.eq_of_inputs fresh (sameRole.trans opposite.symm) (inputs.trans sameInputs.symm)

end Handshaken

/-! ## Signers -/

/-- A client and a server's session that share what they derive their keys from. -/
structure HandshakeEnd.Partners (suite : SessionSuite) (client server : HandshakeEnd) : Prop where
  keys : client.keys = server.keys
  inputs : client.origin.inputs suite = server.origin.inputs suite
  clientRole : client.origin.role = .client
  serverRole : server.origin.role = .server

namespace Handshaken

variable {suite : SessionSuite} {dsa : MlDsa} {sha256 : Hash} {ι : Type}
  {part : ι → HandshakePart} {reached : ι → HandshakeEnd} {events : List (NetworkEvent ι)}

/-- A client that signed what a server's session verified answered the session's nonce.
It is the session's partner, or the transcripts collide. -/
theorem partners_of_response (handshaken : Handshaken suite dsa sha256 part reached events)
    (commutes : suite.x25519.Commutes) (inverts : suite.mlKem.Inverts) {side session : ι}
    {client : ClientPart} {server : ServerPart} (isClient : part side = .client client)
    (isServer : part session = .server server) {nonce : FixedBytes 32}
    (equal : ((reached side).conversation nonce).message sha256 =
      ((reached session).conversation server.nonce).message sha256) :
    nonce = server.nonce ∧
      (((reached side).conversation server.nonce).Collides sha256
          ((reached session).conversation server.nonce) ∨
        ((reached side).conversation server.nonce =
            (reached session).conversation server.nonce ∧
          (reached side).Partners suite (reached session))) := by
  rcases handshaken.client isClient with ⟨state, answer, clientFinished⟩
  rcases handshaken.server isServer with ⟨payload, response, serverFinished⟩
  have received : payload.encode = .ok (reached session).clientHello := by
    rw [serverFinished.clientHello]
    exact ClientHelloPayload.canonical.encode_of_decode serverFinished.decodes
  rcases Conversation.eq_or_collides ⟨_, clientFinished.encodes⟩ ⟨payload, received⟩ equal with
    same | ⟨sameNonce, collides⟩
  · rcases Conversation.mk.inj same with ⟨sameClientHello, sameServerHello, rfl⟩
    have decodes := (acceptServerHello_eq_ok_iff.mp clientFinished.accepted).1
    rcases serverFinished.answers with ⟨_, answers⟩
    rw [sameServerHello, ServerHelloPayload.canonical.decode_of_encode answers] at decodes
    cases decodes
    rcases HandshakePart.shared_of_material commutes inverts clientFinished serverFinished
      sameClientHello rfl rfl with ⟨sameKeys, sameInputs⟩
    exact ⟨rfl, .inr ⟨same, sameKeys, sameInputs,
      congrArg SessionOrigin.role clientFinished.origin,
      congrArg SessionOrigin.role serverFinished.origin⟩⟩
  · cases (sameNonce : nonce = server.nonce)
    exact ⟨rfl, .inl collides⟩

/-- A server's session that signed the hello a client accepted is the client's partner, or
the hellos it answers collide. -/
theorem partners_of_hello (handshaken : Handshaken suite dsa sha256 part reached events)
    (commutes : suite.x25519.Commutes) (inverts : suite.mlKem.Inverts) {side session : ι}
    {client : ClientPart} {server : ServerPart} {state : ClientHandshakeState}
    {answer : ServerHelloPayload}
    (clientFinished : HandshakePart.ClientFinished suite dsa sha256 client (reached session) state
      answer)
    (isServer : part side = .server server)
    (message : server.call.signedMessage? suite sha256 = some (serverHelloMessage sha256
      (reached session).clientHello answer.x25519PublicKey answer.mlKemCiphertext)) :
    ((reached side).clientHello ≠ (reached session).clientHello ∧
        sha256 (reached side).clientHello = sha256 (reached session).clientHello) ∨
      ((reached side).clientHello = (reached session).clientHello ∧
        (reached session).Partners suite (reached side)) := by
  rcases handshaken.server isServer with ⟨payload, response, serverFinished⟩
  rcases ServerCall.signedMessage?_eq_some_iff.mp message with ⟨state', responded, same⟩
  rw [ServerCall.respond, serverFinished.decodes] at responded
  cases serverFinished.responds.symm.trans responded
  rcases serverHelloMessage_inj.mp same with ⟨sameHash, sameKey, sameCiphertext⟩
  rw [← serverFinished.clientHello] at sameHash
  by_cases sameHello : (reached side).clientHello = (reached session).clientHello
  · rcases HandshakePart.shared_of_material commutes inverts clientFinished serverFinished
      sameHello.symm sameKey.symm sameCiphertext.symm with ⟨sameKeys, sameInputs⟩
    exact .inr ⟨sameHello, sameKeys, sameInputs,
      congrArg SessionOrigin.role clientFinished.origin,
      congrArg SessionOrigin.role serverFinished.origin⟩
  · exact .inl ⟨sameHello, sameHash⟩

/-- A response that a server verified was signed by a client that is its partner, or the
transcripts collide. -/
theorem exists_responder (handshaken : Handshaken suite dsa sha256 part reached events)
    (commutes : suite.x25519.Commutes) (inverts : suite.mlKem.Inverts) {session : ι}
    {server : ServerPart} (isServer : part session = .server server) {seed : FixedBytes 32}
    {signature : FixedBytes mlDsa65SigSize}
    (accepted : verifyAuthResponse dsa
      (computeHandshakeTranscript sha256 (reached session).clientHello
        (reached session).serverHello) server.nonce (dsa.verifyingKey seed) signature = .ok ())
    {signed : List Bytes} (verifiesOnly : dsa.VerifiesOnly seed signed)
    (clientsSign : ∀ message ∈ signed, ∃ side client nonce, part side = .client client ∧
      client.identitySeed = seed ∧ nonce ∈ client.challenges ∧
        message = ((reached side).conversation nonce).message sha256) :
    ∃ side client, part side = .client client ∧ client.identitySeed = seed ∧
      server.nonce ∈ client.challenges ∧
      (((reached side).conversation server.nonce).Collides sha256
          ((reached session).conversation server.nonce) ∨
        ((reached side).conversation server.nonce =
            (reached session).conversation server.nonce ∧
          (reached side).Partners suite (reached session))) := by
  rcases MlDsa.verifyEncoded_eq_ok_iff.mp accepted with ⟨decoded, _, verifies⟩
  rcases clientsSign _ (verifiesOnly _ _ verifies) with
    ⟨side, client, nonce, isClient, owner, answered, message⟩
  rcases handshaken.partners_of_response commutes inverts isClient isServer message.symm with
    ⟨rfl, partners⟩
  exact ⟨side, client, isClient, owner, answered, partners⟩

/-- A hello that a client accepted was signed by a session that is its partner, or the
hellos it answers collide. -/
theorem exists_answerer (handshaken : Handshaken suite dsa sha256 part reached events)
    (commutes : suite.x25519.Commutes) (inverts : suite.mlKem.Inverts) {session : ι}
    {client : ClientPart} (isClient : part session = .client client) {seed : FixedBytes 32}
    (pinned : client.pinnedVerifyingKey = dsa.verifyingKey seed) {signed : List Bytes}
    (verifiesOnly : dsa.VerifiesOnly seed signed)
    (serversSign : ∀ message ∈ signed, ∃ side server, part side = .server server ∧
      server.identitySeed = seed ∧ server.call.signedMessage? suite sha256 = some message) :
    ∃ side server, part side = .server server ∧ server.identitySeed = seed ∧
      (((reached side).clientHello ≠ (reached session).clientHello ∧
          sha256 (reached side).clientHello = sha256 (reached session).clientHello) ∨
        ((reached side).clientHello = (reached session).clientHello ∧
          (reached session).Partners suite (reached side))) := by
  rcases handshaken.client isClient with ⟨state, answer, clientFinished⟩
  have verified := (acceptServerHello_eq_ok_iff.mp clientFinished.accepted).2
  rw [pinned] at verified
  rcases MlDsa.verifyEncoded_eq_ok_iff.mp verified with ⟨decoded, _, verifies⟩
  rcases serversSign _ (verifiesOnly _ _ verifies) with ⟨side, server, isServer, owner, message⟩
  exact ⟨side, server, isServer, owner,
    handshaken.partners_of_hello commutes inverts clientFinished isServer message⟩

end Handshaken

/-! ## The guarantees -/

/-- A server that accepted a client's signature shares its session with the client that
signed, which answered the same nonce in a handshake with the same hellos, and receives
only what that client sealed, in order, without repetition and bit for bit. Otherwise
their hellos are a collision of the hash, or keys that were derived collide. -/
theorem server_receives_from_signer {ι : Type} [DecidableEq ι] (suite : SessionSuite)
    (dsa : MlDsa) (sha256 : Hash) (opening : Aead) (commutes : suite.x25519.Commutes)
    (inverts : suite.mlKem.Inverts) (part : ι → HandshakePart) (reached : ι → HandshakeEnd)
    (events : List (NetworkEvent ι))
    (handshaken : Handshaken suite dsa sha256 part reached events) (fresh : FreshKeys suite part)
    (receiver : ι) (server : ServerPart) (isServer : part receiver = .server server)
    (seed : FixedBytes 32) (signature : FixedBytes mlDsa65SigSize)
    (accepted : verifyAuthResponse dsa
      (computeHandshakeTranscript sha256 (reached receiver).clientHello
        (reached receiver).serverHello) server.nonce (dsa.verifyingKey seed) signature = .ok ())
    (signed : List Bytes) (verifiesOnly : dsa.VerifiesOnly seed signed)
    (clientsSign : ∀ message ∈ signed, ∃ side client nonce, part side = .client client ∧
      client.identitySeed = seed ∧ nonce ∈ client.challenges ∧
        message = ((reached side).conversation nonce).message sha256)
    (opensOnly : opening.OpensOnlySealedUnder ((reached receiver).keys.inbound .server)
      (Network.after opening events).calls) :
    ∃ side client, part side = .client client ∧ client.identitySeed = seed ∧
      server.nonce ∈ client.challenges ∧
      (((reached side).conversation server.nonce).Collides sha256
          ((reached receiver).conversation server.nonce) ∨
        ((reached side).conversation server.nonce =
            (reached receiver).conversation server.nonce ∧
          (reached side).keys = (reached receiver).keys ∧
          (((Network.after opening events).party receiver).received.Sublist
              ((Network.after opening events).party side).sent ∨
            ∃ other, (reached other).origin.KeysCollide suite (reached receiver).origin))) := by
  rcases handshaken.exists_responder commutes inverts isServer accepted verifiesOnly clientsSign
    with ⟨side, client, isClient, owner, answered, collides | ⟨same, partners⟩⟩
  · exact ⟨side, client, isClient, owner, answered, .inl collides⟩
  · have opposite : (reached side).origin.role = (reached receiver).origin.role.peer := by
      rw [partners.clientRole, partners.serverRole]
      rfl
    rw [← partners.serverRole] at opensOnly
    exact ⟨side, client, isClient, owner, answered, .inr ⟨same, partners.keys,
      handshaken.sublist_or_collide fresh opposite partners.inputs opensOnly⟩⟩

/-- A client that accepted a server's hello under its pinned key shares its session with a
session of the server that received the client's hello, and receives only what that
session sealed, in order, without repetition and bit for bit. Otherwise the two hellos
the signature may stand for are a collision of the hash, or keys that were derived
collide. -/
theorem client_receives_from_signer {ι : Type} [DecidableEq ι] (suite : SessionSuite)
    (dsa : MlDsa) (sha256 : Hash) (opening : Aead) (commutes : suite.x25519.Commutes)
    (inverts : suite.mlKem.Inverts) (part : ι → HandshakePart) (reached : ι → HandshakeEnd)
    (events : List (NetworkEvent ι))
    (handshaken : Handshaken suite dsa sha256 part reached events) (fresh : FreshKeys suite part)
    (receiver : ι) (client : ClientPart) (isClient : part receiver = .client client)
    (seed : FixedBytes 32) (pinned : client.pinnedVerifyingKey = dsa.verifyingKey seed)
    (signed : List Bytes) (verifiesOnly : dsa.VerifiesOnly seed signed)
    (serversSign : ∀ message ∈ signed, ∃ side server, part side = .server server ∧
      server.identitySeed = seed ∧ server.call.signedMessage? suite sha256 = some message)
    (opensOnly : opening.OpensOnlySealedUnder ((reached receiver).keys.inbound .client)
      (Network.after opening events).calls) :
    ∃ side server, part side = .server server ∧ server.identitySeed = seed ∧
      (((reached side).clientHello ≠ (reached receiver).clientHello ∧
          sha256 (reached side).clientHello = sha256 (reached receiver).clientHello) ∨
        ((reached side).clientHello = (reached receiver).clientHello ∧
          (reached side).keys = (reached receiver).keys ∧
          (((Network.after opening events).party receiver).received.Sublist
              ((Network.after opening events).party side).sent ∨
            ∃ other, (reached other).origin.KeysCollide suite (reached receiver).origin))) := by
  rcases handshaken.exists_answerer commutes inverts isClient pinned verifiesOnly serversSign
    with ⟨side, server, isServer, owner, collides | ⟨sameHello, partners⟩⟩
  · exact ⟨side, server, isServer, owner, .inl collides⟩
  · have opposite : (reached side).origin.role = (reached receiver).origin.role.peer := by
      rw [partners.clientRole, partners.serverRole]
      rfl
    rw [← partners.clientRole] at opensOnly
    exact ⟨side, server, isServer, owner, .inr ⟨sameHello, partners.keys.symm,
      handshaken.sublist_or_collide fresh opposite partners.inputs.symm opensOnly⟩⟩

/-! One client and one session of the server authenticate each other, and one of them sends
a ping. -/

def sampleEnd (role : Role) : HandshakeEnd where
  clientHello := sampleClientHello
  serverHello := sampleServerHelloBytes
  origin := sampleOrigin role
  keys := labelledKeys

def sampleChallenge : FixedBytes 32 := .replicate 32 6

def sampleAuthMessage : Bytes :=
  ((sampleEnd .server).conversation sampleChallenge).message sampleHelloHash

/-- The server signs its hello, and the client its response. -/
def sampleEndsDsa : MlDsa :=
  .transparent fun seed message =>
    if seed = .replicate 32 7 then [sampleServerMessage].contains message
    else [sampleAuthMessage].contains message

def sampleClientPart : ClientPart where
  clientId := "a"
  x25519Secret := .replicate 32 1
  mlKemSeed := .replicate 64 2
  pinnedVerifyingKey := sampleEndsDsa.verifyingKey (.replicate 32 7)
  identitySeed := .replicate 32 8
  serverHello := sampleServerHelloBytes
  challenges := [sampleChallenge]

def sampleServerPart : ServerPart where
  call := sampleServerCall
  identitySeed := .replicate 32 7
  nonce := sampleChallenge

def sampleSide : Role → HandshakePart
  | .client => .client sampleClientPart
  | .server => .server sampleServerPart

def pingsFrom (sender : Role) : List (NetworkEvent Role) :=
  [.establish .client labelledKeys.clientToServer labelledKeys.serverToClient,
    .establish .server labelledKeys.serverToClient labelledKeys.clientToServer,
    .write sender (.ofCalls [{ pingCall with key := labelledKeys.outbound sender }])
      PacketCodec.openStream .ping 0 (List.replicate 8 7),
    .read sender.peer ⟨pingFrame, .earlyEof⟩]

def afterPingsFrom (sender : Role) : Network Role :=
  .after (.ofCalls [{ pingCall with key := labelledKeys.outbound sender }]) (pingsFrom sender)

theorem sampleServerCall_answers :
    sampleServerCall.respond labelledSession = .ok labelledServerState := by
  have encodes : (sampleClient.hello "a").encode = .ok sampleClientHello := rfl
  rw [ServerCall.respond_of_hello encodes rfl]
  exact labelledServerState_responds

theorem sampleSide_finishes_under {permitted : FixedBytes 32 → Bytes → Bool}
    (allowed : permitted (.replicate 32 7) sampleServerMessage = true) (role : Role) :
    (sampleSide role).finish labelledSession (.transparent permitted) sampleHelloHash =
      .ok (sampleEnd role) := by
  have encodes : (sampleClient.hello "a").encode = .ok sampleClientHello := rfl
  cases role with
  | client =>
      have generated : ClientHandshakeState.generate labelledSession
          sampleClientPart.x25519Secret sampleClientPart.mlKemSeed = .ok sampleClient :=
        ClientHandshakeState.generate_eq _ _ _
      have accepted : acceptServerHello (.transparent permitted) sampleHelloHash
          sampleClientHello
          sampleClientPart.pinnedVerifyingKey sampleServerHelloBytes = .ok sampleServerHello := by
        refine acceptServerHello_eq_ok_iff.mpr
          ⟨ServerHelloPayload.canonical.decode_of_encode rfl, ?_⟩
        exact MlDsa.transparent_verifies allowed
      have derives : sampleClient.deriveSessionKeys labelledSession
          sampleServerHello.x25519PublicKey sampleServerHello.mlKemCiphertext =
            .ok labelledKeys := sampleOrigin_sessionKeys .client
      simp only [sampleSide, HandshakePart.finish, Outcome.bind_eq_ok_iff,
        Outcome.mapError_eq_ok_iff, Outcome.pure_eq_ok, Outcome.ok.injEq]
      exact ⟨sampleClient, generated, sampleClientHello, encodes, sampleServerHello, accepted,
        labelledKeys, derives, rfl⟩
  | server =>
      have decodes : ClientHelloPayload.decode sampleClientHello = .ok (sampleClient.hello "a") :=
        ClientHelloPayload.canonical.decode_of_encode encodes
      have answers : sampleServerCall.serverHello labelledSession (.transparent permitted)
          sampleHelloHash sampleServerPart.identitySeed = .ok sampleServerHello :=
        ServerCall.serverHello_eq_ok_iff.mpr ⟨_, sampleServerCall_answers, rfl⟩
      simp only [sampleSide, HandshakePart.finish, Outcome.bind_eq_ok_iff,
        Outcome.mapError_eq_ok_iff, Outcome.pure_eq_ok, Outcome.ok.injEq]
      exact ⟨sampleClient.hello "a", decodes, labelledServerState, sampleServerCall_answers,
        sampleServerHello, answers, sampleServerHelloBytes, rfl, rfl⟩

theorem sampleSide_finishes (role : Role) :
    (sampleSide role).finish labelledSession sampleEndsDsa sampleHelloHash =
      .ok (sampleEnd role) := by
  rw [sampleEndsDsa]
  apply sampleSide_finishes_under
  rw [if_pos rfl]
  exact List.contains_iff_mem.mpr (List.mem_singleton.mpr rfl)

theorem sampleSide_handshaken (sender : Role) :
    Handshaken labelledSession sampleEndsDsa sampleHelloHash sampleSide sampleEnd
      (pingsFrom sender) where
  finished := sampleSide_finishes
  own := by
    intro side outboundKey inboundKey member
    simp only [pingsFrom, List.mem_cons, NetworkEvent.establish.injEq, reduceCtorEq, or_false,
      List.not_mem_nil] at member
    rcases member with ⟨rfl, rfl, rfl⟩ | ⟨rfl, rfl, rfl⟩ <;> exact ⟨rfl, rfl⟩

theorem sampleSide_fresh : FreshKeys labelledSession sampleSide where
  clients := by
    intro left right _ _ isLeft isRight _
    cases left with
    | server => exact HandshakePart.noConfusion isLeft
    | client =>
        cases right with
        | server => exact HandshakePart.noConfusion isRight
        | client => rfl
  servers := by
    intro left right _ _ isLeft isRight _
    cases left with
    | client => exact HandshakePart.noConfusion isLeft
    | server =>
        cases right with
        | client => exact HandshakePart.noConfusion isRight
        | server => rfl

theorem pingsFrom_opensOnly (sender : Role) :
    (Aead.ofCalls [{ pingCall with key := labelledKeys.outbound sender }]).OpensOnlySealedUnder
      (labelledKeys.outbound sender) (afterPingsFrom sender).calls := by
  intro nonce aad ciphertext plaintext opens
  have recorded : (afterPingsFrom sender).calls =
      [{ pingCall with key := labelledKeys.outbound sender }] := by
    cases sender <;> decide
  rw [recorded]
  exact Aead.mem_of_openInPlace_ofCalls opens

theorem sample_server_receives :
    ((afterPingsFrom .client).party .server).received.length = 1 ∧
      ∃ side client, sampleSide side = .client client ∧
        client.identitySeed = .replicate 32 8 ∧ sampleChallenge ∈ client.challenges ∧
        (((sampleEnd side).conversation sampleChallenge).Collides sampleHelloHash
            ((sampleEnd .server).conversation sampleChallenge) ∨
          ((sampleEnd side).conversation sampleChallenge =
              (sampleEnd .server).conversation sampleChallenge ∧
            (sampleEnd side).keys = (sampleEnd .server).keys ∧
            (((afterPingsFrom .client).party .server).received.Sublist
                ((afterPingsFrom .client).party side).sent ∨
              ∃ other, (sampleEnd other).origin.KeysCollide labelledSession
                (sampleEnd .server).origin))) := by
  refine ⟨by decide, server_receives_from_signer labelledSession sampleEndsDsa sampleHelloHash _
    X25519.transparent_commutes MlKem.transparent_inverts sampleSide sampleEnd (pingsFrom .client)
    (sampleSide_handshaken .client) sampleSide_fresh .server sampleServerPart rfl
    (.replicate 32 8) (sampleEndsDsa.sign (.replicate 32 8) sampleAuthMessage) ?_
    [sampleAuthMessage] ?_ ?_ (pingsFrom_opensOnly .client)⟩
  · exact MlDsa.transparent_verifies (List.contains_iff_mem.mpr (List.mem_singleton.mpr rfl))
  · exact MlDsa.transparent_permits fun message allowed => List.contains_iff_mem.mp allowed
  · intro message signed
    cases List.mem_singleton.mp signed
    exact ⟨.client, sampleClientPart, sampleChallenge, rfl, rfl, List.mem_singleton.mpr rfl, rfl⟩

theorem sample_client_receives :
    ((afterPingsFrom .server).party .client).received.length = 1 ∧
      ∃ side server, sampleSide side = .server server ∧
        server.identitySeed = .replicate 32 7 ∧
        (((sampleEnd side).clientHello ≠ (sampleEnd .client).clientHello ∧
            sampleHelloHash (sampleEnd side).clientHello =
              sampleHelloHash (sampleEnd .client).clientHello) ∨
          ((sampleEnd side).clientHello = (sampleEnd .client).clientHello ∧
            (sampleEnd side).keys = (sampleEnd .client).keys ∧
            (((afterPingsFrom .server).party .client).received.Sublist
                ((afterPingsFrom .server).party side).sent ∨
              ∃ other, (sampleEnd other).origin.KeysCollide labelledSession
                (sampleEnd .client).origin))) := by
  refine ⟨by decide, client_receives_from_signer labelledSession sampleEndsDsa sampleHelloHash _
    X25519.transparent_commutes MlKem.transparent_inverts sampleSide sampleEnd (pingsFrom .server)
    (sampleSide_handshaken .server) sampleSide_fresh .client sampleClientPart rfl
    (.replicate 32 7) rfl [sampleServerMessage] ?_ ?_ (pingsFrom_opensOnly .server)⟩
  · exact MlDsa.transparent_permits fun message allowed => List.contains_iff_mem.mp allowed
  · intro message signed
    cases List.mem_singleton.mp signed
    refine ⟨.server, sampleServerPart, rfl, rfl, ?_⟩
    exact ServerCall.signedMessage?_eq_some_iff.mpr ⟨_, sampleServerCall_answers, rfl⟩

end ChatixProtocol
