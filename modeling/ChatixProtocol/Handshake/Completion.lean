import ChatixProtocol.Channel.Messages
import ChatixProtocol.Handshake.ServerAuthentication

/-! # The whole handshake

A client and a server run the handshake from a new connection to the established
state: the hellos, the session keys, the confirmations and the client's proof of
identity. Nothing but the lengths of an identifier or a token can stop it.
-/

namespace ChatixProtocol

/-- What a client is configured with and draws. -/
structure HandshakeClient where
  clientId : String
  x25519Secret : FixedBytes 32
  mlKemSeed : FixedBytes 64
  pinnedVerifyingKey : FixedBytes mlDsa65VkSize
  identitySeed : FixedBytes 32
  identityKey : FixedBytes mlDsa65VkSize
  attestationToken : Bytes

structure HandshakeServer where
  serverId : String
  randomness : ServerRandomness
  identitySeed : FixedBytes 32
  nonce : FixedBytes 32

/-- Where both sides set their sessions. The challenge is already under them. -/
inductive SessionPoint where
  | afterHellos
  | afterFinish
  | afterAccept
  deriving DecidableEq

/-- What a side holds once it has both hellos. -/
structure HelloView where
  transcriptHash : FixedBytes 32
  keys : SessionKeys
  deriving DecidableEq

namespace Handshake

/-- The hellos, each side with the bytes it sent and received. -/
def agree (suite : SessionSuite) (dsa : MlDsa) (sha256 : Hash) (aead : Aead)
    (client : HandshakeClient) (server : HandshakeServer) :
    Effect Link ProtocolError (Role → HelloView) := do
  let state ← .lift (ClientHandshakeState.generate suite client.x25519Secret client.mlKemSeed)
  let clientHello ← .lift ((state.hello client.clientId).encode.mapError .io)
  let received ← Link.carry aead .client .clientHello 0 clientHello
  let call : ServerCall := {
    clientHello := received.payload
    randomness := server.randomness
    serverId := server.serverId
  }
  let response ← .lift (call.respond suite)
  let answer ← .lift (call.serverHello suite dsa sha256 server.identitySeed)
  let serverHello ← .lift (answer.encode.mapError .io)
  let arrived ← Link.carry aead .server .serverHello 0 serverHello
  let hello ← .lift (acceptServerHello dsa sha256 clientHello client.pinnedVerifyingKey
    arrived.payload)
  let keys ← .lift (state.deriveSessionKeys suite hello.x25519PublicKey hello.mlKemCiphertext)
  pure fun
    | .client => {
        transcriptHash := computeHandshakeTranscript sha256 clientHello arrived.payload
        keys
      }
    | .server => {
        transcriptHash := computeHandshakeTranscript sha256 received.payload serverHello
        keys := response.sessionKeys
      }

/-- Both sides set their sessions if this is the point for it. -/
def setSessions (views : Role → HelloView) (here : Bool) : Effect Link ProtocolError Unit :=
  .modify fun link =>
    if here then
      (link.establish .client (views .client).keys).establish .server (views .server).keys
    else
      link

/-- The confirmations. -/
def confirm (aead : Aead) (point : SessionPoint) (views : Role → HelloView) :
    Effect Link ProtocolError Unit := do
  setSessions views (point = .afterHellos)
  let _ ← Link.send aead .client .clientFinish ⟨true⟩
  setSessions views (point = .afterFinish)
  let _ ← Link.send aead .server .serverAccept ⟨true⟩
  setSessions views (point = .afterAccept)

/-- The client's proof of identity. -/
def authenticate (dsa : MlDsa) (aead : Aead) (client : HandshakeClient)
    (server : HandshakeServer) (views : Role → HelloView) : Effect Link ProtocolError Unit := do
  let challenge : AuthChallengePayload ←
    Link.send aead .server .authChallenge ⟨server.nonce⟩
  let signature ← .lift (signAuthResponse dsa (views .client).transcriptHash challenge.nonce
    client.identitySeed)
  let response : AuthResponsePayload ← Link.send aead .client .authResponse {
    publicKey := client.identityKey
    signature
    attestationToken := client.attestationToken
  }
  .lift (verifyAuthResponse dsa (views .server).transcriptHash server.nonce response.publicKey
    response.signature)
  let _ ← Link.send aead .server .authAccept {}

def run (suite : SessionSuite) (dsa : MlDsa) (sha256 : Hash) (aead : Aead)
    (client : HandshakeClient) (server : HandshakeServer) (point : SessionPoint) :
    Effect Link ProtocolError (Role → SessionKeys) := do
  let views ← agree suite dsa sha256 aead client server
  confirm aead point views
  authenticate dsa aead client server views
  pure fun role => (views role).keys

/-! ## Honest libraries -/

/-- The libraries behave as documented. Both sides have identities, and the client has
pinned the server's. -/
structure Honest (suite : SessionSuite) (dsa : MlDsa) (aead : Aead) (maxPlaintext : Nat)
    (client : HandshakeClient) (server : HandshakeServer) : Prop where
  commutes : suite.x25519.Commutes
  encapsulates : suite.mlKem.Encapsulates
  inverts : suite.mlKem.Inverts
  expands : suite.hkdfExpand.Total
  signs : dsa.Correct
  correct : aead.Correct maxPlaintext
  large : 65536 ≤ maxPlaintext
  identified : generateAuthIdentity dsa client.identitySeed =
    .ok (client.identitySeed, client.identityKey)
  pinned : generateAuthIdentity dsa server.identitySeed =
    .ok (server.identitySeed, client.pinnedVerifyingKey)

section

variable {suite : SessionSuite} {dsa : MlDsa} {sha256 : Hash} {aead : Aead}
  {maxPlaintext left : Nat} {client : HandshakeClient} {server : HandshakeServer}
  {link after : Link}

theorem exists_respond (honest : Honest suite dsa aead maxPlaintext client server)
    {state : ClientHandshakeState}
    (generated : ClientHandshakeState.generate suite client.x25519Secret client.mlKemSeed =
      .ok state) :
    ∃ response, ServerHandshakeState.respond suite server.randomness state.x25519Public
      state.mlKemEk = .ok response := by
  rw [ClientHandshakeState.generate_eq] at generated
  cases generated
  rcases honest.encapsulates client.mlKemSeed server.randomness.coins with
    ⟨ciphertext, shared, encapsulated⟩
  let serverPublic := suite.x25519.publicKey server.randomness.ephemeral
  let ikm := (suite.x25519.diffieHellman server.randomness.ephemeral
    (suite.x25519.publicKey client.x25519Secret)).bytes ++ shared.bytes
  let context := handshakeContext (suite.x25519.publicKey client.x25519Secret) serverPublic
    ciphertext
  rcases honest.expands ikm (context ++ utf8Bytes "chatix-c2s-v1") with ⟨c2s, first⟩
  rcases honest.expands ikm (context ++ utf8Bytes "chatix-s2c-v1") with ⟨s2c, second⟩
  refine ⟨⟨serverPublic, ciphertext, ⟨c2s, s2c⟩⟩, ?_⟩
  exact ServerHandshakeState.respond_eq_ok_iff.mpr
    ⟨rfl, shared, encapsulated, deriveKeys_eq_ok_iff.mpr ⟨first, second⟩⟩

theorem exists_answer (honest : Honest suite dsa aead maxPlaintext client server)
    {state : ClientHandshakeState} {response : ServerHandshakeState} {clientHello : Bytes}
    (encodes : (state.hello client.clientId).encode = .ok clientHello)
    (responds : ServerHandshakeState.respond suite server.randomness state.x25519Public
      state.mlKemEk = .ok response)
    (serverShort : server.serverId.utf8ByteSize ≤ 78) :
    ∃ (answer : ServerHelloPayload) (serverHello : Bytes),
      (ServerCall.mk clientHello server.randomness server.serverId).respond suite =
        .ok response ∧
      (ServerCall.mk clientHello server.randomness server.serverId).serverHello suite dsa sha256
        server.identitySeed = .ok answer ∧
      answer.encode = .ok serverHello ∧
      serverHello.length ≤ PacketType.serverHello.maxPayloadSize.toNat ∧
      acceptServerHello dsa sha256 clientHello client.pinnedVerifyingKey serverHello = .ok answer ∧
      answer.x25519PublicKey = response.x25519Public ∧
      answer.mlKemCiphertext = response.mlKemCiphertext := by
  let call : ServerCall := ⟨clientHello, server.randomness, server.serverId⟩
  have responded : call.respond suite = .ok response := by
    rw [ServerCall.respond_of_hello encodes rfl]
    exact responds
  let answer : ServerHelloPayload := {
    serverId := server.serverId
    x25519PublicKey := response.x25519Public
    mlKemCiphertext := response.mlKemCiphertext
    signature := dsa.sign server.identitySeed (serverHelloMessage sha256 clientHello
      response.x25519Public response.mlKemCiphertext)
  }
  have answered : call.serverHello suite dsa sha256 server.identitySeed = .ok answer :=
    ServerCall.serverHello_eq_ok_iff.mpr ⟨response, responded, rfl⟩
  have serverFits : Message.Fits ⟨.serverHello, answer⟩ :=
    (Message.fits_iff_of_capped (.serverHello answer)).mpr serverShort
  rcases serverFits with ⟨serverHello, answerEncodes, within⟩
  have pinned := honest.pinned
  rw [generateAuthIdentity_eq, Outcome.ok.injEq, Prod.mk.injEq] at pinned
  have accepted : acceptServerHello dsa sha256 clientHello client.pinnedVerifyingKey serverHello =
      .ok answer := by
    rw [← pinned.2]
    exact acceptServerHello_eq_ok_iff.mpr
      ⟨ServerHelloPayload.canonical.decode_of_encode answerEncodes, honest.signs _ _⟩
  exact ⟨answer, serverHello, responded, answered, answerEncodes, within, accepted, rfl, rfl⟩

theorem agree_of_short (honest : Honest suite dsa aead maxPlaintext client server)
    (stands : link.Stands (left + 2) .awaitingServerHello .awaitingClientHello none)
    (clientShort : client.clientId.utf8ByteSize ≤ 82)
    (serverShort : server.serverId.utf8ByteSize ≤ 78) :
    ∃ (view : HelloView) (after : Link),
      agree suite dsa sha256 aead client server link = (.ok fun _ => view, after) ∧
        after.Stands left .awaitingServerAccept .awaitingClientFinish none := by
  have generated := ClientHandshakeState.generate_eq suite client.x25519Secret client.mlKemSeed
  generalize (⟨_, _, _, _⟩ : ClientHandshakeState) = state at generated
  rcases exists_respond honest generated with ⟨response, responds⟩
  have clientFits : Message.Fits ⟨.clientHello, state.hello client.clientId⟩ :=
    Message.fits_clientHello_iff.mpr clientShort
  rcases clientFits with ⟨clientHello, encodes, clientWithin⟩
  rcases exists_answer honest encodes responds serverShort with
    ⟨answer, serverHello, responded, answered, answerEncodes, serverWithin, accepted, samePublic,
      sameCiphertext⟩
  have derives : state.deriveSessionKeys suite answer.x25519PublicKey answer.mlKemCiphertext =
      .ok response.sessionKeys := by
    rw [samePublic, sameCiphertext]
    exact deriveSessionKeys_of_respond honest.commutes honest.inverts generated responds
  rcases stands.clientCarries honest.correct honest.large clientWithin rfl with
    ⟨middle, carried, middleStands⟩
  rcases middleStands.serverCarries honest.correct honest.large serverWithin rfl with
    ⟨after, answerCarried, afterStands⟩
  refine ⟨⟨computeHandshakeTranscript sha256 clientHello serverHello, response.sessionKeys⟩, after,
    ?_, afterStands⟩
  simp only [agree, Effect.bind_eq_ok_iff, Effect.lift_apply, Effect.pure_apply, Prod.mk.injEq,
    Outcome.mapError_eq_ok_iff]
  refine ⟨state, link, ⟨generated, rfl⟩, clientHello, link, ⟨encodes, rfl⟩, _, middle, carried,
    response, middle, ⟨responded, rfl⟩, answer, middle, ⟨answered, rfl⟩, serverHello, middle,
    ⟨answerEncodes, rfl⟩, _, after, answerCarried, answer, after, ⟨accepted, rfl⟩,
    response.sessionKeys, after, ⟨derives, rfl⟩, ?_, rfl⟩
  congr
  funext role
  cases role <;> rfl

theorem short_of_agree (honest : Honest suite dsa aead maxPlaintext client server)
    (inStep : link.InStep (left + 2)) {views : Role → HelloView}
    (agreed : agree suite dsa sha256 aead client server link = (.ok views, after)) :
    client.clientId.utf8ByteSize ≤ 82 ∧ server.serverId.utf8ByteSize ≤ 78 := by
  simp only [agree, Effect.bind_eq_ok_iff, Effect.lift_apply, Prod.mk.injEq,
    Outcome.mapError_eq_ok_iff] at agreed
  rcases agreed with ⟨state, _, ⟨_, rfl⟩, clientHello, _, ⟨encodes, rfl⟩, received, middle, carried,
    response, _, ⟨_, rfl⟩, answer, _, ⟨answered, rfl⟩, serverHello, _, ⟨answerEncodes, rfl⟩,
    arrived, last, answerCarried, _⟩
  have clientMeasured := Message.measured_clientHello _ clientHello encodes
  rcases (Link.carry_eq_ok_iff honest.correct honest.large (inStep.matching .client)
    clientMeasured).mp carried with ⟨_, clientWithin, _, next, _, rfl⟩
  have serverMeasured := Message.measured_serverHello _ serverHello answerEncodes
  rcases (Link.carry_eq_ok_iff honest.correct honest.large
    ((inStep.carried .client next).matching .server) serverMeasured).mp answerCarried with
    ⟨_, serverWithin, _⟩
  rcases ServerCall.serverHello_eq_ok_iff.mp answered with ⟨_, _, rfl⟩
  have clientFits : Message.Fits ⟨.clientHello, state.hello client.clientId⟩ :=
    ⟨clientHello, encodes, clientWithin.1⟩
  have serverFits : Message.Fits ⟨.serverHello, _⟩ := ⟨serverHello, answerEncodes, serverWithin.1⟩
  exact ⟨Message.fits_clientHello_iff.mp clientFits,
    (Message.fits_iff_of_capped (.serverHello _)).mp serverFits⟩

theorem setSessions_stands {waitingClient waitingServer : ConnectionState}
    {session : Option SessionKeys}
    (stands : link.Stands left waitingClient waitingServer session) (view : HelloView)
    (here : Bool) :
    ∃ after : Link, setSessions (fun _ => view) here link = (.ok (), after) ∧
      after.Stands left waitingClient waitingServer (if here then some view.keys else session) := by
  cases here with
  | true => exact ⟨_, rfl, stands.establish view.keys⟩
  | false => exact ⟨_, rfl, stands⟩

theorem confirm_stands (correct : aead.Correct maxPlaintext) (large : 65536 ≤ maxPlaintext)
    (stands : link.Stands (left + 2) .awaitingServerAccept .awaitingClientFinish none)
    (point : SessionPoint) (view : HelloView) :
    ∃ after : Link, confirm aead point (fun _ => view) link = (.ok (), after) ∧
      after.Stands left .awaitingAuthChallenge .awaitingAuth (some view.keys) := by
  have finishFits : Message.Fits ⟨.clientFinish, ⟨true⟩⟩ := Message.fits_of_fixedSize rfl
  have acceptFits : Message.Fits ⟨.serverAccept, ⟨true⟩⟩ := Message.fits_of_fixedSize rfl
  rcases setSessions_stands stands view (point = .afterHellos) with ⟨first, set, stands⟩
  rcases stands.clientSends correct large finishFits rfl with ⟨second, finishes, stands⟩
  rcases setSessions_stands stands view (point = .afterFinish) with ⟨third, setNext, stands⟩
  rcases stands.serverSends correct large acceptFits rfl with ⟨fourth, accepts, stands⟩
  rcases setSessions_stands stands view (point = .afterAccept) with ⟨after, setLast, stands⟩
  refine ⟨after, ?_, ?_⟩
  · rw [confirm, Effect.bind_of_ok set, Effect.bind_of_ok finishes, Effect.bind_of_ok setNext,
      Effect.bind_of_ok accepts, setLast]
  · cases point <;> exact stands

theorem authenticate_stands (honest : Honest suite dsa aead maxPlaintext client server)
    (view : HelloView)
    (stands : link.Stands (left + 3) .awaitingAuthChallenge .awaitingAuth (some view.keys))
    (tokenShort : client.attestationToken.length ≤ 4096) :
    ∃ after : Link, authenticate dsa aead client server (fun _ => view) link = (.ok (), after) ∧
      after.Stands left .established .established (some view.keys) := by
  let signature := dsa.sign client.identitySeed (authMessage view.transcriptHash server.nonce)
  let response : AuthResponsePayload := {
    publicKey := client.identityKey
    signature
    attestationToken := client.attestationToken
  }
  have challengeFits : Message.Fits ⟨.authChallenge, ⟨server.nonce⟩⟩ :=
    Message.fits_of_fixedSize rfl
  have responseFits : Message.Fits ⟨.authResponse, response⟩ :=
    (Message.fits_iff_of_capped (.authResponse response)).mpr tokenShort
  have acceptFits : Message.Fits ⟨.authAccept, {}⟩ := Message.fits_of_fixedSize rfl
  rcases stands.serverSends honest.correct honest.large challengeFits rfl with
    ⟨first, challenges, firstStands⟩
  rcases firstStands.clientSends honest.correct honest.large responseFits rfl with
    ⟨second, responds, secondStands⟩
  rcases secondStands.serverSends honest.correct honest.large acceptFits rfl with
    ⟨after, accepts, afterStands⟩
  have signs := signAuthResponse_eq dsa view.transcriptHash server.nonce client.identitySeed
  have verifies : verifyAuthResponse dsa view.transcriptHash server.nonce response.publicKey
      response.signature = .ok () := by
    have identified := honest.identified
    rw [generateAuthIdentity_eq, Outcome.ok.injEq, Prod.mk.injEq] at identified
    rw [show response.publicKey = dsa.verifyingKey client.identitySeed from identified.2.symm]
    exact honest.signs _ _
  refine ⟨after, ?_, afterStands⟩
  refine Effect.bind_eq_ok_iff.mpr ⟨_, first, challenges, ?_⟩
  refine Effect.bind_eq_ok_iff.mpr ⟨signature, first, congrArg (·, first) signs, ?_⟩
  refine Effect.bind_eq_ok_iff.mpr ⟨response, second, responds, ?_⟩
  refine Effect.bind_eq_ok_iff.mpr ⟨(), second, congrArg (·, second) verifies, ?_⟩
  exact Effect.bind_eq_ok_iff.mpr ⟨_, after, accepts, rfl⟩

theorem short_of_authenticate (honest : Honest suite dsa aead maxPlaintext client server)
    (view : HelloView)
    (stands : link.Stands (left + 3) .awaitingAuthChallenge .awaitingAuth (some view.keys))
    (measured : 5281 + client.attestationToken.length < 2 ^ 32)
    (accepted : authenticate dsa aead client server (fun _ => view) link = (.ok (), after)) :
    client.attestationToken.length ≤ 4096 := by
  have challengeFits : Message.Fits ⟨.authChallenge, ⟨server.nonce⟩⟩ :=
    Message.fits_of_fixedSize rfl
  rcases stands.serverSends honest.correct honest.large challengeFits rfl with
    ⟨first, challenges, firstStands⟩
  rcases Effect.bind_eq_ok_iff.mp accepted with ⟨_, _, challenged, accepted⟩
  cases challenges.symm.trans challenged
  rcases Effect.bind_eq_ok_iff.mp accepted with ⟨signature, _, signs, accepted⟩
  cases (congrArg Prod.snd signs : first = _)
  rcases Effect.bind_eq_ok_iff.mp accepted with ⟨response, _, responds, _⟩
  have fits := ((Link.send_eq_ok_iff honest.correct honest.large firstStands.inStep
    (Message.measured_authResponse measured)).mp responds).1
  exact (Message.fits_iff_of_capped (.authResponse _)).mp fits

theorem run_stands (honest : Honest suite dsa aead maxPlaintext client server)
    (stands : link.Stands (left + 7) .awaitingServerHello .awaitingClientHello none)
    (point : SessionPoint) (clientShort : client.clientId.utf8ByteSize ≤ 82)
    (serverShort : server.serverId.utf8ByteSize ≤ 78)
    (tokenShort : client.attestationToken.length ≤ 4096) :
    ∃ (keys : SessionKeys) (after : Link),
      run suite dsa sha256 aead client server point link = (.ok fun _ => keys, after) ∧
        after.Stands left .established .established (some keys) := by
  rcases agree_of_short honest stands clientShort serverShort with
    ⟨view, agreed, agrees, agreedStands⟩
  rcases confirm_stands honest.correct honest.large agreedStands point view with
    ⟨confirmed, confirms, confirmedStands⟩
  rcases authenticate_stands honest view confirmedStands tokenShort with
    ⟨after, accepts, afterStands⟩
  refine ⟨view.keys, after, ?_, afterStands⟩
  rw [run, Effect.bind_of_ok agrees, Effect.bind_of_ok confirms, Effect.bind_of_ok accepts]
  rfl

theorem short_of_run (honest : Honest suite dsa aead maxPlaintext client server)
    (stands : link.Stands (left + 7) .awaitingServerHello .awaitingClientHello none)
    (point : SessionPoint) (measured : 5281 + client.attestationToken.length < 2 ^ 32)
    {keys : Role → SessionKeys}
    (completed : run suite dsa sha256 aead client server point link = (.ok keys, after)) :
    client.clientId.utf8ByteSize ≤ 82 ∧ server.serverId.utf8ByteSize ≤ 78 ∧
      client.attestationToken.length ≤ 4096 := by
  rcases Effect.bind_eq_ok_iff.mp completed with ⟨views, _, agreed, completed⟩
  rcases short_of_agree honest stands.inStep agreed with ⟨clientShort, serverShort⟩
  rcases agree_of_short honest stands clientShort serverShort with
    ⟨view, reached, agrees, agreedStands⟩
  cases agrees.symm.trans agreed
  rcases Effect.bind_eq_ok_iff.mp completed with ⟨_, _, confirmed, completed⟩
  rcases confirm_stands honest.correct honest.large agreedStands point view with
    ⟨_, confirms, confirmedStands⟩
  cases confirms.symm.trans confirmed
  rcases Effect.bind_eq_ok_iff.mp completed with ⟨_, _, accepted, _⟩
  exact ⟨clientShort, serverShort,
    short_of_authenticate honest view confirmedStands measured accepted⟩

end

end Handshake

/-- A client and a server that have just connected complete the handshake exactly if
both identifiers and the token are within the limits of their packets, wherever they
set their sessions. Both are then established, under one session and in step. -/
theorem handshake_completes_iff (suite : SessionSuite) (dsa : MlDsa) (sha256 : Hash)
    (aead : Aead) (maxPlaintext : Nat) (client : HandshakeClient) (server : HandshakeServer)
    (honest : Handshake.Honest suite dsa aead maxPlaintext client server)
    (measured : 5281 + client.attestationToken.length < 2 ^ 32) (point : SessionPoint) :
    ((∃ (keys : Role → SessionKeys) (link : Link),
        Handshake.run suite dsa sha256 aead client server point .new = (.ok keys, link)) ↔
      client.clientId.utf8ByteSize ≤ 82 ∧ server.serverId.utf8ByteSize ≤ 78 ∧
        client.attestationToken.length ≤ 4096) ∧
    ∀ (keys : Role → SessionKeys) (link : Link),
      Handshake.run suite dsa sha256 aead client server point .new = (.ok keys, link) →
      keys .client = keys .server ∧
        (∀ role, (link.codec role).session = some ((keys role).cipher role)) ∧
        link.Open (2 ^ 64 - 9) := by
  have stands : Link.new.Stands (2 ^ 64 - 9 + 7) .awaitingServerHello .awaitingClientHello none :=
    Link.Stands.new
  constructor
  · constructor
    · intro completes
      rcases completes with ⟨keys, link, completed⟩
      exact Handshake.short_of_run honest stands point measured completed
    · intro short
      rcases short with ⟨clientShort, serverShort, tokenShort⟩
      rcases Handshake.run_stands honest stands point clientShort serverShort tokenShort with
        ⟨keys, link, completed, _⟩
      exact ⟨_, link, completed⟩
  · intro keys link completed
    rcases Handshake.short_of_run honest stands point measured completed with
      ⟨clientShort, serverShort, tokenShort⟩
    rcases Handshake.run_stands honest stands point clientShort serverShort tokenShort with
      ⟨shared, reached, completes, reachedStands⟩
    cases completes.symm.trans completed
    exact ⟨rfl, reachedStands.session, reachedStands.opened⟩

/-! A client called "a" and a server called "s", with libraries that hide nothing. -/

def shortClient : HandshakeClient where
  clientId := "a"
  x25519Secret := .replicate 32 1
  mlKemSeed := .replicate 64 2
  pinnedVerifyingKey := .ofPrefix mlDsa65VkSize (FixedBytes.replicate 32 5).bytes
  identitySeed := .replicate 32 6
  identityKey := .ofPrefix mlDsa65VkSize (FixedBytes.replicate 32 6).bytes
  attestationToken := [7]

def shortServer : HandshakeServer where
  serverId := "s"
  randomness := { ephemeral := .replicate 32 3, coins := .replicate 32 4 }
  identitySeed := .replicate 32 5
  nonce := .replicate 32 8

theorem shortClient_honest : Handshake.Honest sampleSession (.transparent fun _ _ => true)
    (.transparent 65536) 65536 shortClient shortServer where
  commutes := X25519.transparent_commutes
  encapsulates _ _ := ⟨_, _, rfl⟩
  inverts := MlKem.transparent_inverts
  expands _ _ := ⟨_, rfl⟩
  signs := MlDsa.transparent_correct
  correct := Aead.transparent_correct 65536
  large := Nat.le_refl _
  identified := generateAuthIdentity_eq _ _
  pinned := generateAuthIdentity_eq _ _

theorem short_handshake_completes :
    ∃ (keys : Role → SessionKeys) (link : Link),
      Handshake.run sampleSession (.transparent fun _ _ => true) sampleHelloHash
          (.transparent 65536) shortClient shortServer .afterFinish .new = (.ok keys, link) ∧
        link.state .client = .established ∧ link.state .server = .established := by
  have completes := handshake_completes_iff sampleSession (.transparent fun _ _ => true)
    sampleHelloHash (.transparent 65536) 65536 shortClient shortServer shortClient_honest
    (by decide) .afterFinish
  rcases completes.1.mpr ⟨by decide, by decide, by decide⟩ with ⟨keys, link, completed⟩
  have opened := (completes.2 keys link completed).2.2
  exact ⟨keys, link, completed, opened.established .client, opened.established .server⟩

end ChatixProtocol
