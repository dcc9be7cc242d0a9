import ChatixProtocol.Channel.Dialogue
import ChatixProtocol.Handshake.ServerAuthentication

/-! # Key agreement over the wire

Both hellos cross the wire in their encoded form. Each side then has its own copy
of the session keys and sets its own session, and either side's packets open on
the other.
-/

namespace ChatixProtocol

/-- The answer that carries a server's public key and ciphertext. -/
def ServerHandshakeState.hello (server : ServerHandshakeState) (serverId : String)
    (signature : FixedBytes mlDsa65SigSize) : ServerHelloPayload where
  serverId := serverId
  x25519PublicKey := server.x25519Public
  mlKemCiphertext := server.mlKemCiphertext
  signature := signature

/-- One exchange of hellos, and the session keys each side ends with. -/
def exchangeHellos (suite : SessionSuite) (client : ClientHandshakeState) (clientId : String)
    (randomness : ServerRandomness) (serverId : String) (signature : FixedBytes mlDsa65SigSize) :
    Outcome ProtocolError (Role → SessionKeys) := do
  let clientHello ← (client.hello clientId).encode.mapError .io
  let server ← ServerCall.respond suite { clientHello, randomness, serverId }
  let serverHello ← (server.hello serverId signature).encode.mapError .io
  let answer ← (ServerHelloPayload.decode serverHello).mapError .io
  let keys ← client.deriveSessionKeys suite answer.x25519PublicKey answer.mlKemCiphertext
  pure fun
    | .client => keys
    | .server => server.sessionKeys

section

variable {suite : SessionSuite} {client : ClientHandshakeState} {clientId serverId : String}
  {randomness : ServerRandomness} {signature : FixedBytes mlDsa65SigSize}

theorem exchangeHellos_eq_ok_iff {keys : Role → SessionKeys} :
    exchangeHellos suite client clientId randomness serverId signature = .ok keys ↔
      (∃ clientHello, (client.hello clientId).encode = .ok clientHello) ∧
        ∃ server, ServerHandshakeState.respond suite randomness client.x25519Public
            client.mlKemEk = .ok server ∧
          (∃ serverHello, (server.hello serverId signature).encode = .ok serverHello) ∧
          client.deriveSessionKeys suite server.x25519Public server.mlKemCiphertext =
            .ok (keys .client) ∧
          keys .server = server.sessionKeys := by
  simp only [exchangeHellos, Outcome.bind_eq_ok_iff, Outcome.mapError_eq_ok_iff,
    Outcome.pure_eq_ok, Outcome.ok.injEq]
  constructor
  · intro exchanged
    rcases exchanged with ⟨clientHello, encodes, server, responds, serverHello, answers, payload,
      decodes, clientKeys, derives, rfl⟩
    rw [ServerCall.respond_of_hello encodes rfl] at responds
    rw [ServerHelloPayload.canonical.decode_of_encode answers] at decodes
    cases decodes
    exact ⟨⟨clientHello, encodes⟩, server, responds, ⟨serverHello, answers⟩, derives, rfl⟩
  · intro exchanged
    rcases exchanged with ⟨⟨clientHello, encodes⟩, server, responds, ⟨serverHello, answers⟩,
      derives, serverKeys⟩
    refine ⟨clientHello, encodes, server, ?_, serverHello, answers, _,
      ServerHelloPayload.canonical.decode_of_encode answers, _, derives, ?_⟩
    · rw [ServerCall.respond_of_hello encodes rfl]
      exact responds
    · funext role
      cases role with
      | client => rfl
      | server => exact serverKeys.symm

theorem exchangeHellos_of_respond (commutes : suite.x25519.Commutes)
    (inverts : suite.mlKem.Inverts) {x25519Secret : FixedBytes 32} {mlKemSeed : FixedBytes 64}
    (generated : ClientHandshakeState.generate suite x25519Secret mlKemSeed = .ok client)
    {server : ServerHandshakeState}
    (responds : ServerHandshakeState.respond suite randomness client.x25519Public
      client.mlKemEk = .ok server)
    (clientEncodes : ∃ clientHello, (client.hello clientId).encode = .ok clientHello)
    (serverEncodes : ∃ serverHello, (server.hello serverId signature).encode = .ok serverHello) :
    exchangeHellos suite client clientId randomness serverId signature =
      .ok fun _ => server.sessionKeys :=
  exchangeHellos_eq_ok_iff.mpr ⟨clientEncodes, server, responds, serverEncodes,
    deriveSessionKeys_of_respond commutes inverts generated responds, rfl⟩

theorem exchangeHellos_agree (commutes : suite.x25519.Commutes)
    (inverts : suite.mlKem.Inverts) {x25519Secret : FixedBytes 32} {mlKemSeed : FixedBytes 64}
    (generated : ClientHandshakeState.generate suite x25519Secret mlKemSeed = .ok client)
    {keys : Role → SessionKeys}
    (exchanged : exchangeHellos suite client clientId randomness serverId signature = .ok keys) :
    keys .client = keys .server := by
  rcases exchangeHellos_eq_ok_iff.mp exchanged with ⟨_, server, responds, _, derives, serverKeys⟩
  rw [deriveSessionKeys_of_respond commutes inverts generated responds] at derives
  rw [serverKeys]
  exact (Outcome.ok.inj derives).symm

end

/-- Whenever the server responds to a client's hello and both hellos encode, both
sides end with the same keys. Under these keys every packet within its limit is
written as long as numbers are left, the reads of the other side have returned the
packets written to it, in order and without an error, and its next read returns the
next one. Neither side may have seen a
number its peer has yet to use, as is so after any plaintext exchange
(`Dialogue.unseen_of_new`). -/
theorem hello_exchange_agrees (suite : SessionSuite) (aead : Aead) (maxPlaintext : Nat)
    (commutes : suite.x25519.Commutes) (inverts : suite.mlKem.Inverts)
    (correct : aead.Correct maxPlaintext) (large : 65536 ≤ maxPlaintext)
    (x25519Secret : FixedBytes 32) (mlKemSeed : FixedBytes 64) (client : ClientHandshakeState)
    (generated : ClientHandshakeState.generate suite x25519Secret mlKemSeed = .ok client)
    (clientId serverId : String) (randomness : ServerRandomness)
    (signature : FixedBytes mlDsa65SigSize) :
    (∀ server, ServerHandshakeState.respond suite randomness client.x25519Public client.mlKemEk =
        .ok server →
      (∃ clientHello, (client.hello clientId).encode = .ok clientHello) →
      (∃ serverHello, (server.hello serverId signature).encode = .ok serverHello) →
      exchangeHellos suite client clientId randomness serverId signature =
        .ok fun _ => server.sessionKeys) ∧
    ∀ keys, exchangeHellos suite client clientId randomness serverId signature = .ok keys →
      (keys .client).clientToServer = (keys .server).clientToServer ∧
      (keys .client).serverToClient = (keys .server).serverToClient ∧
      ∀ codec : Role → PacketCodec,
        (∀ role, (codec role.peer).IsFresh (codec role).nextSendSeq) →
        ∀ events : List DialogueEvent, (∀ event ∈ events, event.Fits) → ∀ role,
          let reached := Dialogue.after aead (Dialogue.start keys codec) events
          (reached.lane role).returned <+: (reached.lane role).written.map .ok ∧
            (∀ packet,
              (reached.lane role).written[(reached.lane role).returned.length]? = some packet →
              (PacketCodec.readPacket aead ⟨reached.codec role.peer,
                ⟨(reached.lane role).stream, .earlyEof⟩⟩).1 = .ok packet) ∧
            ∀ (packetType : PacketType) (flags : UInt8) (payload : Bytes),
              payload.length ≤ packetType.maxPayloadSize.toNat →
              (reached.codec role).nextSendSeq ≠ u64Max →
              (PacketCodec.writePacket aead packetType flags payload
                ⟨reached.codec role, PacketCodec.openStream, []⟩).1 = .ok () := by
  constructor
  · intro server responds clientEncodes serverEncodes
    exact exchangeHellos_of_respond commutes inverts generated responds clientEncodes
      serverEncodes
  · intro keys exchanged
    have shared := exchangeHellos_agree commutes inverts generated exchanged
    refine ⟨by rw [shared], by rw [shared], ?_⟩
    intro codec unseen events fits role
    have allowed : ∀ event ∈ events, (Dialogue.start keys codec).Allows event :=
      fun event member => Dialogue.start_allows keys codec (fits event member)
    have sound := (Dialogue.start_sound shared unseen).after correct large events allowed
    refine ⟨sound.returned_prefix role, fun packet => sound.read_succeeds role, ?_⟩
    intro packetType flags payload within notLast
    refine Dialogue.write_succeeds correct large ⟨within, ?_⟩ notLast
    intro plain
    rw [Dialogue.after_session] at plain
    cases plain

/-- One packet from the client, written and read. -/
def samplePing : List DialogueEvent :=
  [.write .client .ping 0 (List.replicate 8 7), .read .server]

/-- A ping in the clear, before the session. -/
def samplePlainDialogue : Dialogue :=
  .after (.transparent 65536) (.idle fun _ => .new) samplePing

theorem sample_hellos_agree :
    ∃ keys, exchangeHellos sampleSession sampleClient "a" sampleServerCall.randomness "s"
        sampleServerHello.signature = .ok keys ∧
      (keys .client).clientToServer = (keys .server).clientToServer ∧
      let reached := Dialogue.after (.transparent 65536)
        (Dialogue.start keys samplePlainDialogue.codec) samplePing
      (reached.lane .client).returned.length = 1 ∧
        (reached.lane .client).returned <+: (reached.lane .client).written.map .ok := by
  have agrees := hello_exchange_agrees sampleSession (.transparent 65536) 65536
    X25519.transparent_commutes MlKem.transparent_inverts (Aead.transparent_correct 65536)
    (by decide) (.replicate 32 1) (.replicate 64 2) sampleClient sampleClient_generated "a" "s"
    sampleServerCall.randomness sampleServerHello.signature
  have exchanged := agrees.1 sampleServerState sampleServerCall_responds ⟨sampleClientHello, rfl⟩
    ⟨sampleServerHelloBytes, rfl⟩
  have small : 8 ≤ PacketType.ping.maxPayloadSize.toNat := by decide
  have fits : ∀ event ∈ samplePing, event.Fits :=
    List.forall_mem_cons.mpr ⟨small, List.forall_mem_singleton.mpr trivial⟩
  have allowed : ∀ event ∈ samplePing, (Dialogue.idle fun _ => PacketCodec.new).Allows event :=
    List.forall_mem_cons.mpr ⟨⟨small, fun _ => rfl⟩, List.forall_mem_singleton.mpr trivial⟩
  have unseen := Dialogue.unseen_of_new (Aead.transparent_correct 65536) (by decide) samplePing
    allowed
  exact ⟨_, exchanged, (agrees.2 _ exchanged).1, by decide,
    ((agrees.2 _ exchanged).2.2 samplePlainDialogue.codec unseen samplePing fits .client).1⟩

end ChatixProtocol
