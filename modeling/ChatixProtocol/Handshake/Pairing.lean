import ChatixProtocol.Handshake.AuthenticatedChannel

/-! # Sessions pair up

Authentication is one to one. Every login under a client's key takes a session of that
client of its own, and every client that accepted a server's hello has a session of that
server to itself.
-/

namespace ChatixProtocol

section

variable {ι : Type} (dsa : MlDsa) (sha256 : Hash) (part : ι → HandshakePart)
  (reached : ι → HandshakeEnd) (seed : FixedBytes 32)

/-- A server's session that verified a response under the seed's key. -/
def LogsIn (session : ι) : Prop :=
  ∃ server signature, part session = .server server ∧
    verifyAuthResponse dsa
      (computeHandshakeTranscript sha256 (reached session).clientHello
        (reached session).serverHello) server.nonce (dsa.verifyingKey seed) signature = .ok ()

/-- A client that pinned the seed's key. -/
def Pins (session : ι) : Prop :=
  ∃ client, part session = .client client ∧ client.pinnedVerifyingKey = dsa.verifyingKey seed

/-- The client answered the challenge of the server's session, and shares hellos and keys
with it. -/
def Answered (client server : ι) : Prop :=
  ∃ clientPart serverPart, part client = .client clientPart ∧
    clientPart.identitySeed = seed ∧ part server = .server serverPart ∧
    serverPart.nonce ∈ clientPart.challenges ∧
    (reached client).clientHello = (reached server).clientHello ∧
    (reached client).serverHello = (reached server).serverHello ∧
    (reached client).keys = (reached server).keys

/-- The server's session answered the client's hello, and shares the keys with it. -/
def Served (server client : ι) : Prop :=
  ∃ serverPart, part server = .server serverPart ∧ serverPart.identitySeed = seed ∧
    (reached server).clientHello = (reached client).clientHello ∧
    (reached server).keys = (reached client).keys

/-- Two sides' hellos are a collision of the hash, alone or as transcripts. -/
def HellosCollide : Prop :=
  ∃ left right,
    ((reached left).clientHello ≠ (reached right).clientHello ∧
        sha256 (reached left).clientHello = sha256 (reached right).clientHello) ∨
      ((reached left).clientHello ++ (reached left).serverHello ≠
          (reached right).clientHello ++ (reached right).serverHello ∧
        sha256 ((reached left).clientHello ++ (reached left).serverHello) =
          sha256 ((reached right).clientHello ++ (reached right).serverHello))

end

theorem exists_injective_partner {ι : Type} {wants : ι → Prop} {fits : ι → ι → Prop}
    (partner : ∀ side, wants side → ∃ other, fits other side)
    (alone : ∀ other left right, fits other left → fits other right → left = right) :
    ∃ choice : ι → ι, (∀ side, wants side → fits (choice side) side) ∧
      Set.InjOn choice {side | wants side} := by
  have chosen (side : ι) : ∃ other, wants side → fits other side := by
    by_cases wanted : wants side
    · exact (partner side wanted).imp fun _ fit _ => fit
    · exact ⟨side, fun wanting => absurd wanting wanted⟩
  rcases Classical.skolem.mp chosen with ⟨choice, fit⟩
  refine ⟨choice, fit, ?_⟩
  intro left leftWants right rightWants same
  exact alone _ left right (fit left leftWants) (same ▸ fit right rightWants)

namespace Handshaken

variable {suite : SessionSuite} {dsa : MlDsa} {sha256 : Hash} {ι : Type}
  {part : ι → HandshakePart} {reached : ι → HandshakeEnd} {events : List (NetworkEvent ι)}

theorem eq_of_client (handshaken : Handshaken suite dsa sha256 part reached events)
    (fresh : FreshKeys suite part) {client left right : ι}
    (leftPartners : (reached client).Partners suite (reached left))
    (rightPartners : (reached client).Partners suite (reached right)) : left = right :=
  handshaken.eq_of_inputs fresh (leftPartners.serverRole.trans rightPartners.serverRole.symm)
    (leftPartners.inputs.symm.trans rightPartners.inputs)

theorem eq_of_server (handshaken : Handshaken suite dsa sha256 part reached events)
    (fresh : FreshKeys suite part) {server left right : ι}
    (leftPartners : (reached left).Partners suite (reached server))
    (rightPartners : (reached right).Partners suite (reached server)) : left = right :=
  handshaken.eq_of_inputs fresh (leftPartners.clientRole.trans rightPartners.clientRole.symm)
    (leftPartners.inputs.trans rightPartners.inputs.symm)

end Handshaken

/-- Any number of clients and of servers' sessions finished handshakes with hellos and
challenges that the network chose. The sessions that verified a response under a client's
key have different partners among that client's sessions, which answered their challenges,
and the clients that pinned a server's key have different partners among that server's
sessions. Otherwise hellos collide. -/
theorem sessions_pair_up {ι : Type} (suite : SessionSuite) (dsa : MlDsa) (sha256 : Hash)
    (commutes : suite.x25519.Commutes) (inverts : suite.mlKem.Inverts)
    (part : ι → HandshakePart) (reached : ι → HandshakeEnd)
    (finished : ∀ side, (part side).finish suite dsa sha256 = .ok (reached side))
    (fresh : FreshKeys suite part) (clientSeed serverSeed : FixedBytes 32)
    (responses hellos : List Bytes) (verifiesResponses : dsa.VerifiesOnly clientSeed responses)
    (clientsSign : ∀ message ∈ responses, ∃ side client nonce, part side = .client client ∧
      client.identitySeed = clientSeed ∧ nonce ∈ client.challenges ∧
        message = ((reached side).conversation nonce).message sha256)
    (verifiesHellos : dsa.VerifiesOnly serverSeed hellos)
    (serversSign : ∀ message ∈ hellos, ∃ side server, part side = .server server ∧
      server.identitySeed = serverSeed ∧ server.call.signedMessage? suite sha256 = some message) :
    ((∃ signer : ι → ι,
        (∀ session, LogsIn dsa sha256 part reached clientSeed session →
          Answered part reached clientSeed (signer session) session) ∧
        Set.InjOn signer {session | LogsIn dsa sha256 part reached clientSeed session}) ∧
      ∃ signer : ι → ι,
        (∀ session, Pins dsa part serverSeed session →
          Served part reached serverSeed (signer session) session) ∧
        Set.InjOn signer {session | Pins dsa part serverSeed session}) ∨
      HellosCollide sha256 reached := by
  have handshaken : Handshaken suite dsa sha256 part reached [] := ⟨finished, by simp⟩
  by_cases noCollision : HellosCollide sha256 reached
  · exact .inr noCollision
  left
  constructor
  · have partner (session : ι) (login : LogsIn dsa sha256 part reached clientSeed session) :
        ∃ side, Answered part reached clientSeed side session ∧
          (reached side).Partners suite (reached session) := by
      rcases login with ⟨server, signature, isServer, accepted⟩
      rcases handshaken.exists_responder commutes inverts isServer accepted verifiesResponses
        clientsSign with ⟨side, client, isClient, owner, answered, collides | ⟨same, partners⟩⟩
      · exact absurd ⟨side, session, .inr collides⟩ noCollision
      · rcases Conversation.mk.inj same with ⟨sameClientHello, sameServerHello, _⟩
        exact ⟨side, ⟨client, server, isClient, owner, isServer, answered, sameClientHello,
          sameServerHello, partners.keys⟩, partners⟩
    rcases exists_injective_partner partner fun _ _ _ left right =>
      handshaken.eq_of_client fresh left.2 right.2 with ⟨signer, fits, injective⟩
    exact ⟨signer, fun session login => (fits session login).1, injective⟩
  · have partner (session : ι) (pins : Pins dsa part serverSeed session) :
        ∃ side, Served part reached serverSeed side session ∧
          (reached session).Partners suite (reached side) := by
      rcases pins with ⟨client, isClient, pinned⟩
      rcases handshaken.exists_answerer commutes inverts isClient pinned verifiesHellos
        serversSign with ⟨side, server, isServer, owner, collides | ⟨sameHello, partners⟩⟩
      · exact absurd ⟨side, session, .inl collides⟩ noCollision
      · exact ⟨side, ⟨server, isServer, owner, sameHello, partners.keys.symm⟩, partners⟩
    rcases exists_injective_partner partner fun _ _ _ left right =>
      handshaken.eq_of_server fresh left.2 right.2 with ⟨signer, fits, injective⟩
    exact ⟨signer, fun session pins => (fits session pins).1, injective⟩

/-! One client and one session of the server, which have each other for partners. -/

theorem sampleEnd_hellos (collide : HellosCollide sampleHelloHash sampleEnd) : False := by
  rcases collide with ⟨left, right, ⟨different, _⟩ | ⟨different, _⟩⟩
  · exact different rfl
  · exact different rfl

theorem sample_sessions_pair_up :
    LogsIn sampleEndsDsa sampleHelloHash sampleSide sampleEnd (.replicate 32 8) .server ∧
      Pins sampleEndsDsa sampleSide (.replicate 32 7) .client ∧
      (∃ signer : Role → Role,
        (∀ session, LogsIn sampleEndsDsa sampleHelloHash sampleSide sampleEnd (.replicate 32 8)
            session → Answered sampleSide sampleEnd (.replicate 32 8) (signer session) session) ∧
        Set.InjOn signer {session | LogsIn sampleEndsDsa sampleHelloHash sampleSide sampleEnd
          (.replicate 32 8) session}) ∧
      ∃ signer : Role → Role,
        (∀ session, Pins sampleEndsDsa sampleSide (.replicate 32 7) session →
          Served sampleSide sampleEnd (.replicate 32 7) (signer session) session) ∧
        Set.InjOn signer {session | Pins sampleEndsDsa sampleSide (.replicate 32 7) session} := by
  have login : LogsIn sampleEndsDsa sampleHelloHash sampleSide sampleEnd (.replicate 32 8)
      .server := by
    refine ⟨sampleServerPart, sampleEndsDsa.sign (.replicate 32 8) sampleAuthMessage, rfl, ?_⟩
    exact MlDsa.transparent_verifies (List.contains_iff_mem.mpr (List.mem_singleton.mpr rfl))
  refine ⟨login, ⟨sampleClientPart, rfl, rfl⟩, (sessions_pair_up labelledSession sampleEndsDsa
    sampleHelloHash X25519.transparent_commutes MlKem.transparent_inverts sampleSide sampleEnd
    sampleSide_finishes sampleSide_fresh (.replicate 32 8) (.replicate 32 7) [sampleAuthMessage]
    [sampleServerMessage] ?_ ?_ ?_ ?_).resolve_right sampleEnd_hellos⟩
  · exact MlDsa.transparent_permits fun message allowed => List.contains_iff_mem.mp allowed
  · intro message signed
    cases List.mem_singleton.mp signed
    exact ⟨.client, sampleClientPart, sampleChallenge, rfl, rfl, List.mem_singleton.mpr rfl, rfl⟩
  · exact MlDsa.transparent_permits fun message allowed => List.contains_iff_mem.mp allowed
  · intro message signed
    cases List.mem_singleton.mp signed
    exact ⟨.server, sampleServerPart, rfl, rfl,
      ServerCall.signedMessage?_eq_some_iff.mpr ⟨_, sampleServerCall_answers, rfl⟩⟩

end ChatixProtocol
