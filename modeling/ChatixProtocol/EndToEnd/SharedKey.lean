import ChatixProtocol.EndToEnd.SafetyComparison
import ChatixProtocol.Handshake.Pairing

/-! # One signing key for everything

Keys for the handshakes and for messages are generated apart, and what they sign has no
label. This file asks what is left if one key does sign responses, hellos and messages:
only a hello and a message of four bytes can ever be taken for each other.
-/

namespace ChatixProtocol

/-! ## The forms of what is signed -/

theorem length_authMessage (transcriptHash nonce : FixedBytes 32) :
    (authMessage transcriptHash nonce).length = 64 := by
  rw [authMessage, List.length_append, FixedBytes.length_bytes, FixedBytes.length_bytes]

theorem length_serverHelloMessage (sha256 : Hash) (clientHello : Bytes) (key : FixedBytes 32)
    (ciphertext : FixedBytes mlKem768CtSize) :
    (serverHelloMessage sha256 clientHello key ciphertext).length = aesNonceEnd + 20 := by
  simp only [serverHelloMessage, List.length_append, FixedBytes.length_bytes]
  rfl

theorem SignedPart.length_bytes_gt (part : SignedPart) : 64 < part.bytes.length := by
  have fields : aesNonceEnd = 1132 := rfl
  rw [part.length_bytes]
  omega

/-- A signed part that is a server's hello has the digest of the client's hello for its
ephemeral key, and room for four bytes. -/
theorem SignedPart.of_serverHelloMessage {part : SignedPart} {sha256 : Hash} {clientHello : Bytes}
    {key : FixedBytes 32} {ciphertext : FixedBytes mlKem768CtSize}
    (same : part.bytes = serverHelloMessage sha256 clientHello key ciphertext) :
    part.senderX25519Pk = sha256 clientHello ∧ part.ciphertext.length = 4 + gcmTagLen := by
  constructor
  · simp only [SignedPart.bytes, serverHelloMessage, List.append_assoc,
      FixedBytes.append_inj] at same
    exact same.1
  · have lengths := congrArg List.length same
    rw [part.length_bytes, length_serverHelloMessage] at lengths
    exact Nat.add_left_cancel lengths

/-- A message of four bytes whose ephemeral key is the digest of a client's hello. -/
def E2eCall.Mimics (suite : E2eSuite) (sha256 : Hash) (call : E2eCall) (clientHello : Bytes) :
    Prop :=
  ∃ part, call.sealContent suite = .ok part ∧ part.senderX25519Pk = sha256 clientHello ∧
    call.plaintext.length = 4

/-- A signature over such a message passes for the server's over a hello. -/
theorem E2eCall.Mimics.verifies {suite : E2eSuite} {sha256 : Hash} {call : E2eCall}
    {clientHello : Bytes} (mimics : call.Mimics suite sha256 clientHello)
    (opens : suite.aead.Inverts) {seed : FixedBytes 32}
    (signs : ∀ part, call.sealContent suite = .ok part →
      suite.dsa.verifyEncoded (suite.dsa.verifyingKey seed) part.bytes
        (suite.dsa.sign seed part.bytes) = .ok ()) :
    ∃ key ciphertext signature, verifyServerHello suite.dsa sha256 clientHello key ciphertext
      (suite.dsa.verifyingKey seed) signature = .ok () := by
  rcases mimics with ⟨part, sealed, samePk, short⟩
  rcases E2eCall.sealContent_eq_ok_iff.mp sealed with ⟨_, _, encrypts⟩
  have tagged := opens.length_sealed encrypts.sealed
  have length : (part.mlKemCt.bytes ++ (part.nonce.bytes ++ part.ciphertext)).length =
      32 + mlKem768CtSize := by
    simp only [List.length_append, FixedBytes.length_bytes, tagged, short]
    rfl
  rcases exists_append_of_length_le (Nat.le_of_add_right_le length.ge) with ⟨key, rest, split⟩
  rw [split, List.length_append, FixedBytes.length_bytes] at length
  let ciphertext : FixedBytes mlKem768CtSize := ⟨rest, Nat.add_left_cancel length⟩
  have same : serverHelloMessage sha256 clientHello key ciphertext = part.bytes := by
    simp only [serverHelloMessage, SignedPart.bytes, List.append_assoc]
    rw [split, samePk]
  refine ⟨key, ciphertext, suite.dsa.sign seed part.bytes, ?_⟩
  rw [verifyServerHello, same]
  exact signs part sealed

/-! ## What the key signs -/

/-- A seed signed this as a client's response, as the hello of a server's session or as an
end-to-end message. -/
inductive SignedFor {ι : Type} (session : SessionSuite) (suite : E2eSuite) (sha256 : Hash)
    (part : ι → HandshakePart) (reached : ι → HandshakeEnd) (calls : List E2eCall)
    (seed : FixedBytes 32) (message : Bytes) : Prop where
  | response (side : ι) (client : ClientPart) (nonce : FixedBytes 32)
      (isClient : part side = .client client) (owner : client.identitySeed = seed)
      (answered : nonce ∈ client.challenges)
      (same : message = ((reached side).conversation nonce).message sha256)
  | hello (side : ι) (server : ServerPart) (isServer : part side = .server server)
      (owner : server.identitySeed = seed)
      (signed : server.call.signedMessage? session sha256 = some message)
  | letter (call : E2eCall) (made : call ∈ calls) (sent : SignedPart)
      (sealed : call.sealContent suite = .ok sent) (same : message = sent.bytes)

namespace SignedFor

variable {ι : Type} {session : SessionSuite} {suite : E2eSuite} {sha256 : Hash}
  {part : ι → HandshakePart} {reached : ι → HandshakeEnd} {calls : List E2eCall}
  {seed : FixedBytes 32}

/-- What reads as a response was signed as one. -/
theorem of_authMessage {transcriptHash nonce : FixedBytes 32}
    (signedFor : SignedFor session suite sha256 part reached calls seed
      (authMessage transcriptHash nonce)) :
    ∃ side client answered, part side = .client client ∧ client.identitySeed = seed ∧
      answered ∈ client.challenges ∧
      authMessage transcriptHash nonce = ((reached side).conversation answered).message sha256 := by
  have length := length_authMessage transcriptHash nonce
  cases signedFor with
  | response side client answered isClient owner challenged same =>
      exact ⟨side, client, answered, isClient, owner, challenged, same⟩
  | hello side server isServer owner signed =>
      rcases ServerCall.signedMessage?_eq_some_iff.mp signed with ⟨state, _, same⟩
      rw [← same, length_serverHelloMessage] at length
      exact absurd length (by decide)
  | letter call made sent sealed same =>
      rw [same] at length
      exact absurd length sent.length_bytes_gt.ne'

/-- What reads as a hello was signed as one, or is a message that mimics one. -/
theorem of_serverHelloMessage (opens : suite.aead.Inverts) {clientHello : Bytes}
    {key : FixedBytes 32} {ciphertext : FixedBytes mlKem768CtSize}
    (signedFor : SignedFor session suite sha256 part reached calls seed
      (serverHelloMessage sha256 clientHello key ciphertext)) :
    (∃ side server, part side = .server server ∧ server.identitySeed = seed ∧
        server.call.signedMessage? session sha256 =
          some (serverHelloMessage sha256 clientHello key ciphertext)) ∨
      ∃ call ∈ calls, call.Mimics suite sha256 clientHello := by
  cases signedFor with
  | response side client answered isClient owner challenged same =>
      have length := length_serverHelloMessage sha256 clientHello key ciphertext
      rw [same, Conversation.message, length_authMessage] at length
      exact absurd length (by decide)
  | hello side server isServer owner signed => exact .inl ⟨side, server, isServer, owner, signed⟩
  | letter call made sent sealed same =>
      rcases SignedPart.of_serverHelloMessage same.symm with ⟨samePk, length⟩
      rcases E2eCall.sealContent_eq_ok_iff.mp sealed with ⟨_, _, encrypts⟩
      rw [opens.length_sealed encrypts.sealed] at length
      exact .inr ⟨call, made, sent, sealed, samePk, Nat.add_right_cancel length⟩

/-- What reads as a message was signed as one, or is a hello with room for four bytes. -/
theorem of_bytes {sent : SignedPart}
    (signedFor : SignedFor session suite sha256 part reached calls seed sent.bytes) :
    (∃ call ∈ calls, call.sealContent suite = .ok sent) ∨
      sent.ciphertext.length = 4 + gcmTagLen ∧ ∃ side server, part side = .server server ∧
        server.identitySeed = seed ∧
        server.call.signedMessage? session sha256 = some sent.bytes := by
  cases signedFor with
  | response side client answered isClient owner challenged same =>
      have length := sent.length_bytes_gt
      rw [same, Conversation.message, length_authMessage] at length
      exact absurd length (Nat.lt_irrefl 64)
  | hello side server isServer owner signed =>
      rcases ServerCall.signedMessage?_eq_some_iff.mp signed with ⟨state, _, same⟩
      exact .inr ⟨(SignedPart.of_serverHelloMessage same.symm).2, side, server, isServer, owner,
        signed⟩
  | letter call made sent' sealed same =>
      cases SignedPart.bytes_injective same
      exact .inl ⟨call, made, sealed⟩

end SignedFor

/-! ## The guarantee -/

/-- Any number of handshakes were finished with hellos and challenges of the network's
choice, and one key signed all of its owner's responses, hellos and messages. A login
under the key still is a login of the owner's client. A client that pinned the key still
has a session of the owner, unless the owner wrote a message that mimics the hello for it,
and such a message does pass for a hello. What a reader accepts the owner wrote, unless it
is four bytes read from a hello. Otherwise hellos collide. -/
theorem shared_key_keeps_purposes {ι : Type} (session : SessionSuite) (suite : E2eSuite)
    (sha256 : Hash) (commutes : session.x25519.Commutes) (inverts : session.mlKem.Inverts)
    (opens : suite.aead.Inverts) (stripsTag : suite.aead.StripsTag)
    (part : ι → HandshakePart) (reached : ι → HandshakeEnd)
    (finished : ∀ side, (part side).finish session suite.dsa sha256 = .ok (reached side))
    (calls : List E2eCall) (opensOnly : OpensOnlyAsSealed suite calls) (seed : FixedBytes 32)
    (signed : List Bytes) (verifiesExactly : suite.dsa.VerifiesExactly seed signed)
    (purposes : ∀ message, message ∈ signed ↔
      SignedFor session suite sha256 part reached calls seed message) :
    HellosCollide sha256 reached ∨
      (∀ server, LogsIn suite.dsa sha256 part reached seed server →
          ∃ client, Answered part reached seed client server) ∧
        (∀ client, Pins suite.dsa part seed client →
          (∃ server, Served part reached seed server client) ∨
            ∃ call ∈ calls, call.Mimics suite sha256 (reached client).clientHello) ∧
        (∀ clientHello, (∃ call ∈ calls, call.Mimics suite sha256 clientHello) →
          ∃ key ciphertext signature, verifyServerHello suite.dsa sha256 clientHello key
            ciphertext (suite.dsa.verifyingKey seed) signature = .ok ()) ∧
        ∀ (secret : E2eSecretKey) (blob plaintext : Bytes),
          verifyAndDecrypt suite blob secret.x25519Secret secret.mlKemSeed
              (suite.dsa.verifyingKey seed) = .ok plaintext →
            (∃ call ∈ calls, call.plaintext = plaintext ∧
              (call.recipientX25519Pk = suite.x25519.publicKey secret.x25519Secret ∨
                call.CollidesFor suite secret)) ∨
            plaintext.length = 4 ∧ ∃ side server, part side = .server server ∧
              server.identitySeed = seed ∧
              server.call.signedMessage? session sha256 = some (signedBytes blob) := by
  have handshaken : Handshaken session suite.dsa sha256 part reached [] := ⟨finished, by simp⟩
  by_cases noCollision : HellosCollide sha256 reached
  · exact .inl noCollision
  refine .inr ⟨?_, ?_, ?_, ?_⟩
  · intro side login
    rcases login with ⟨server, signature, isServer, accepted⟩
    rcases MlDsa.verifyEncoded_eq_ok_iff.mp accepted with ⟨_, _, verifies⟩
    rcases ((purposes _).mp (verifiesExactly.only _ _ verifies)).of_authMessage with
      ⟨other, client, nonce, isClient, owner, answered, message⟩
    rcases handshaken.partners_of_response commutes inverts isClient isServer message.symm with
      ⟨rfl, collides | ⟨same, partners⟩⟩
    · exact absurd ⟨other, side, .inr collides⟩ noCollision
    · rcases Conversation.mk.inj same with ⟨sameClientHello, sameServerHello, _⟩
      exact ⟨other, client, server, isClient, owner, isServer, answered, sameClientHello,
        sameServerHello, partners.keys⟩
  · intro side pins
    rcases pins with ⟨client, isClient, pinned⟩
    rcases handshaken.client isClient with ⟨state, answer, clientFinished⟩
    have verified := (acceptServerHello_eq_ok_iff.mp clientFinished.accepted).2
    rw [pinned] at verified
    rcases MlDsa.verifyEncoded_eq_ok_iff.mp verified with ⟨_, _, verifies⟩
    rcases ((purposes _).mp (verifiesExactly.only _ _ verifies)).of_serverHelloMessage opens
      with ⟨other, server, isServer, owner, message⟩ | mimicked
    · rcases handshaken.partners_of_hello commutes inverts clientFinished isServer message with
        collides | ⟨sameHello, partners⟩
      · exact absurd ⟨other, side, .inl collides⟩ noCollision
      · exact .inl ⟨other, server, isServer, owner, sameHello, partners.keys.symm⟩
    · exact .inr mimicked
  · intro clientHello mimicked
    rcases mimicked with ⟨call, made, mimics⟩
    apply mimics.verifies opens
    intro sent sealed
    exact verifiesExactly.signs _ ((purposes _).mpr (.letter call made sent sealed rfl))
  · intro secret blob plaintext accepted
    rcases verifyAndDecrypt_eq_ok_iff.mp accepted with
      ⟨sent, signature, rfl, _, verified, contentKey, derived, opened⟩
    rcases MlDsa.verifyEncoded_eq_ok_iff.mp verified with ⟨_, _, verifies⟩
    rcases ((purposes _).mp (verifiesExactly.only _ _ verifies)).of_bytes with
      ⟨call, made, sealed⟩ | ⟨length, side, server, isServer, owner, message⟩
    · rcases plaintext_of_opened opensOnly made sealed derived opened with ⟨same, recipient⟩
      exact .inl ⟨call, made, same, recipient.imp_left E2eCall.SharesWith.recipientX25519Pk⟩
    · rw [stripsTag opened] at length
      rw [signedBytes_append]
      exact .inr ⟨Nat.add_right_cancel length, side, server, isServer, owner, message⟩

/-! One key signs the response of a client, the hello of a session and a message. -/

def sharedKeyDsa : MlDsa :=
  .transparent fun _ message =>
    [sampleServerMessage, sampleAuthMessage, samplePart.bytes].contains message

def sharedKeySide : Role → HandshakePart
  | .client => .client { sampleClientPart with identitySeed := .replicate 32 7 }
  | .server => .server sampleServerPart

theorem sharedKeySide_finishes (role : Role) :
    (sharedKeySide role).finish labelledSession sharedKeyDsa sampleHelloHash =
      .ok (sampleEnd role) := by
  have finishes : (sampleSide role).finish labelledSession sharedKeyDsa sampleHelloHash =
      .ok (sampleEnd role) :=
    sampleSide_finishes_under (List.contains_iff_mem.mpr List.mem_cons_self) role
  cases role with
  | client => exact finishes
  | server => exact finishes

theorem sharedKey_purposes (message : Bytes) :
    message ∈ [sampleServerMessage, sampleAuthMessage, samplePart.bytes] ↔
      SignedFor labelledSession (sampleSuite sharedKeyDsa) sampleHelloHash sharedKeySide sampleEnd
        [sampleCall] (.replicate 32 7) message := by
  constructor
  · intro member
    simp only [List.mem_cons, List.not_mem_nil, or_false] at member
    rcases member with rfl | rfl | rfl
    · exact .hello .server sampleServerPart rfl rfl
        (ServerCall.signedMessage?_eq_some_iff.mpr ⟨_, sampleServerCall_answers, rfl⟩)
    · exact .response .client _ sampleChallenge rfl rfl (List.mem_singleton.mpr rfl) rfl
    · exact .letter sampleCall (List.mem_singleton.mpr rfl) samplePart (sampleCall_sealed _) rfl
  · intro signedFor
    cases signedFor with
    | response side client nonce isClient owner answered same =>
        cases side with
        | server => cases isClient
        | client =>
            cases isClient
            cases List.mem_singleton.mp answered
            rw [same]
            exact List.mem_cons_of_mem _ List.mem_cons_self
    | hello side server isServer owner signed =>
        cases side with
        | client => cases isServer
        | server =>
            cases isServer
            rcases ServerCall.signedMessage?_eq_some_iff.mp signed with ⟨state, responded, rfl⟩
            cases sampleServerCall_answers.symm.trans responded
            exact List.mem_cons_self
    | letter call made sent sealed same =>
        cases List.mem_singleton.mp made
        cases (sampleCall_sealed _).symm.trans sealed
        rw [same]
        exact List.mem_cons_of_mem _ (List.mem_cons_of_mem _ List.mem_cons_self)

theorem sharedKey_verifiesExactly : sharedKeyDsa.VerifiesExactly (.replicate 32 7)
    [sampleServerMessage, sampleAuthMessage, samplePart.bytes] where
  only := MlDsa.transparent_permits fun _ allowed => List.contains_iff_mem.mp allowed
  signs _ member := MlDsa.transparent_verifies (List.contains_iff_mem.mpr member)

theorem sharedKey_authenticates :
    (∃ side, Answered sharedKeySide sampleEnd (.replicate 32 7) side .server) ∧
      (∃ side, Served sharedKeySide sampleEnd (.replicate 32 7) side .client) ∧
      ∃ call ∈ [sampleCall], call.plaintext = [1, 2, 3] := by
  have stripsTag : (sampleSuite sharedKeyDsa).aead.StripsTag := by
    intro key nonce aad ciphertext plaintext opened
    cases (sampleSuite_opens_iff _).mp opened
    decide
  have kept := shared_key_keeps_purposes labelledSession (sampleSuite sharedKeyDsa) sampleHelloHash
    X25519.transparent_commutes MlKem.transparent_inverts (sampleSuite_aead_inverts _) stripsTag
    sharedKeySide sampleEnd sharedKeySide_finishes [sampleCall] (sampleCall_opensOnly _)
    (.replicate 32 7) [sampleServerMessage, sampleAuthMessage, samplePart.bytes]
    sharedKey_verifiesExactly sharedKey_purposes
  rcases kept.resolve_left sampleEnd_hellos with ⟨logins, pins, _, letters⟩
  have login : LogsIn sharedKeyDsa sampleHelloHash sharedKeySide sampleEnd (.replicate 32 7)
      .server := by
    refine ⟨sampleServerPart, sharedKeyDsa.sign (.replicate 32 7) sampleAuthMessage, rfl, ?_⟩
    exact MlDsa.transparent_verifies
      (List.contains_iff_mem.mpr (List.mem_cons_of_mem _ List.mem_cons_self))
  have accepted := samplePart_accepted (sharedKey_verifiesExactly.signs samplePart.bytes (by simp))
  refine ⟨logins .server login, ?_, ?_⟩
  · rcases pins .client ⟨_, rfl, rfl⟩ with served | ⟨call, made, _, _, _, short⟩
    · exact served
    · cases List.mem_singleton.mp made
      exact absurd short (by decide)
  · rcases letters ⟨.replicate 32 4, .replicate 64 6, .replicate 32 9⟩ _ _ accepted with
      ⟨call, made, same, _⟩ | ⟨short, _⟩
    · exact ⟨call, made, same⟩
    · exact absurd short (by decide)

end ChatixProtocol
