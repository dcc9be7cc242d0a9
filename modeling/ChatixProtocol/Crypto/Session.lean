import ChatixProtocol.Crypto.KeyExchange
import ChatixProtocol.Error
import ChatixProtocol.Foundation.Utf8

/-! # Transport session keys

The client sends an X25519 key and an ML-KEM key, the server answers with an
X25519 key and a ciphertext, and both derive one key for each direction.
-/

namespace ChatixProtocol

structure SessionKeys where
  clientToServer : FixedBytes 32
  serverToClient : FixedBytes 32
  deriving DecidableEq

/-- The libraries a handshake is built from. -/
structure SessionSuite where
  x25519 : X25519
  mlKem : MlKem
  hkdfExpand : HkdfExpand

def handshakeContext (clientX25519Pk serverX25519Pk : FixedBytes 32)
    (mlKemCiphertext : FixedBytes mlKem768CtSize) : Bytes :=
  clientX25519Pk.bytes ++ serverX25519Pk.bytes ++ mlKemCiphertext.bytes

def deriveKeys (hkdfExpand : HkdfExpand) (x25519Shared kyberShared context : Bytes) :
    Outcome ProtocolError SessionKeys := do
  let ikm := x25519Shared ++ kyberShared
  let c2sInfo := context ++ utf8Bytes "chatix-c2s-v1"
  let s2cInfo := context ++ utf8Bytes "chatix-s2c-v1"
  let c2s ← .ofOption .cryptoError (hkdfExpand ikm c2sInfo)
  let s2c ← .ofOption .cryptoError (hkdfExpand ikm s2cInfo)
  pure { clientToServer := c2s, serverToClient := s2c }

theorem deriveKeys_eq_ok_iff {hkdfExpand : HkdfExpand} {x25519Shared kyberShared context : Bytes}
    {keys : SessionKeys} :
    deriveKeys hkdfExpand x25519Shared kyberShared context = .ok keys ↔
      hkdfExpand (x25519Shared ++ kyberShared) (context ++ utf8Bytes "chatix-c2s-v1") =
          some keys.clientToServer ∧
        hkdfExpand (x25519Shared ++ kyberShared) (context ++ utf8Bytes "chatix-s2c-v1") =
          some keys.serverToClient := by
  simp only [deriveKeys, Outcome.bind_eq_ok_iff, Outcome.ofOption_eq_ok_iff, Outcome.pure_eq_ok,
    Outcome.ok.injEq]
  constructor
  · intro derives
    rcases derives with ⟨c2s, first, s2c, second, rfl⟩
    exact ⟨first, second⟩
  · intro expands
    rcases expands with ⟨first, second⟩
    exact ⟨_, first, _, second, rfl⟩

/-! ## The client -/

/-- The ephemeral secrets a client holds until the server responds. -/
structure ClientHandshakeState where
  x25519Secret : FixedBytes 32
  mlKemDk : Option (FixedBytes 64)
  x25519Public : FixedBytes 32
  mlKemEk : FixedBytes mlKem768EkSize
  deriving DecidableEq

namespace ClientHandshakeState

/-- The state for the secrets that were drawn. -/
def generate (suite : SessionSuite) (x25519Secret : FixedBytes 32) (mlKemSeed : FixedBytes 64) :
    Outcome ProtocolError ClientHandshakeState := do
  let x25519Public := suite.x25519.publicKey x25519Secret
  let ekSlice := (suite.mlKem.encapsulationKey mlKemSeed).bytes
  .refuseIf (ekSlice.length ≠ mlKem768EkSize) .cryptoError
  let mlKemEk ← copyFromSlice mlKem768EkSize ekSlice
  pure { x25519Secret, mlKemDk := some mlKemSeed, x25519Public, mlKemEk }

def deriveSessionKeys (suite : SessionSuite) (state : ClientHandshakeState)
    (serverX25519Pk : FixedBytes 32) (mlKemCiphertext : FixedBytes mlKem768CtSize) :
    Outcome ProtocolError SessionKeys := do
  let x25519Shared := suite.x25519.diffieHellman state.x25519Secret serverX25519Pk
  let dk ← .ofOption .cryptoError state.mlKemDk
  let ct ← tryIntoArray mlKem768CtSize mlKemCiphertext.bytes .cryptoError
  let kyberShared := suite.mlKem.decapsulate dk ct
  let context := handshakeContext state.x25519Public serverX25519Pk mlKemCiphertext
  deriveKeys suite.hkdfExpand x25519Shared.bytes kyberShared.bytes context

/-- The state a client generates holds its own key pairs. -/
theorem generate_eq (suite : SessionSuite) (x25519Secret : FixedBytes 32)
    (mlKemSeed : FixedBytes 64) :
    generate suite x25519Secret mlKemSeed = .ok {
      x25519Secret
      mlKemDk := some mlKemSeed
      x25519Public := suite.x25519.publicKey x25519Secret
      mlKemEk := suite.mlKem.encapsulationKey mlKemSeed
    } := by
  simp [generate]

end ClientHandshakeState

/-! ## The server -/

/-- What one response draws. -/
structure ServerRandomness where
  ephemeral : FixedBytes 32
  coins : FixedBytes 32
  deriving DecidableEq

structure ServerHandshakeState where
  x25519Public : FixedBytes 32
  mlKemCiphertext : FixedBytes mlKem768CtSize
  sessionKeys : SessionKeys
  deriving DecidableEq

namespace ServerHandshakeState

def respond (suite : SessionSuite) (randomness : ServerRandomness)
    (clientX25519Pk : FixedBytes 32) (clientMlKemEk : FixedBytes mlKem768EkSize) :
    Outcome ProtocolError ServerHandshakeState := do
  let serverPublic := suite.x25519.publicKey randomness.ephemeral
  let x25519Shared := suite.x25519.diffieHellman randomness.ephemeral clientX25519Pk
  let ekArr ← tryIntoArray mlKem768EkSize clientMlKemEk.bytes .cryptoError
  let (ct, kyberShared) ← .ofOption .cryptoError (suite.mlKem.encapsulate ekArr randomness.coins)
  .refuseIf (ct.bytes.length ≠ mlKem768CtSize) .cryptoError
  let mlKemCiphertext ← copyFromSlice mlKem768CtSize ct.bytes
  let context := handshakeContext clientX25519Pk serverPublic mlKemCiphertext
  let sessionKeys ← deriveKeys suite.hkdfExpand x25519Shared.bytes kyberShared.bytes context
  pure { x25519Public := serverPublic, mlKemCiphertext, sessionKeys }

/-- A response encapsulates to the client's key and derives its keys from both secrets. -/
theorem respond_eq_ok_iff {suite : SessionSuite} {randomness : ServerRandomness}
    {clientX25519Pk : FixedBytes 32} {clientMlKemEk : FixedBytes mlKem768EkSize}
    {state : ServerHandshakeState} :
    respond suite randomness clientX25519Pk clientMlKemEk = .ok state ↔
      state.x25519Public = suite.x25519.publicKey randomness.ephemeral ∧
        ∃ kyberShared, suite.mlKem.encapsulate clientMlKemEk randomness.coins =
            some (state.mlKemCiphertext, kyberShared) ∧
          deriveKeys suite.hkdfExpand
            (suite.x25519.diffieHellman randomness.ephemeral clientX25519Pk).bytes
            kyberShared.bytes (handshakeContext clientX25519Pk
              (suite.x25519.publicKey randomness.ephemeral) state.mlKemCiphertext) =
                .ok state.sessionKeys := by
  simp only [respond, Outcome.bind_eq_ok_iff, Outcome.ofOption_eq_ok_iff, tryIntoArray_eq_ok_iff,
    copyFromSlice_eq_ok_iff, Outcome.refuseIf_eq_ok_iff, Outcome.pure_eq_ok, Outcome.ok.injEq,
    Prod.exists]
  constructor
  · intro responds
    rcases responds with ⟨ek, sameEk, ct, kyberShared, encapsulated, _, _, ct', sameCt, keys,
      derived, rfl⟩
    cases FixedBytes.bytes_injective sameEk
    cases FixedBytes.bytes_injective sameCt
    exact ⟨rfl, kyberShared, encapsulated, derived⟩
  · intro exchanged
    rcases exchanged with ⟨ownKey, kyberShared, encapsulated, derived⟩
    refine ⟨clientMlKemEk, rfl, state.mlKemCiphertext, kyberShared, encapsulated, (), by simp,
      state.mlKemCiphertext, rfl, state.sessionKeys, derived, ?_⟩
    rw [← ownKey]

end ServerHandshakeState

/-! ## Agreement -/

/-- The keys a client derives from a response to its own public keys are the
server's. -/
theorem deriveSessionKeys_of_respond {suite : SessionSuite} (commutes : suite.x25519.Commutes)
    (inverts : suite.mlKem.Inverts) {x25519Secret : FixedBytes 32} {mlKemSeed : FixedBytes 64}
    {client : ClientHandshakeState}
    (generated : ClientHandshakeState.generate suite x25519Secret mlKemSeed = .ok client)
    {randomness : ServerRandomness} {server : ServerHandshakeState}
    (responded : ServerHandshakeState.respond suite randomness client.x25519Public
      client.mlKemEk = .ok server) :
    client.deriveSessionKeys suite server.x25519Public server.mlKemCiphertext =
      .ok server.sessionKeys := by
  rw [ClientHandshakeState.generate_eq] at generated
  cases generated
  rcases ServerHandshakeState.respond_eq_ok_iff.mp responded with
    ⟨serverKey, kyberShared, encapsulated, derived⟩
  rw [← derived, ClientHandshakeState.deriveSessionKeys]
  simp only [Outcome.ofOption, Outcome.ok_bind, tryIntoArray_bytes]
  rw [inverts encapsulated, serverKey, commutes]

end ChatixProtocol
