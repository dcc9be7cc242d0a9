import ChatixProtocol.Crypto.Aead
import ChatixProtocol.Crypto.KeyExchange
import ChatixProtocol.Crypto.Signatures
import ChatixProtocol.Foundation.Utf8

/-! # End-to-end encryption and signing

The sender agrees on a content key with the recipient, seals the plaintext and
signs everything before the signature. The recipient verifies first.
-/

namespace ChatixProtocol

def nonceLen : Nat := 12

def senderX25519End : Nat := 32

def mlKemCtEnd : Nat := senderX25519End + mlKem768CtSize

def aesNonceEnd : Nat := mlKemCtEnd + nonceLen

def minBlobLen : Nat := aesNonceEnd + gcmTagLen + mlDsa65SigSize

/-- The libraries the scheme is built from. -/
structure E2eSuite where
  x25519 : X25519
  mlKem : MlKem
  hkdfExpand : HkdfExpand
  aead : Aead
  dsa : MlDsa

/-- What one encryption draws. The system's generator may fail to give a nonce. -/
structure E2eRandomness where
  ephemeral : FixedBytes 32
  coins : FixedBytes 32
  nonce : Option (FixedBytes nonceLen)
  deriving DecidableEq

def e2eContext (senderX25519Pk recipientX25519Pk : FixedBytes 32) (mlKemCt : Bytes) : Bytes :=
  senderX25519Pk.bytes ++ recipientX25519Pk.bytes ++ mlKemCt

def deriveE2eKey (hkdfExpand : HkdfExpand) (x25519Shared kyberShared context : Bytes) :
    Outcome ProtocolError (FixedBytes 32) :=
  let ikm := x25519Shared ++ kyberShared
  let info := context ++ utf8Bytes "chatix-e2e-content-v1"
  .ofOption .cryptoError (hkdfExpand ikm info)

/-- The outcome of one key exchange, on either side. -/
structure E2eExchange where
  senderX25519Pk : FixedBytes 32
  recipientX25519Pk : FixedBytes 32
  mlKemCt : FixedBytes mlKem768CtSize
  x25519Shared : FixedBytes 32
  kyberShared : FixedBytes 32
  deriving DecidableEq

def E2eExchange.contentKey (exchange : E2eExchange) (hkdfExpand : HkdfExpand) :
    Outcome ProtocolError (FixedBytes 32) :=
  deriveE2eKey hkdfExpand exchange.x25519Shared.bytes exchange.kyberShared.bytes
    (e2eContext exchange.senderX25519Pk exchange.recipientX25519Pk exchange.mlKemCt.bytes)

/-- The sender's key exchange. -/
def senderExchange (suite : E2eSuite) (randomness : E2eRandomness)
    (recipientX25519Pk : FixedBytes 32) (recipientMlKemEk : FixedBytes mlKem768EkSize) :
    Outcome ProtocolError E2eExchange := do
  let senderX25519Pk := suite.x25519.publicKey randomness.ephemeral
  let x25519Shared := suite.x25519.diffieHellman randomness.ephemeral recipientX25519Pk
  let (ct, kyberShared) ← .ofOption .cryptoError
    (suite.mlKem.encapsulate recipientMlKemEk randomness.coins)
  let mlKemCt ← copyFromSlice mlKem768CtSize ct.bytes
  pure { senderX25519Pk, recipientX25519Pk, mlKemCt, x25519Shared, kyberShared }

/-- The recipient's key exchange. -/
def recipientExchange (suite : E2eSuite) (recipientX25519Sk : FixedBytes 32)
    (recipientMlKemSeed : FixedBytes 64) (senderX25519Pk : FixedBytes 32)
    (mlKemCt : FixedBytes mlKem768CtSize) : E2eExchange where
  senderX25519Pk := senderX25519Pk
  recipientX25519Pk := suite.x25519.publicKey recipientX25519Sk
  mlKemCt := mlKemCt
  x25519Shared := suite.x25519.diffieHellman recipientX25519Sk senderX25519Pk
  kyberShared := suite.mlKem.decapsulate recipientMlKemSeed mlKemCt

/-- The fields of a blob before its signature. -/
structure SignedPart where
  senderX25519Pk : FixedBytes 32
  mlKemCt : FixedBytes mlKem768CtSize
  nonce : FixedBytes nonceLen
  ciphertext : Bytes
  deriving DecidableEq

def SignedPart.bytes (part : SignedPart) : Bytes :=
  part.senderX25519Pk.bytes ++ part.mlKemCt.bytes ++ part.nonce.bytes ++ part.ciphertext

/-- Everything an encryption does before it signs. -/
def sealContent (suite : E2eSuite) (randomness : E2eRandomness) (plaintext : Bytes)
    (recipientX25519Pk : FixedBytes 32) (recipientMlKemEk : FixedBytes mlKem768EkSize) :
    Outcome ProtocolError SignedPart := do
  let exchange ← senderExchange suite randomness recipientX25519Pk recipientMlKemEk
  let contentKey ← exchange.contentKey suite.hkdfExpand
  let nonceBytes ← .ofOption .cryptoError randomness.nonce
  let ciphertext ← .ofOption .cryptoError
    (suite.aead.sealInPlaceAppendTag contentKey nonceBytes [] plaintext)
  pure {
    senderX25519Pk := exchange.senderX25519Pk
    mlKemCt := exchange.mlKemCt
    nonce := nonceBytes
    ciphertext
  }

def encryptAndSign (suite : E2eSuite) (randomness : E2eRandomness) (plaintext : Bytes)
    (recipientX25519Pk : FixedBytes 32) (recipientMlKemEk : FixedBytes mlKem768EkSize)
    (senderSigningSeed : FixedBytes 32) : Outcome ProtocolError Bytes := do
  let part ← sealContent suite randomness plaintext recipientX25519Pk recipientMlKemEk
  let blob := part.bytes
  pure (blob ++ (suite.dsa.sign senderSigningSeed blob).bytes)

def verifyAndDecrypt (suite : E2eSuite) (blob : Bytes) (recipientX25519Sk : FixedBytes 32)
    (recipientMlKemSeed : FixedBytes 64) (senderVerifyingKey : FixedBytes mlDsa65VkSize) :
    Outcome ProtocolError Bytes := do
  .refuseIf (blob.length < minBlobLen) .cryptoError
  let (signedPart, sigBytes) ← splitAt blob (blob.length - mlDsa65SigSize)
  let sigArr ← tryIntoArray mlDsa65SigSize sigBytes .cryptoError
  suite.dsa.verifyEncoded senderVerifyingKey signedPart sigArr
  let senderX25519Pk ← tryIntoArray 32 (← slice signedPart 0 senderX25519End) .cryptoError
  let mlKemCtBytes ← slice signedPart senderX25519End mlKemCtEnd
  let aesNonceBytes ← tryIntoArray nonceLen (← slice signedPart mlKemCtEnd aesNonceEnd)
    .cryptoError
  let aesCt ← sliceFrom signedPart aesNonceEnd
  let ctArr ← tryIntoArray mlKem768CtSize mlKemCtBytes .cryptoError
  let exchange := recipientExchange suite recipientX25519Sk recipientMlKemSeed senderX25519Pk
    ctArr
  let contentKey ← exchange.contentKey suite.hkdfExpand
  .ofOption .cryptoError (suite.aead.openInPlace contentKey aesNonceBytes [] aesCt)

/-! ## Identities -/

structure E2eSecretKey where
  x25519Secret : FixedBytes 32
  mlKemSeed : FixedBytes 64
  dsaSigningSeed : FixedBytes 32
  deriving DecidableEq

/-- What one identity draws. The system's generator may fail to fill the ML-KEM seed. -/
structure E2eKeypairRandomness where
  x25519Secret : FixedBytes 32
  mlKemSeed : Option (FixedBytes 64)
  dsaSigningSeed : FixedBytes 32
  deriving DecidableEq

def generateE2eKeypair (suite : E2eSuite) (randomness : E2eKeypairRandomness) :
    Outcome ProtocolError (E2eSecretKey × E2ePublicKey) := do
  let x25519Public := suite.x25519.publicKey randomness.x25519Secret
  let mlKemSeed ← .ofOption .cryptoError randomness.mlKemSeed
  let ekSlice := (suite.mlKem.encapsulationKey mlKemSeed).bytes
  .refuseIf (ekSlice.length ≠ mlKem768EkSize) .cryptoError
  let mlKemEk ← copyFromSlice mlKem768EkSize ekSlice
  let dsaSigningSeed ← copyFromSlice 32 randomness.dsaSigningSeed.bytes
  let vkSlice := (suite.dsa.verifyingKey randomness.dsaSigningSeed).bytes
  .refuseIf (vkSlice.length ≠ mlDsa65VkSize) .cryptoError
  let dsaVerifyingKey ← copyFromSlice mlDsa65VkSize vkSlice
  pure (
    { x25519Secret := randomness.x25519Secret, mlKemSeed, dsaSigningSeed },
    { x25519Public, mlKemEk, dsaVerifyingKey })

/-- The public key of a secret one. -/
def E2eSecretKey.publicKey (suite : E2eSuite) (secret : E2eSecretKey) : E2ePublicKey where
  x25519Public := suite.x25519.publicKey secret.x25519Secret
  mlKemEk := suite.mlKem.encapsulationKey secret.mlKemSeed
  dsaVerifyingKey := suite.dsa.verifyingKey secret.dsaSigningSeed

/-- The pair for the secrets that were drawn, if all of them were. -/
theorem generateE2eKeypair_eq (suite : E2eSuite) (randomness : E2eKeypairRandomness) :
    generateE2eKeypair suite randomness =
      match randomness.mlKemSeed with
      | some mlKemSeed =>
          let secret : E2eSecretKey :=
            ⟨randomness.x25519Secret, mlKemSeed, randomness.dsaSigningSeed⟩
          .ok (secret, secret.publicKey suite)
      | none => .err .cryptoError := by
  rcases randomness with ⟨x25519Secret, _ | mlKemSeed, dsaSigningSeed⟩
  · rfl
  · simp [generateE2eKeypair, Outcome.ofOption, E2eSecretKey.publicKey]

/-- A generated pair belongs together. -/
theorem publicKey_of_generateE2eKeypair {suite : E2eSuite} {randomness : E2eKeypairRandomness}
    {secret : E2eSecretKey} {key : E2ePublicKey}
    (generated : generateE2eKeypair suite randomness = .ok (secret, key)) :
    key = secret.publicKey suite := by
  rw [generateE2eKeypair_eq] at generated
  rcases randomness with ⟨x25519Secret, _ | mlKemSeed, dsaSigningSeed⟩
  · cases generated
  · cases generated
    rfl

end ChatixProtocol
