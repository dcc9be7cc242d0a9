import ChatixProtocol.Crypto.E2eBlob
import ChatixProtocol.Payloads.Format

/-! # From a sender to its recipient

A message is encrypted for the recipient's keys, travels as the content of a
payload to the server, which repacks it live or from the queue, and is verified and
decrypted. The plaintext arrives as it was sent.
-/

namespace ChatixProtocol

/-! ## Through the server -/

/-- How the server hands a message on. -/
inductive Delivery where
  | live
  | queued (queueId : UInt64)
  deriving DecidableEq

namespace Delivery

/-- The server's packing of a message it decoded. -/
def encode (delivery : Delivery) (messageId : UInt64) (senderId : String) (content : Bytes) :
    Outcome IoError Bytes :=
  match delivery with
  | .live => DeliverMessagePayload.encode { messageId, senderId, content }
  | .queued queueId =>
      QueuedMessageDeliveryPayload.encode { queueId, messageId, senderId, content }

/-- The content the recipient decodes. -/
def decodeContent (delivery : Delivery) (bytes : Bytes) : Outcome IoError Bytes :=
  match delivery with
  | .live => do
      let payload ← DeliverMessagePayload.decode bytes
      pure payload.content
  | .queued _ => do
      let payload ← QueuedMessageDeliveryPayload.decode bytes
      pure payload.content

theorem decodeContent_of_encode {delivery : Delivery} {messageId : UInt64} {senderId : String}
    {content bytes : Bytes} (packed : delivery.encode messageId senderId content = .ok bytes) :
    delivery.decodeContent bytes = .ok content := by
  cases delivery with
  | live =>
      have decoded := DeliverMessagePayload.canonical.decode_of_encode packed
      rw [decodeContent, decoded, Outcome.ok_bind, Outcome.pure_eq_ok]
  | queued queueId =>
      have decoded := QueuedMessageDeliveryPayload.canonical.decode_of_encode packed
      rw [decodeContent, decoded, Outcome.ok_bind, Outcome.pure_eq_ok]

theorem encode_failsIff (delivery : Delivery) (messageId : UInt64) (senderId : String)
    (content : Bytes) : (delivery.encode messageId senderId content).FailsIff
      (u16Max < senderId.utf8ByteSize ∨ u32Max < content.length) := by
  cases delivery with
  | live => exact encodeMessagePayload_failsIff messageId senderId content
  | queued queueId => exact QueuedMessageDeliveryPayload.encode_failsIff _

end Delivery

/-! ## Encryption and decryption -/

section

variable {suite : E2eSuite} {plaintext : Bytes}

theorem E2eCall.exists_encrypts (encapsulates : suite.mlKem.Encapsulates)
    (expands : suite.hkdfExpand.Total)
    (seals : ∀ key nonce, ∃ ciphertext,
      suite.aead.sealInPlaceAppendTag key nonce [] plaintext = some ciphertext)
    (ephemeral coins : FixedBytes 32) (nonce : FixedBytes nonceLen)
    (recipientX25519Pk : FixedBytes 32) (mlKemSeed : FixedBytes 64) :
    ∃ exchange contentKey part, E2eCall.Encrypts suite {
      randomness := { ephemeral, coins, nonce := some nonce }
      plaintext
      recipientX25519Pk
      recipientMlKemEk := suite.mlKem.encapsulationKey mlKemSeed
    } exchange contentKey part := by
  rcases encapsulates mlKemSeed coins with ⟨mlKemCt, kyberShared, encapsulated⟩
  let exchange : E2eExchange := {
    senderX25519Pk := suite.x25519.publicKey ephemeral
    recipientX25519Pk
    mlKemCt
    x25519Shared := suite.x25519.diffieHellman ephemeral recipientX25519Pk
    kyberShared
  }
  rcases expands exchange.ikm exchange.info with ⟨contentKey, expanded⟩
  rcases seals contentKey nonce with ⟨ciphertext, sealed⟩
  refine ⟨exchange, contentKey, ⟨exchange.senderX25519Pk, mlKemCt, nonce, ciphertext⟩, ?_⟩
  exact {
    exchanged := by simp [senderExchange, encapsulated, Outcome.ofOption, exchange]
    derived := E2eExchange.contentKey_eq_ok_iff.mpr expanded
    drawn := rfl
    sealed := sealed
    senderX25519Pk := rfl
    mlKemCt := rfl
  }

end

/-- Every plaintext that seals is encrypted for any recipient into a blob of the fixed
fields and the plaintext. The recipient decrypts the blob to the plaintext, also after
the server decoded it from one payload and packed it into another. -/
theorem sent_message_decrypted (suite : E2eSuite) (commutes : suite.x25519.Commutes)
    (encapsulates : suite.mlKem.Encapsulates) (inverts : suite.mlKem.Inverts)
    (expands : suite.hkdfExpand.Total) (opens : suite.aead.Inverts) (signs : suite.dsa.Correct)
    (plaintext : Bytes)
    (seals : ∀ key nonce, ∃ ciphertext,
      suite.aead.sealInPlaceAppendTag key nonce [] plaintext = some ciphertext)
    (x25519Secret : FixedBytes 32) (mlKemSeed : FixedBytes 64) (signingSeed : FixedBytes 32)
    (ephemeral coins : FixedBytes 32) (nonce : FixedBytes nonceLen) :
    ∃ blob, encryptAndSign suite { ephemeral, coins, nonce := some nonce } plaintext
        (suite.x25519.publicKey x25519Secret) (suite.mlKem.encapsulationKey mlKemSeed)
        signingSeed = .ok blob ∧
      blob.length = minBlobLen + plaintext.length ∧
      verifyAndDecrypt suite blob x25519Secret mlKemSeed (suite.dsa.verifyingKey signingSeed) =
        .ok plaintext ∧
      ∀ (delivery : Delivery) (messageId : UInt64) (recipientId senderId : String)
        (sent packed : Bytes),
        SendMessagePayload.encode { messageId, recipientId, content := blob } = .ok sent →
        delivery.encode messageId senderId blob = .ok packed →
        ∃ (received : SendMessagePayload) (content : Bytes),
          SendMessagePayload.decode sent = .ok received ∧
          delivery.encode received.messageId senderId received.content = .ok packed ∧
          delivery.decodeContent packed = .ok content ∧
          verifyAndDecrypt suite content x25519Secret mlKemSeed
            (suite.dsa.verifyingKey signingSeed) = .ok plaintext := by
  rcases E2eCall.exists_encrypts encapsulates expands seals ephemeral coins nonce
    (suite.x25519.publicKey x25519Secret) mlKemSeed with ⟨exchange, contentKey, part, encrypts⟩
  have accepted := encrypts.accepted_signed commutes inverts opens rfl rfl
    (signs signingSeed part.bytes)
  have sealed := E2eCall.sealContent_eq_ok_iff.mpr ⟨exchange, contentKey, encrypts⟩
  refine ⟨_, E2eCall.encryptAndSign_eq_ok_iff.mpr ⟨part, sealed, rfl⟩, ?_, accepted, ?_⟩
  · have tagged : part.ciphertext.length = plaintext.length + gcmTagLen :=
      opens.length_sealed encrypts.sealed
    rw [List.length_append, part.length_bytes, FixedBytes.length_bytes, tagged, minBlobLen]
    omega
  · intro delivery messageId recipientId senderId sent packed sends packs
    exact ⟨_, _, SendMessagePayload.canonical.decode_of_encode sends, packs,
      Delivery.decodeContent_of_encode packs, accepted⟩

/-! One message, with libraries that hide nothing. -/

def sampleOpenSuite : E2eSuite where
  x25519 := .transparent
  mlKem := .transparent
  hkdfExpand := fun ikm _ => some (.ofPrefix 32 ikm)
  aead := .transparent 3
  dsa := .transparent fun _ _ => true

theorem sample_message_decrypted :
    ∃ blob, encryptAndSign sampleOpenSuite
        { ephemeral := .replicate 32 1, coins := .replicate 32 2
          nonce := some (.replicate nonceLen 3) } [1, 2, 3]
        (sampleOpenSuite.x25519.publicKey (.replicate 32 4))
        (sampleOpenSuite.mlKem.encapsulationKey (.replicate 64 6)) (.replicate 32 7) = .ok blob ∧
      blob.length = 4460 ∧
      verifyAndDecrypt sampleOpenSuite blob (.replicate 32 4) (.replicate 64 6)
        (sampleOpenSuite.dsa.verifyingKey (.replicate 32 7)) = .ok [1, 2, 3] ∧
      ∀ delivery ∈ [Delivery.live, .queued 9], ∃ sent packed received content,
        SendMessagePayload.encode ⟨1, "a", blob⟩ = .ok sent ∧
        SendMessagePayload.decode sent = .ok received ∧
        delivery.encode received.messageId "b" received.content = .ok packed ∧
        delivery.decodeContent packed = .ok content ∧
        verifyAndDecrypt sampleOpenSuite content (.replicate 32 4) (.replicate 64 6)
          (sampleOpenSuite.dsa.verifyingKey (.replicate 32 7)) = .ok [1, 2, 3] := by
  have encapsulates : MlKem.transparent.Encapsulates := fun _ _ => ⟨_, _, rfl⟩
  have expands : HkdfExpand.Total fun ikm _ => some (.ofPrefix 32 ikm) := fun _ _ => ⟨_, rfl⟩
  rcases sent_message_decrypted sampleOpenSuite X25519.transparent_commutes encapsulates
    MlKem.transparent_inverts expands (Aead.transparent_correct 3).inverts
    MlDsa.transparent_correct [1, 2, 3]
    (fun key nonce => (Aead.transparent_correct 3).exists_sealed key nonce [] (by decide))
    (.replicate 32 4) (.replicate 64 6) (.replicate 32 7) (.replicate 32 1) (.replicate 32 2)
    (.replicate nonceLen 3) with ⟨blob, encrypted, length, decrypted, relayed⟩
  refine ⟨blob, encrypted, length, decrypted, ?_⟩
  intro delivery _
  have short : blob.length ≤ u32Max := by
    rw [length]
    decide
  have sends := (encodeMessagePayload_failsIff 1 "a" blob).2.mpr (by simpa using ⟨by decide, short⟩)
  have packs := (delivery.encode_failsIff 1 "b" blob).2.mpr (by simpa using ⟨by decide, short⟩)
  rcases sends with ⟨sent, sends⟩
  rcases packs with ⟨packed, packs⟩
  rcases relayed delivery 1 "a" "b" sent packed sends packs with
    ⟨received, content, decoded, repacked, unpacked, accepted⟩
  exact ⟨sent, packed, received, content, sends, decoded, repacked, unpacked, accepted⟩

end ChatixProtocol
