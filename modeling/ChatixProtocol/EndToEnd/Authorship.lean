import ChatixProtocol.EndToEnd.SenderAuthenticity

/-! # What a signature says about authorship

The signature covers the sealed message, and nothing inside the message names
its sender. Whoever holds a blob can put another signature on the same signed
part, and the recipient accepts it under the other key. Nothing else can be made
of a ciphertext: with any other field around it, the recipient refuses.
-/

namespace ChatixProtocol

/-- Put another signature on the signed part of a blob. -/
def resign (suite : E2eSuite) (blob : Bytes) (signingSeed : FixedBytes 32) : Bytes :=
  signedBytes blob ++ (suite.dsa.sign signingSeed (signedBytes blob)).bytes

/-- From a blob encrypted for a recipient, the holder of any other seed obtains one
with the same signed part that the recipient accepts under the other key, with the
same plaintext. Nothing else can be made of the ciphertexts of the given calls, if each
opens only as it was sealed: whatever the recipient accepts under the other key with the
ciphertext of a call is the signed part of that call and a signature, the plaintext is the
call's, and the call was for the recipient, or the key derivation collides. -/
theorem takeover_is_resigning (suite : E2eSuite) (commutes : suite.x25519.Commutes)
    (inverts : suite.mlKem.Inverts) (opens : suite.aead.Inverts) (signs : suite.dsa.Correct)
    (calls : List E2eCall) (opensOnly : OpensOnlyAsSealed suite calls)
    (recipient : E2eSecretKey) (otherSeed : FixedBytes 32) :
    (∀ (call : E2eCall) (seed : FixedBytes 32) (blob : Bytes),
      call.recipientX25519Pk = (recipient.publicKey suite).x25519Public →
      call.recipientMlKemEk = (recipient.publicKey suite).mlKemEk →
      call.encryptAndSign suite seed = .ok blob →
      verifyAndDecrypt suite (resign suite blob otherSeed) recipient.x25519Secret
        recipient.mlKemSeed (suite.dsa.verifyingKey otherSeed) = .ok call.plaintext) ∧
    ∀ call ∈ calls, ∀ exchange contentKey part,
      call.Encrypts suite exchange contentKey part →
      ∀ forged plaintext, aesCt forged = part.ciphertext →
        verifyAndDecrypt suite forged recipient.x25519Secret recipient.mlKemSeed
          (suite.dsa.verifyingKey otherSeed) = .ok plaintext →
        call.plaintext = plaintext ∧
          ((∃ signature, forged = part.bytes ++ signature.bytes ∧
              suite.dsa.verifyEncoded (suite.dsa.verifyingKey otherSeed) part.bytes signature =
                .ok () ∧
              call.recipientX25519Pk = (recipient.publicKey suite).x25519Public) ∨
            ∃ forgedPart : SignedPart, signedBytes forged = forgedPart.bytes ∧
              exchange.Collides suite.hkdfExpand (recipientExchange suite
                recipient.x25519Secret recipient.mlKemSeed forgedPart.senderX25519Pk
                forgedPart.mlKemCt)) := by
  constructor
  · intro call seed blob toPk toEk produced
    rcases E2eCall.encryptAndSign_eq_ok_iff.mp produced with ⟨part, sealed, rfl⟩
    rcases E2eCall.sealContent_eq_ok_iff.mp sealed with ⟨_, _, encrypts⟩
    rw [resign, signedBytes_append]
    exact encrypts.accepted_signed commutes inverts opens toPk toEk (signs otherSeed part.bytes)
  · intro call made exchange contentKey part encrypts forged plaintext carries accepted
    rcases verifyAndDecrypt_eq_ok_iff.mp accepted with
      ⟨forgedPart, signature, rfl, _, verified, openedKey, derived, opened⟩
    rw [aesCt_append] at carries
    rcases encrypts.part_of_opened opensOnly made carries derived opened with
      ⟨samePlaintext, ⟨rfl, shares⟩ | collides⟩
    · exact ⟨samePlaintext, .inl ⟨signature, rfl, verified, shares.recipientX25519Pk⟩⟩
    · exact ⟨samePlaintext, .inr ⟨forgedPart, signedBytes_append _ _, collides⟩⟩

/-! The sample message, taken over with another seed. -/

def openSample : E2eSuite := sampleSuite (.transparent fun _ _ => true)

def sampleBlob : Bytes :=
  samplePart.bytes ++ (openSample.dsa.sign (.replicate 32 7) samplePart.bytes).bytes

theorem sampleCall_produces :
    sampleCall.encryptAndSign openSample (.replicate 32 7) = .ok sampleBlob :=
  E2eCall.encryptAndSign_eq_ok_iff.mpr
    ⟨samplePart, E2eCall.sealContent_eq_ok_iff.mpr ⟨_, _, sampleCall_encrypts _⟩, rfl⟩

theorem sampleBlob_resigned (seed : FixedBytes 32) :
    resign openSample sampleBlob seed =
      samplePart.bytes ++ (openSample.dsa.sign seed samplePart.bytes).bytes := by
  rw [resign, sampleBlob, signedBytes_append]

theorem sample_blob_resigned :
    verifyAndDecrypt openSample (resign openSample sampleBlob (.replicate 32 8))
        (.replicate 32 4) (.replicate 64 6) (openSample.dsa.verifyingKey (.replicate 32 8)) =
          .ok [1, 2, 3] ∧
      ∃ signature, resign openSample sampleBlob (.replicate 32 8) =
          samplePart.bytes ++ signature.bytes ∧
        openSample.dsa.verifyEncoded (openSample.dsa.verifyingKey (.replicate 32 8))
          samplePart.bytes signature = .ok () := by
  have taken := takeover_is_resigning openSample (sampleSuite_commutes _) (sampleSuite_inverts _)
    (sampleSuite_aead_inverts _) MlDsa.transparent_correct [sampleCall] (sampleCall_opensOnly _)
    ⟨.replicate 32 4, .replicate 64 6, .replicate 32 9⟩ (.replicate 32 8)
  have accepted := taken.1 sampleCall (.replicate 32 7) sampleBlob rfl rfl sampleCall_produces
  have carries : aesCt (resign openSample sampleBlob (.replicate 32 8)) =
      samplePart.ciphertext := by
    rw [sampleBlob_resigned, aesCt_append]
  refine ⟨accepted, ?_⟩
  rcases taken.2 sampleCall (List.mem_singleton.mpr rfl) _ _ samplePart (sampleCall_encrypts _) _ _
    carries accepted with ⟨_, ⟨signature, same, verified, _⟩ | ⟨forgedPart, same, different, _⟩⟩
  · exact ⟨signature, same, verified⟩
  · rw [sampleBlob_resigned, signedBytes_append] at same
    cases SignedPart.bytes_injective same
    exact absurd (congrArg (fun exchange => (exchange.ikm, exchange.info))
      (sampleCall_recipientExchange _).symm) different

/-- The recipient attributes the message to the holder of another seed, who never
encrypted it. -/
theorem sample_blob_taken_over :
    sampleCall.encryptAndSign openSample (.replicate 32 7) = .ok sampleBlob ∧
      openSample.dsa.verifyingKey (.replicate 32 7) ≠
        openSample.dsa.verifyingKey (.replicate 32 8) ∧
      verifyAndDecrypt openSample (resign openSample sampleBlob (.replicate 32 8))
        (.replicate 32 4) (.replicate 64 6) (openSample.dsa.verifyingKey (.replicate 32 8)) =
          .ok sampleCall.plaintext := by
  refine ⟨sampleCall_produces, ?_, ?_⟩
  · intro same
    have firstBytes := congrArg (fun key : FixedBytes mlDsa65VkSize => key.bytes.head?) same
    revert firstBytes
    decide
  · rw [sampleBlob_resigned]
    exact samplePart_accepted (MlDsa.transparent_correct _ _)

end ChatixProtocol
