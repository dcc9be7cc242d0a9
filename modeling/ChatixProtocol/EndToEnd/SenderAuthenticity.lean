import ChatixProtocol.Crypto.E2eBlob

/-! # Whom an accepted message comes from

A sender encrypts any number of messages to any recipients and uses its signing
seed for nothing else. What another recipient accepts under the sender's key is
one of these messages.
-/

namespace ChatixProtocol

/-- The byte strings signed by the calls that got to the signature. -/
def signedBy (suite : E2eSuite) (calls : List E2eCall) : List Bytes :=
  calls.filterMap fun call =>
    match call.sealContent suite with
    | .ok part => some part.bytes
    | _ => none

/-- What the calls sealed opens only under the key and nonce it was sealed with, and
to the plaintext that was sealed. -/
def OpensOnlyAsSealed (suite : E2eSuite) (calls : List E2eCall) : Prop :=
  ∀ call ∈ calls, ∀ exchange contentKey part, call.Encrypts suite exchange contentKey part →
    ∀ key nonce aad plaintext,
      suite.aead.openInPlace key nonce aad part.ciphertext = some plaintext →
        key = contentKey ∧ nonce = part.nonce ∧ plaintext = call.plaintext

theorem mem_signedBy_iff {suite : E2eSuite} {calls : List E2eCall} {bytes : Bytes} :
    bytes ∈ signedBy suite calls ↔
      ∃ call ∈ calls, ∃ part, call.sealContent suite = .ok part ∧ part.bytes = bytes := by
  rw [signedBy, List.mem_filterMap]
  refine exists_congr fun call => and_congr_right fun _ => ?_
  cases call.sealContent suite <;> simp

section

variable {suite : E2eSuite} {call : E2eCall} {secret : E2eSecretKey}

/-- The recipient's secrets reproduce the exchange of the call. -/
def E2eCall.SharesWith (suite : E2eSuite) (call : E2eCall) (secret : E2eSecretKey) : Prop :=
  ∃ contentKey part, call.Encrypts suite (recipientExchange suite secret.x25519Secret
    secret.mlKemSeed part.senderX25519Pk part.mlKemCt) contentKey part

/-- The call and a recipient derive one content key from different exchanges. -/
def E2eCall.CollidesFor (suite : E2eSuite) (call : E2eCall) (secret : E2eSecretKey) : Prop :=
  ∃ exchange contentKey part, call.Encrypts suite exchange contentKey part ∧
    exchange.Collides suite.hkdfExpand (recipientExchange suite secret.x25519Secret
      secret.mlKemSeed part.senderX25519Pk part.mlKemCt)

theorem E2eCall.SharesWith.recipientX25519Pk (shares : call.SharesWith suite secret) :
    call.recipientX25519Pk = suite.x25519.publicKey secret.x25519Secret := by
  rcases shares with ⟨contentKey, part, encrypts⟩
  exact encrypts.recipientX25519Pk.symm

/-- What opens with a call's ciphertext opens to the call's plaintext. It is the whole signed
part of the call and the call was for whoever opened it, or the key derivation collides. -/
theorem E2eCall.Encrypts.part_of_opened {calls : List E2eCall}
    (opensOnly : OpensOnlyAsSealed suite calls) (made : call ∈ calls) {exchange : E2eExchange}
    {sentKey : FixedBytes 32} {part : SignedPart}
    (encrypts : call.Encrypts suite exchange sentKey part) {openedPart : SignedPart}
    (carries : openedPart.ciphertext = part.ciphertext) {contentKey : FixedBytes 32}
    {plaintext : Bytes}
    (derived : (recipientExchange suite secret.x25519Secret secret.mlKemSeed
      openedPart.senderX25519Pk openedPart.mlKemCt).contentKey suite.hkdfExpand = .ok contentKey)
    (opened : suite.aead.openInPlace contentKey openedPart.nonce [] openedPart.ciphertext =
      some plaintext) :
    call.plaintext = plaintext ∧
      ((openedPart = part ∧ call.SharesWith suite secret) ∨
        exchange.Collides suite.hkdfExpand (recipientExchange suite secret.x25519Secret
          secret.mlKemSeed openedPart.senderX25519Pk openedPart.mlKemCt)) := by
  rcases openedPart with ⟨senderX25519Pk, mlKemCt, nonce, ciphertext⟩
  cases carries
  rcases opensOnly call made exchange sentKey part encrypts _ _ _ _ opened with
    ⟨sameKey, sameNonce, samePlaintext⟩
  cases sameKey
  refine ⟨samePlaintext.symm, ?_⟩
  rcases E2eExchange.eq_or_collides encrypts.derived derived with agreed | collides
  · have samePk : part.senderX25519Pk = senderX25519Pk := by
      rw [encrypts.senderX25519Pk, agreed]
      rfl
    have sameCt : part.mlKemCt = mlKemCt := by
      rw [encrypts.mlKemCt, agreed]
      rfl
    cases samePk
    cases sameCt
    cases sameNonce
    exact .inl ⟨rfl, sentKey, part, agreed ▸ encrypts⟩
  · exact .inr collides

theorem plaintext_of_opened {calls : List E2eCall} (opensOnly : OpensOnlyAsSealed suite calls)
    (made : call ∈ calls) {part : SignedPart} (sealed : call.sealContent suite = .ok part)
    {contentKey : FixedBytes 32} {plaintext : Bytes}
    (derived : (recipientExchange suite secret.x25519Secret secret.mlKemSeed part.senderX25519Pk
      part.mlKemCt).contentKey suite.hkdfExpand = .ok contentKey)
    (opened : suite.aead.openInPlace contentKey part.nonce [] part.ciphertext = some plaintext) :
    call.plaintext = plaintext ∧
      (call.SharesWith suite secret ∨ call.CollidesFor suite secret) := by
  rcases E2eCall.sealContent_eq_ok_iff.mp sealed with ⟨exchange, sentKey, encrypts⟩
  rcases encrypts.part_of_opened opensOnly made rfl derived opened with
    ⟨samePlaintext, ⟨_, shares⟩ | collides⟩
  · exact ⟨samePlaintext, .inl shares⟩
  · exact ⟨samePlaintext, .inr ⟨exchange, sentKey, part, encrypts, collides⟩⟩

end

/-- If a recipient accepts a blob under a sender's verifying key, the sender made a
call for that plaintext whose output agrees with the blob up to the signature. The
call was for the recipient's X25519 key, or its key derivation and the recipient's
have different inputs and the same output. -/
theorem accepted_blob_was_sent (suite : E2eSuite) (seed : FixedBytes 32) (calls : List E2eCall)
    (verifiesOnly : suite.dsa.VerifiesOnly seed (signedBy suite calls))
    (opensOnly : OpensOnlyAsSealed suite calls) (blob plaintext : Bytes)
    (x25519Secret : FixedBytes 32) (mlKemSeed : FixedBytes 64)
    (accepted : verifyAndDecrypt suite blob x25519Secret mlKemSeed
      (suite.dsa.verifyingKey seed) = .ok plaintext) :
    ∃ call ∈ calls, call.plaintext = plaintext ∧
      ∃ output, call.encryptAndSign suite seed = .ok output ∧
        output.length = blob.length ∧ signedBytes output = signedBytes blob ∧
        (call.recipientX25519Pk = suite.x25519.publicKey x25519Secret ∨
          ∃ (part : SignedPart) (exchange : E2eExchange), signedBytes blob = part.bytes ∧
            senderExchange suite call.randomness call.recipientX25519Pk
              call.recipientMlKemEk = .ok exchange ∧
            exchange.Collides suite.hkdfExpand (recipientExchange suite x25519Secret mlKemSeed
              part.senderX25519Pk part.mlKemCt)) := by
  rcases verifyAndDecrypt_eq_ok_iff.mp accepted with
    ⟨part, signature, rfl, _, verified, contentKey, derived, opened⟩
  rcases MlDsa.verifyEncoded_eq_ok_iff.mp verified with ⟨_, _, verifies⟩
  rcases mem_signedBy_iff.mp (verifiesOnly _ _ verifies) with ⟨call, made, sent, sealed, same⟩
  cases SignedPart.bytes_injective same
  rcases E2eCall.sealContent_eq_ok_iff.mp sealed with ⟨exchange, sentKey, encrypts⟩
  rcases opensOnly call made exchange sentKey part encrypts _ _ _ _ opened with ⟨rfl, _, rfl⟩
  refine ⟨call, made, rfl, _, E2eCall.encryptAndSign_eq_ok_iff.mpr ⟨part, sealed, rfl⟩, ?_, ?_, ?_⟩
  · simp
  · simp
  · rcases E2eExchange.eq_or_collides encrypts.derived derived with agreed | collides
    · left
      rw [← encrypts.recipientX25519Pk, agreed]
      rfl
    · exact .inr ⟨part, exchange, by simp, encrypts.exchanged, collides⟩

/-! One message from one sender, with libraries that hide nothing. -/

def sampleCall : E2eCall where
  randomness := ⟨.replicate 32 1, .replicate 32 2, some (.replicate nonceLen 3)⟩
  plaintext := [1, 2, 3]
  recipientX25519Pk := .replicate 32 4
  recipientMlKemEk := .ofPrefix mlKem768EkSize (List.replicate 64 6)

def sampleExchange : E2eExchange where
  senderX25519Pk := .replicate 32 1
  recipientX25519Pk := .replicate 32 4
  mlKemCt := .ofPrefix mlKem768CtSize (List.replicate 32 2)
  x25519Shared := .replicate 32 5
  kyberShared := .replicate 32 2

def samplePart : SignedPart where
  senderX25519Pk := .replicate 32 1
  mlKemCt := .ofPrefix mlKem768CtSize (List.replicate 32 2)
  nonce := .replicate nonceLen 3
  ciphertext := [1, 2, 3] ++ List.replicate gcmTagLen 0

def sampleSealCall : SealCall where
  key := .replicate 32 5
  nonce := .replicate nonceLen 3
  aad := []
  plaintext := [1, 2, 3]
  sealed := some samplePart.ciphertext

/-- Public keys and ciphertexts are the secrets, and shared secrets add up. -/
def sampleSuite (dsa : MlDsa) : E2eSuite where
  x25519 := {
    publicKey := id
    diffieHellman := fun secret publicKey =>
      .ofPrefix 32 (List.zipWith (· + ·) secret.bytes publicKey.bytes)
  }
  mlKem := {
    encapsulationKey := fun seed => .ofPrefix mlKem768EkSize seed.bytes
    encapsulate := fun _ coins => some (.ofPrefix mlKem768CtSize coins.bytes, coins)
    decapsulate := fun _ ciphertext => .ofPrefix 32 ciphertext.bytes
  }
  hkdfExpand := fun ikm _ => some (.ofPrefix 32 ikm)
  aead := .ofCalls [sampleSealCall]
  dsa := dsa

theorem sampleCall_encrypts (dsa : MlDsa) :
    sampleCall.Encrypts (sampleSuite dsa) sampleExchange (.replicate 32 5) samplePart where
  exchanged := by
    have agreed : FixedBytes.ofPrefix 32 (List.zipWith (· + ·)
        (FixedBytes.replicate 32 1).bytes (FixedBytes.replicate 32 4).bytes) =
          FixedBytes.replicate 32 5 := by decide
    simp [senderExchange, sampleSuite, sampleCall, sampleExchange, Outcome.ofOption, agreed]
    rfl
  derived := by rfl
  drawn := rfl
  sealed := by
    have answered : (Aead.ofCalls [sampleSealCall]).sealInPlaceAppendTag (.replicate 32 5)
        (.replicate nonceLen 3) [] [1, 2, 3] = some samplePart.ciphertext := by decide
    exact answered
  senderX25519Pk := rfl
  mlKemCt := rfl

theorem sampleSuite_commutes (dsa : MlDsa) : (sampleSuite dsa).x25519.Commutes :=
  X25519.transparent_commutes

theorem sampleSuite_inverts (dsa : MlDsa) : (sampleSuite dsa).mlKem.Inverts :=
  MlKem.transparent_inverts

theorem sampleCall_recipientExchange (dsa : MlDsa) :
    recipientExchange (sampleSuite dsa) (.replicate 32 4) (.replicate 64 6)
      samplePart.senderX25519Pk samplePart.mlKemCt = sampleExchange :=
  (sampleCall_encrypts dsa).recipientExchange_eq (sampleSuite_commutes dsa)
    (sampleSuite_inverts dsa) rfl rfl

/-- The sample cipher opens what the sample call sealed, and nothing else. -/
theorem sampleSuite_opens_iff (dsa : MlDsa) {key : FixedBytes 32} {nonce : FixedBytes nonceLen}
    {aad ciphertext plaintext : Bytes} :
    (sampleSuite dsa).aead.openInPlace key nonce aad ciphertext = some plaintext ↔
      { key, nonce, aad, plaintext, sealed := some ciphertext } = sampleSealCall := by
  constructor
  · intro opens
    exact List.mem_singleton.mp (Aead.mem_of_openInPlace_ofCalls opens)
  · intro same
    cases same
    have answered : (Aead.ofCalls [sampleSealCall]).openInPlace (.replicate 32 5)
        (.replicate nonceLen 3) [] samplePart.ciphertext = some [1, 2, 3] := by decide
    exact answered

theorem sampleCall_sealed (dsa : MlDsa) :
    sampleCall.sealContent (sampleSuite dsa) = .ok samplePart :=
  E2eCall.sealContent_eq_ok_iff.mpr ⟨_, _, sampleCall_encrypts dsa⟩

theorem sampleCall_opensOnly (dsa : MlDsa) : OpensOnlyAsSealed (sampleSuite dsa) [sampleCall] := by
  intro call made exchange contentKey part encrypts key nonce aad plaintext opens
  cases List.mem_singleton.mp made
  rcases encrypts.unique (sampleCall_encrypts _) with ⟨rfl, rfl, rfl⟩
  cases (sampleSuite_opens_iff _).mp opens
  exact ⟨rfl, rfl, rfl⟩

theorem sampleSuite_aead_inverts (dsa : MlDsa) : (sampleSuite dsa).aead.Inverts where
  length_sealed := by
    intro key nonce aad plaintext ciphertext sealed
    cases List.mem_singleton.mp (Aead.mem_of_sealInPlace_ofCalls sealed)
    decide
  opens_sealed := by
    intro key nonce aad plaintext ciphertext sealed
    cases List.mem_singleton.mp (Aead.mem_of_sealInPlace_ofCalls sealed)
    exact (sampleSuite_opens_iff _).mpr rfl

/-- A signature over the sample part, by any seed, makes a blob its recipient accepts. -/
theorem samplePart_accepted {dsa : MlDsa} {verifyingKey : FixedBytes mlDsa65VkSize}
    {signature : FixedBytes mlDsa65SigSize}
    (verified : dsa.verifyEncoded verifyingKey samplePart.bytes signature = .ok ()) :
    verifyAndDecrypt (sampleSuite dsa) (samplePart.bytes ++ signature.bytes) (.replicate 32 4)
      (.replicate 64 6) verifyingKey = .ok [1, 2, 3] := by
  refine verifyAndDecrypt_eq_ok_iff.mpr
    ⟨samplePart, signature, rfl, by decide, verified, .replicate 32 5, ?_, ?_⟩
  · rw [sampleCall_recipientExchange]
    exact (sampleCall_encrypts dsa).derived
  · exact (sampleSuite_opens_iff dsa).mpr rfl

def signingOnlySample : MlDsa :=
  .transparent fun _ message => [samplePart.bytes].contains message

theorem sample_blob_was_sent :
    ∃ call ∈ [sampleCall], call.plaintext = [1, 2, 3] ∧
      ∃ output, call.encryptAndSign (sampleSuite signingOnlySample) (.replicate 32 7) =
          .ok output ∧
        output.length = (samplePart.bytes ++
          (signingOnlySample.sign (.replicate 32 7) samplePart.bytes).bytes).length ∧
        signedBytes output = signedBytes (samplePart.bytes ++
          (signingOnlySample.sign (.replicate 32 7) samplePart.bytes).bytes) := by
  have signed : signedBy (sampleSuite signingOnlySample) [sampleCall] = [samplePart.bytes] := by
    have sealed : sampleCall.sealContent (sampleSuite signingOnlySample) = .ok samplePart :=
      E2eCall.sealContent_eq_ok_iff.mpr ⟨_, _, sampleCall_encrypts _⟩
    simp [signedBy, sealed]
  have sent := accepted_blob_was_sent (sampleSuite signingOnlySample) (.replicate 32 7)
    [sampleCall] (signed ▸ MlDsa.transparent_verifiesOnly _ _) ?_
    (samplePart.bytes ++ (signingOnlySample.sign (.replicate 32 7) samplePart.bytes).bytes)
    [1, 2, 3] (.replicate 32 4) (.replicate 64 6)
    (samplePart_accepted (MlDsa.transparent_verifies (by simp)))
  · rcases sent with ⟨call, made, plaintext, output, encrypted, length, same, _⟩
    exact ⟨call, made, plaintext, output, encrypted, length, same⟩
  · intro call made exchange contentKey part encrypts key nonce aad plaintext opens
    cases List.mem_singleton.mp made
    rcases encrypts.unique (sampleCall_encrypts _) with ⟨rfl, rfl, rfl⟩
    cases (sampleSuite_opens_iff _).mp opens
    exact ⟨rfl, rfl, rfl⟩

end ChatixProtocol
