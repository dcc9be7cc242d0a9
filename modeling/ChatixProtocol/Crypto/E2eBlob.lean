import ChatixProtocol.Crypto.E2e
import ChatixProtocol.Crypto.KeySeparation

/-! # What is encrypted and what is accepted

A blob is a signed part of four fields and a signature. This file says when an
encryption produces one and when a verification accepts one; later files use
only these two characterisations.
-/

namespace ChatixProtocol

namespace SignedPart

theorem bytes_injective : Function.Injective bytes := by
  rintro ⟨pk, ct, nonce, ciphertext⟩ ⟨pk', ct', nonce', ciphertext'⟩ equal
  simp only [bytes, List.append_assoc, FixedBytes.append_inj] at equal
  rcases equal with ⟨rfl, rfl, rfl, rfl⟩
  rfl

theorem length_bytes (part : SignedPart) :
    part.bytes.length = aesNonceEnd + part.ciphertext.length := by
  simp only [bytes, List.length_append, FixedBytes.length_bytes]
  rfl

end SignedPart

/-- A blob of at least the minimum length has all its fields. -/
theorem exists_signedPart {blob : Bytes} (long : minBlobLen ≤ blob.length) :
    ∃ (part : SignedPart) (signature : FixedBytes mlDsa65SigSize),
      blob = part.bytes ++ signature.bytes ∧ gcmTagLen ≤ part.ciphertext.length := by
  have total : minBlobLen = 32 + (mlKem768CtSize + (nonceLen + (gcmTagLen + mlDsa65SigSize))) := rfl
  rw [total] at long
  rcases exists_append_of_length_le (Nat.le_of_add_right_le long) with ⟨pk, rest, rfl⟩
  rw [List.length_append, pk.length_bytes, Nat.add_le_add_iff_left] at long
  rcases exists_append_of_length_le (Nat.le_of_add_right_le long) with ⟨ct, rest, rfl⟩
  rw [List.length_append, ct.length_bytes, Nat.add_le_add_iff_left] at long
  rcases exists_append_of_length_le (Nat.le_of_add_right_le long) with ⟨nonce, rest, rfl⟩
  rw [List.length_append, nonce.length_bytes, Nat.add_le_add_iff_left] at long
  refine ⟨⟨pk, ct, nonce, rest.take (rest.length - mlDsa65SigSize)⟩,
    ⟨rest.drop (rest.length - mlDsa65SigSize), ?_⟩, ?_, ?_⟩
  · rw [List.length_drop]
    omega
  · simp only [SignedPart.bytes, List.append_assoc, List.take_append_drop]
  · rw [List.length_take]
    omega

/-! ## Encryption -/

/-- The arguments of one encryption. -/
structure E2eCall where
  randomness : E2eRandomness
  plaintext : Bytes
  recipientX25519Pk : FixedBytes 32
  recipientMlKemEk : FixedBytes mlKem768EkSize
  deriving DecidableEq

namespace E2eCall

def sealContent (suite : E2eSuite) (call : E2eCall) : Outcome ProtocolError SignedPart :=
  ChatixProtocol.sealContent suite call.randomness call.plaintext call.recipientX25519Pk
    call.recipientMlKemEk

def encryptAndSign (suite : E2eSuite) (call : E2eCall) (senderSigningSeed : FixedBytes 32) :
    Outcome ProtocolError Bytes :=
  ChatixProtocol.encryptAndSign suite call.randomness call.plaintext call.recipientX25519Pk
    call.recipientMlKemEk senderSigningSeed

/-- The call agreed on this exchange and content key, and sealed this signed part. -/
structure Encrypts (suite : E2eSuite) (call : E2eCall) (exchange : E2eExchange)
    (contentKey : FixedBytes 32) (part : SignedPart) : Prop where
  exchanged : senderExchange suite call.randomness call.recipientX25519Pk
    call.recipientMlKemEk = .ok exchange
  derived : exchange.contentKey suite.hkdfExpand = .ok contentKey
  drawn : call.randomness.nonce = some part.nonce
  sealed : suite.aead.sealInPlaceAppendTag contentKey part.nonce [] call.plaintext =
    some part.ciphertext
  senderX25519Pk : part.senderX25519Pk = exchange.senderX25519Pk
  mlKemCt : part.mlKemCt = exchange.mlKemCt

variable {suite : E2eSuite} {call : E2eCall}

theorem sealContent_eq_ok_iff {part : SignedPart} :
    call.sealContent suite = .ok part ↔
      ∃ exchange contentKey, call.Encrypts suite exchange contentKey part := by
  simp only [sealContent, ChatixProtocol.sealContent, Outcome.bind_eq_ok_iff,
    Outcome.ofOption_eq_ok_iff, Outcome.pure_eq_ok, Outcome.ok.injEq]
  constructor
  · intro sealedContent
    rcases sealedContent with ⟨exchange, exchanged, contentKey, derived, nonce, drawn, ciphertext,
      sealed, rfl⟩
    exact ⟨exchange, contentKey, exchanged, derived, drawn, sealed, rfl, rfl⟩
  · intro encrypts
    rcases encrypts with ⟨exchange, contentKey, exchanged, derived, drawn, sealed, samePk, sameCt⟩
    refine ⟨exchange, exchanged, contentKey, derived, part.nonce, drawn, part.ciphertext,
      sealed, ?_⟩
    rw [← samePk, ← sameCt]

theorem encryptAndSign_eq_ok_iff {seed : FixedBytes 32} {blob : Bytes} :
    call.encryptAndSign suite seed = .ok blob ↔
      ∃ part, call.sealContent suite = .ok part ∧
        blob = part.bytes ++ (suite.dsa.sign seed part.bytes).bytes := by
  simp only [encryptAndSign, ChatixProtocol.encryptAndSign, Outcome.bind_eq_ok_iff,
    Outcome.pure_eq_ok, Outcome.ok.injEq]
  exact exists_congr fun part => and_congr_right fun _ => eq_comm

theorem Encrypts.recipientX25519Pk {exchange : E2eExchange} {contentKey : FixedBytes 32}
    {part : SignedPart} (encrypts : call.Encrypts suite exchange contentKey part) :
    exchange.recipientX25519Pk = call.recipientX25519Pk := by
  have exchanged := encrypts.exchanged
  simp only [senderExchange, Outcome.bind_eq_ok_iff, Outcome.pure_eq_ok,
    Outcome.ok.injEq] at exchanged
  rcases exchanged with ⟨_, _, _, _, rfl⟩
  rfl

end E2eCall

/-! ## Verification -/

section

variable {suite : E2eSuite} {x25519Sk : FixedBytes 32} {mlKemSeed : FixedBytes 64}
  {verifyingKey : FixedBytes mlDsa65VkSize}

/-- On a complete blob, a recipient verifies the signature, agrees on the content
key and opens the ciphertext. -/
theorem verifyAndDecrypt_append (part : SignedPart) (signature : FixedBytes mlDsa65SigSize)
    (tagged : gcmTagLen ≤ part.ciphertext.length) :
    verifyAndDecrypt suite (part.bytes ++ signature.bytes) x25519Sk mlKemSeed verifyingKey = (do
      suite.dsa.verifyEncoded verifyingKey part.bytes signature
      let contentKey ← (recipientExchange suite x25519Sk mlKemSeed part.senderX25519Pk
        part.mlKemCt).contentKey suite.hkdfExpand
      .ofOption .cryptoError
        (suite.aead.openInPlace contentKey part.nonce [] part.ciphertext)) := by
  have long : ¬(part.bytes ++ signature.bytes).length < minBlobLen := by
    rw [List.length_append, part.length_bytes, signature.length_bytes, minBlobLen]
    omega
  have split : (splitAt (part.bytes ++ signature.bytes)
      ((part.bytes ++ signature.bytes).length - mlDsa65SigSize) :
        Outcome ProtocolError (Bytes × Bytes)) = .ok (part.bytes, signature.bytes) := by
    rw [splitAt_eq_ok_iff]
    simp
  rw [verifyAndDecrypt, Outcome.refuseIf_of_not long, Outcome.ok_bind, split, Outcome.ok_bind]
  rcases part with ⟨pk, ct, nonce, ciphertext⟩
  have bytes : SignedPart.bytes ⟨pk, ct, nonce, ciphertext⟩ =
      pk.bytes ++ (ct.bytes ++ (nonce.bytes ++ ciphertext)) := by
    simp only [SignedPart.bytes, List.append_assoc]
  have pkSlice : (slice (pk.bytes ++ (ct.bytes ++ (nonce.bytes ++ ciphertext))) 0
      senderX25519End : Outcome ProtocolError Bytes) = .ok pk.bytes := slice_first pk _
  have ctSlice : (slice (pk.bytes ++ (ct.bytes ++ (nonce.bytes ++ ciphertext))) senderX25519End
      mlKemCtEnd : Outcome ProtocolError Bytes) = .ok ct.bytes := slice_second pk ct _
  have nonceSlice : (slice (pk.bytes ++ (ct.bytes ++ (nonce.bytes ++ ciphertext))) mlKemCtEnd
      aesNonceEnd : Outcome ProtocolError Bytes) = .ok nonce.bytes := slice_third pk ct nonce _
  have behind : (sliceFrom (pk.bytes ++ (ct.bytes ++ (nonce.bytes ++ ciphertext))) aesNonceEnd :
      Outcome ProtocolError Bytes) = .ok ciphertext := by
    have front : (pk.bytes ++ (ct.bytes ++ nonce.bytes)).length = aesNonceEnd := by
      simp only [List.length_append, FixedBytes.length_bytes]
      rfl
    rw [← front, ← List.append_assoc ct.bytes, ← List.append_assoc pk.bytes, sliceFrom_append]
  simp only [bytes, pkSlice, ctSlice, nonceSlice, behind, tryIntoArray_bytes, Outcome.ok_bind]

/-- A blob is accepted exactly when it is complete, its signature verifies, and its
ciphertext opens under the recipient's content key. -/
theorem verifyAndDecrypt_eq_ok_iff {blob plaintext : Bytes} :
    verifyAndDecrypt suite blob x25519Sk mlKemSeed verifyingKey = .ok plaintext ↔
      ∃ (part : SignedPart) (signature : FixedBytes mlDsa65SigSize),
        blob = part.bytes ++ signature.bytes ∧ gcmTagLen ≤ part.ciphertext.length ∧
        suite.dsa.verifyEncoded verifyingKey part.bytes signature = .ok () ∧
        ∃ contentKey, (recipientExchange suite x25519Sk mlKemSeed part.senderX25519Pk
            part.mlKemCt).contentKey suite.hkdfExpand = .ok contentKey ∧
          suite.aead.openInPlace contentKey part.nonce [] part.ciphertext = some plaintext := by
  constructor
  · intro accepted
    have long : minBlobLen ≤ blob.length := by
      by_contra short
      rw [verifyAndDecrypt, Outcome.refuseIf, if_pos (Nat.not_le.mp short)] at accepted
      cases accepted
    rcases exists_signedPart long with ⟨part, signature, rfl, tagged⟩
    rw [verifyAndDecrypt_append part signature tagged] at accepted
    simp only [Outcome.bind_eq_ok_iff, Outcome.ofOption_eq_ok_iff] at accepted
    rcases accepted with ⟨⟨⟩, verified, contentKey, derived, opened⟩
    exact ⟨part, signature, rfl, tagged, verified, contentKey, derived, opened⟩
  · intro complete
    rcases complete with ⟨part, signature, rfl, tagged, verified, contentKey, derived, opened⟩
    rw [verifyAndDecrypt_append part signature tagged]
    simp only [Outcome.bind_eq_ok_iff, Outcome.ofOption_eq_ok_iff]
    exact ⟨(), verified, contentKey, derived, opened⟩

end

/-! ## Content keys -/

namespace E2eExchange

def ikm (exchange : E2eExchange) : Bytes :=
  exchange.x25519Shared.bytes ++ exchange.kyberShared.bytes

def info (exchange : E2eExchange) : Bytes :=
  e2eContext exchange.senderX25519Pk exchange.recipientX25519Pk exchange.mlKemCt.bytes ++
    utf8Bytes "chatix-e2e-content-v1"

theorem contentKey_eq_ok_iff {exchange : E2eExchange} {hkdfExpand : HkdfExpand}
    {contentKey : FixedBytes 32} :
    exchange.contentKey hkdfExpand = .ok contentKey ↔
      hkdfExpand exchange.ikm exchange.info = some contentKey :=
  Outcome.ofOption_eq_ok_iff

/-- The derivation of the exchange's content key. -/
def derivation (exchange : E2eExchange) : KeyDerivation where
  purpose := .e2eContent
  x25519Shared := exchange.x25519Shared
  kyberShared := exchange.kyberShared
  ownX25519Pk := exchange.senderX25519Pk
  peerX25519Pk := exchange.recipientX25519Pk
  mlKemCt := exchange.mlKemCt

theorem eq_of_inputs {left right : E2eExchange} (sameIkm : left.ikm = right.ikm)
    (sameInfo : left.info = right.info) : left = right := by
  have same : left.derivation = right.derivation := KeyDerivation.eq_of_inputs sameIkm sameInfo
  rcases left with ⟨senderPk, recipientPk, ct, x25519Shared, kyberShared⟩
  rcases right with ⟨senderPk', recipientPk', ct', x25519Shared', kyberShared'⟩
  cases same
  rfl

/-- Two different inputs of the key derivation with the same output. -/
def Collides (hkdfExpand : HkdfExpand) (left right : E2eExchange) : Prop :=
  (left.ikm, left.info) ≠ (right.ikm, right.info) ∧
    ∃ contentKey, hkdfExpand left.ikm left.info = some contentKey ∧
      hkdfExpand right.ikm right.info = some contentKey

theorem eq_or_collides {hkdfExpand : HkdfExpand} {left right : E2eExchange}
    {contentKey : FixedBytes 32} (leftDerived : left.contentKey hkdfExpand = .ok contentKey)
    (rightDerived : right.contentKey hkdfExpand = .ok contentKey) :
    left = right ∨ left.Collides hkdfExpand right := by
  by_cases same : (left.ikm, left.info) = (right.ikm, right.info)
  · rw [Prod.mk.injEq] at same
    exact .inl (eq_of_inputs same.1 same.2)
  · exact .inr ⟨same, contentKey, contentKey_eq_ok_iff.mp leftDerived,
      contentKey_eq_ok_iff.mp rightDerived⟩

end E2eExchange

/-! ## Recipients -/

section

variable {suite : E2eSuite} {call : E2eCall} {exchange exchange' : E2eExchange}
  {contentKey contentKey' : FixedBytes 32} {part part' : SignedPart}

theorem E2eCall.Encrypts.unique (first : call.Encrypts suite exchange contentKey part)
    (second : call.Encrypts suite exchange' contentKey' part') :
    exchange = exchange' ∧ contentKey = contentKey' ∧ part = part' := by
  have sameExchange : exchange = exchange' :=
    Outcome.ok.inj (first.exchanged.symm.trans second.exchanged)
  subst sameExchange
  have sameKey : contentKey = contentKey' :=
    Outcome.ok.inj (first.derived.symm.trans second.derived)
  subst sameKey
  have sameNonce : part.nonce = part'.nonce :=
    Option.some.inj (first.drawn.symm.trans second.drawn)
  have sealedAgain := second.sealed
  rw [← sameNonce] at sealedAgain
  have sameCiphertext : part.ciphertext = part'.ciphertext :=
    Option.some.inj (first.sealed.symm.trans sealedAgain)
  have samePk := first.senderX25519Pk.trans second.senderX25519Pk.symm
  have sameCt := first.mlKemCt.trans second.mlKemCt.symm
  rcases part with ⟨pk, ct, nonce, ciphertext⟩
  cases samePk
  cases sameCt
  cases sameNonce
  cases sameCiphertext
  exact ⟨rfl, rfl, rfl⟩

/-- The recipient whose keys a call was given ends up with the sender's exchange. -/
theorem E2eCall.Encrypts.recipientExchange_eq
    (encrypts : call.Encrypts suite exchange contentKey part)
    (commutes : suite.x25519.Commutes) (inverts : suite.mlKem.Inverts)
    {x25519Secret : FixedBytes 32} {mlKemSeed : FixedBytes 64}
    (toPk : call.recipientX25519Pk = suite.x25519.publicKey x25519Secret)
    (toEk : call.recipientMlKemEk = suite.mlKem.encapsulationKey mlKemSeed) :
    recipientExchange suite x25519Secret mlKemSeed part.senderX25519Pk part.mlKemCt =
      exchange := by
  have exchanged := encrypts.exchanged
  simp only [senderExchange, Outcome.bind_eq_ok_iff, Outcome.ofOption_eq_ok_iff, Prod.exists,
    copyFromSlice_eq_ok_iff, Outcome.pure_eq_ok, Outcome.ok.injEq] at exchanged
  rcases exchanged with ⟨ct, kyberShared, encapsulated, mlKemCt, sameCt, rfl⟩
  cases FixedBytes.ext sameCt
  rw [toEk] at encapsulated
  rw [encrypts.senderX25519Pk, encrypts.mlKemCt, recipientExchange, inverts encapsulated,
    toPk, commutes]

/-- A recipient accepts an encryption for its keys under any signature that verifies. -/
theorem E2eCall.Encrypts.accepted_signed
    (encrypts : call.Encrypts suite exchange contentKey part)
    (commutes : suite.x25519.Commutes) (inverts : suite.mlKem.Inverts)
    (opens : suite.aead.Inverts) {x25519Secret : FixedBytes 32} {mlKemSeed : FixedBytes 64}
    (toPk : call.recipientX25519Pk = suite.x25519.publicKey x25519Secret)
    (toEk : call.recipientMlKemEk = suite.mlKem.encapsulationKey mlKemSeed)
    {verifyingKey : FixedBytes mlDsa65VkSize} {signature : FixedBytes mlDsa65SigSize}
    (verified : suite.dsa.verifyEncoded verifyingKey part.bytes signature = .ok ()) :
    verifyAndDecrypt suite (part.bytes ++ signature.bytes) x25519Secret mlKemSeed verifyingKey =
      .ok call.plaintext := by
  have tagged := opens.length_sealed encrypts.sealed
  refine verifyAndDecrypt_eq_ok_iff.mpr ⟨part, signature, rfl, by omega, verified, contentKey, ?_,
    opens.opens_sealed encrypts.sealed⟩
  rw [encrypts.recipientExchange_eq commutes inverts toPk toEk]
  exact encrypts.derived

end

/-! ## The fields of a blob -/

/-- Everything before the signature. -/
def signedBytes (blob : Bytes) : Bytes :=
  blob.take (blob.length - mlDsa65SigSize)

@[simp] theorem signedBytes_append (front : Bytes) (signature : FixedBytes mlDsa65SigSize) :
    signedBytes (front ++ signature.bytes) = front := by
  simp [signedBytes]

/-- The field of the ciphertext, which ends where the signature begins. -/
def aesCt (blob : Bytes) : Bytes :=
  (signedBytes blob).drop aesNonceEnd

@[simp] theorem aesCt_append (part : SignedPart) (signature : FixedBytes mlDsa65SigSize) :
    aesCt (part.bytes ++ signature.bytes) = part.ciphertext := by
  have front : (part.senderX25519Pk.bytes ++ part.mlKemCt.bytes ++ part.nonce.bytes).length =
      aesNonceEnd := by
    simp only [List.length_append, FixedBytes.length_bytes]
    rfl
  rw [aesCt, signedBytes_append, SignedPart.bytes, List.drop_left' front]

end ChatixProtocol
