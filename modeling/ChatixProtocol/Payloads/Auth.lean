import ChatixProtocol.Payloads.Shapes
import ChatixProtocol.Crypto.Keys

/-! # Authentication payloads -/

namespace ChatixProtocol

/-- The random nonce the client signs together with the handshake transcript. -/
structure AuthChallengePayload where
  nonce : FixedBytes 32
  deriving DecidableEq

namespace AuthChallengePayload

def encode (payload : AuthChallengePayload) : Bytes :=
  payload.nonce.bytes

def decode (bytes : Bytes) : Outcome IoError AuthChallengePayload := do
  .refuseIf (bytes.length ≠ 32) (.invalidData "auth_challenge must be exactly 32 bytes")
  let nonce ← copyFromSlice 32 bytes
  pure { nonce }

theorem canonical : Canonical (fun payload => .ok (encode payload)) decode := by
  intro bytes payload
  simp only [decode, encode, Outcome.bind_eq_ok_iff, Outcome.refuseIf_eq_ok_iff,
    copyFromSlice_eq_ok_iff, Outcome.pure_eq_ok, Outcome.ok.injEq, ne_eq, not_not]
  constructor
  · intro decoded
    rcases decoded with ⟨_, _, nonce, rfl, rfl⟩
    rfl
  · intro encoded
    subst encoded
    exact ⟨(), payload.nonce.length_bytes, _, rfl, rfl⟩

end AuthChallengePayload

/-- The client's proof of identity: a verifying key, and a signature over the
handshake transcript and the challenge nonce. -/
structure AuthResponsePayload where
  publicKey : FixedBytes mlDsa65VkSize
  signature : FixedBytes mlDsa65SigSize
  attestationToken : Bytes
  deriving DecidableEq

namespace AuthResponsePayload

def fixed : Nat := mlDsa65VkSize + mlDsa65SigSize

def encode (payload : AuthResponsePayload) : Outcome IoError Bytes := do
  let attestation ← encodeSizedBytes payload.attestationToken
  pure (payload.publicKey.bytes ++ payload.signature.bytes ++ attestation)

def decode (bytes : Bytes) : Outcome IoError AuthResponsePayload := do
  .refuseIf (bytes.length < fixed + 4) (.invalidData "auth_response too short")
  let publicKey ← tryIntoArray mlDsa65VkSize (← slice bytes 0 mlDsa65VkSize)
    (.invalidData "invalid public key")
  let signature ← tryIntoArray mlDsa65SigSize (← slice bytes mlDsa65VkSize fixed)
    (.invalidData "invalid signature")
  let (attestationToken, consumed) ← decodeSizedBytes (← sliceFrom bytes fixed)
  requireFullyConsumed bytes (fixed + consumed) "auth_response"
  pure { publicKey, signature, attestationToken }

theorem encode_of_decode {bytes : Bytes} {payload : AuthResponsePayload}
    (decoded : decode bytes = .ok payload) : encode payload = .ok bytes := by
  simp only [decode, Outcome.bind_eq_ok_iff, Prod.exists, sliceFrom_eq_ok_iff,
    tryIntoArray_eq_ok_iff, requireFullyConsumed_eq_ok_iff,
    Outcome.pure_eq_ok, Outcome.ok.injEq] at decoded
  rcases decoded with ⟨_, _, _, keySlice, key, rfl, _, signatureSlice, signature, rfl, _,
    ⟨inside, rfl⟩, token, consumed, read, _, exhausted, rfl⟩
  rcases decodeSizedBytes_readsPrefix.exists_of_decode read with
    ⟨attestation, rest, encodes, tail, rfl⟩
  have fields := eq_append_of_slices keySlice signatureSlice
  have nothing : rest = [] := by
    have total := congrArg List.length tail
    rw [List.length_drop, List.length_append] at total
    exact List.eq_nil_of_length_eq_zero (by omega)
  rw [tail, nothing, List.append_nil] at fields
  simp [encode, encodes, fields]

theorem decode_of_encode {bytes : Bytes} {payload : AuthResponsePayload}
    (encoded : encode payload = .ok bytes) : decode bytes = .ok payload := by
  simp only [encode, Outcome.bind_eq_ok_iff, Outcome.pure_eq_ok, Outcome.ok.injEq] at encoded
  rcases encoded with ⟨attestation, encodes, rfl⟩
  have read := decodeSizedBytes_readsPrefix.decode_append encodes []
  rw [List.append_nil] at read
  have size := length_of_encodeSizedBytes encodes
  have front : (payload.publicKey.bytes ++ payload.signature.bytes).length = fixed := by
    simp [fixed]
  have consumed : (payload.publicKey.bytes ++ payload.signature.bytes ++ attestation).length =
      fixed + attestation.length := by
    rw [List.length_append, front]
  have long : ¬(payload.publicKey.bytes ++ payload.signature.bytes ++ attestation).length <
      fixed + 4 := by omega
  have signatureSlice : (slice
      (payload.publicKey.bytes ++ payload.signature.bytes ++ attestation) mlDsa65VkSize fixed :
        Outcome IoError Bytes) = .ok payload.signature.bytes := by
    rw [List.append_assoc]
    exact slice_second _ _ _
  have afterFixed : (sliceFrom
      (payload.publicKey.bytes ++ payload.signature.bytes ++ attestation) fixed :
        Outcome IoError Bytes) = .ok attestation := by
    rw [← front]
    exact sliceFrom_append _ _
  have whole : requireFullyConsumed
      (payload.publicKey.bytes ++ payload.signature.bytes ++ attestation)
        (fixed + attestation.length) "auth_response" = .ok () :=
    requireFullyConsumed_eq_ok_iff.mpr consumed
  rw [decode, Outcome.refuseIf_of_not long, signatureSlice, afterFixed, List.append_assoc,
    slice_first, ← List.append_assoc]
  simp only [Outcome.ok_bind, tryIntoArray_bytes, read, whole, Outcome.pure_eq_ok]

theorem canonical : Canonical encode decode :=
  fun _ _ => ⟨encode_of_decode, decode_of_encode⟩

end AuthResponsePayload

/-! ## Verdicts

Both verdicts are empty; a rejection carries no reason. -/

structure AuthAcceptPayload where
  deriving DecidableEq

namespace AuthAcceptPayload

def encode (_ : AuthAcceptPayload) : Bytes :=
  []

def decode (bytes : Bytes) : Outcome IoError AuthAcceptPayload := do
  .refuseIf (bytes ≠ []) (.invalidData "auth_accept payload must be empty")
  pure {}

theorem canonical : Canonical (fun payload => .ok (encode payload)) decode :=
  emptyPayload_canonical (fun _ => rfl) (by simp)

end AuthAcceptPayload

structure AuthRejectPayload where
  deriving DecidableEq

namespace AuthRejectPayload

def encode (_ : AuthRejectPayload) : Bytes :=
  []

def decode (bytes : Bytes) : Outcome IoError AuthRejectPayload := do
  .refuseIf (bytes ≠ []) (.invalidData "auth_reject payload must be empty")
  pure {}

theorem canonical : Canonical (fun payload => .ok (encode payload)) decode :=
  emptyPayload_canonical (fun _ => rfl) (by simp)

end AuthRejectPayload

end ChatixProtocol
