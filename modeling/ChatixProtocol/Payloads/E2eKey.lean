import ChatixProtocol.Payloads.Shapes
import ChatixProtocol.Crypto.Keys

/-! # End-to-end key payloads -/

namespace ChatixProtocol

/-! ## The key bundle

All three keys have a fixed size, so the bundle carries no length prefixes. -/

def e2ePublicKeySize : Nat := 32 + mlKem768EkSize + mlDsa65VkSize

def encodeE2ePublicKey (key : E2ePublicKey) : Bytes :=
  key.x25519Public.bytes ++ key.mlKemEk.bytes ++ key.dsaVerifyingKey.bytes

def decodeE2ePublicKey (bytes : Bytes) : Outcome IoError E2ePublicKey := do
  .refuseIf (bytes.length < e2ePublicKeySize) (.invalidData "e2e public key bundle too short")
  let x25519Public ← tryIntoArray 32 (← slice bytes 0 32)
    (.invalidData "invalid x25519 key length")
  let mlKemEnd := 32 + mlKem768EkSize
  let mlKemEk ← copyFromSlice mlKem768EkSize (← slice bytes 32 mlKemEnd)
  let dsaVerifyingKey ← copyFromSlice mlDsa65VkSize (← slice bytes mlKemEnd e2ePublicKeySize)
  pure { x25519Public, mlKemEk, dsaVerifyingKey }

@[simp] theorem length_encodeE2ePublicKey (key : E2ePublicKey) :
    (encodeE2ePublicKey key).length = e2ePublicKeySize := by
  simp [encodeE2ePublicKey, e2ePublicKeySize, Nat.add_assoc]

/-- The bundle is read off the front of the input. -/
theorem decodeE2ePublicKey_eq_ok_iff {bytes : Bytes} {key : E2ePublicKey} :
    decodeE2ePublicKey bytes = .ok key ↔ ∃ rest, bytes = encodeE2ePublicKey key ++ rest := by
  constructor
  · intro decoded
    simp only [decodeE2ePublicKey, Outcome.bind_eq_ok_iff, tryIntoArray_eq_ok_iff,
      copyFromSlice_eq_ok_iff, Outcome.pure_eq_ok, Outcome.ok.injEq] at decoded
    rcases decoded with ⟨_, _, _, keySlice, key, rfl, _, ekSlice, ek, rfl, _, vkSlice, vk, rfl,
      rfl⟩
    have fields := eq_append_of_slices keySlice ekSlice
    rw [drop_of_slice vkSlice] at fields
    exact ⟨_, by simpa [encodeE2ePublicKey] using fields⟩
  · intro starts
    rcases starts with ⟨rest, rfl⟩
    have long : ¬(encodeE2ePublicKey key ++ rest).length < e2ePublicKeySize := by simp
    rw [decodeE2ePublicKey, Outcome.refuseIf_of_not long]
    simp [encodeE2ePublicKey, e2ePublicKeySize]

theorem decodeE2ePublicKey_append (key : E2ePublicKey) (rest : Bytes) :
    decodeE2ePublicKey (encodeE2ePublicKey key ++ rest) = .ok key :=
  decodeE2ePublicKey_eq_ok_iff.mpr ⟨rest, rfl⟩

theorem eq_encodeE2ePublicKey_of_decode {bytes : Bytes} {key : E2ePublicKey}
    (decoded : decodeE2ePublicKey bytes = .ok key) (sized : bytes.length = e2ePublicKeySize) :
    bytes = encodeE2ePublicKey key := by
  rcases decodeE2ePublicKey_eq_ok_iff.mp decoded with ⟨rest, rfl⟩
  rw [List.length_append, length_encodeE2ePublicKey] at sized
  rw [List.eq_nil_of_length_eq_zero (by omega : rest.length = 0), List.append_nil]

/-! ## Publishing -/

structure PublishE2eKeyPayload where
  key : E2ePublicKey
  deriving DecidableEq

namespace PublishE2eKeyPayload

def encode (payload : PublishE2eKeyPayload) : Bytes :=
  encodeE2ePublicKey payload.key

def decode (bytes : Bytes) : Outcome IoError PublishE2eKeyPayload := do
  let key ← decodeE2ePublicKey bytes
  requireFullyConsumed bytes e2ePublicKeySize "publish_e2e_key"
  pure { key }

theorem canonical : Canonical (fun payload => .ok (encode payload)) decode := by
  intro bytes payload
  simp only [decode, encode, Outcome.bind_eq_ok_iff, requireFullyConsumed_eq_ok_iff,
    Outcome.pure_eq_ok, Outcome.ok.injEq]
  constructor
  · intro decoded
    rcases decoded with ⟨key, read, _, exhausted, rfl⟩
    exact (eq_encodeE2ePublicKey_of_decode read exhausted).symm
  · intro encoded
    subst encoded
    have read := decodeE2ePublicKey_append payload.key []
    rw [List.append_nil] at read
    exact ⟨_, read, (), length_encodeE2ePublicKey _, rfl⟩

end PublishE2eKeyPayload

structure PublishE2eKeyResultPayload where
  success : Bool
  message : String
  deriving DecidableEq

namespace PublishE2eKeyResultPayload

def encode (payload : PublishE2eKeyResultPayload) : Outcome IoError Bytes := do
  let message ← encodeSizedString payload.message
  pure (encodeBool payload.success :: message)

def decode : Bytes → Outcome IoError PublishE2eKeyResultPayload :=
  decodeTaggedStringPayload (.invalidData "publish_e2e_key_result payload too short")
    (decodeBool · "publish_e2e_key_result success") "publish_e2e_key_result"
    PublishE2eKeyResultPayload.mk

theorem canonical : Canonical encode decode :=
  taggedStringPayload_canonical _ _ (fun _ _ => decodeBool_eq_ok_iff) (fun _ => rfl)
    (fun _ _ => rfl) (fun _ _ => rfl)

end PublishE2eKeyResultPayload

/-! ## Fetching -/

structure FetchE2eKeyPayload where
  targetUsername : String
  deriving DecidableEq

namespace FetchE2eKeyPayload

def encode (payload : FetchE2eKeyPayload) : Outcome IoError Bytes :=
  encodeSizedString payload.targetUsername

def decode : Bytes → Outcome IoError FetchE2eKeyPayload :=
  decodeStringPayload "fetch_e2e_key" FetchE2eKeyPayload.mk

theorem canonical : Canonical encode decode :=
  stringPayload_canonical _ (fun _ => rfl) (fun _ => rfl)

end FetchE2eKeyPayload

inductive E2eKeyStatus where
  | found
  | notFound
  deriving DecidableEq

namespace E2eKeyStatus

def asU8 : E2eKeyStatus → UInt8
  | .found => 0
  | .notFound => 1

def fromU8 (value : UInt8) : Outcome IoError E2eKeyStatus :=
  match value with
  | 0 => .ok .found
  | 1 => .ok .notFound
  | _ => .err (.invalidData "unknown e2e_key status")

theorem fromU8_eq_ok_iff (value : UInt8) (status : E2eKeyStatus) :
    fromU8 value = .ok status ↔ value = status.asU8 := by
  unfold fromU8
  split <;> cases status <;> simp_all [asU8]

end E2eKeyStatus

/-- A user who never published a bundle has no key, and none is sent. -/
structure E2eKeyResponsePayload where
  username : String
  key : Option E2ePublicKey
  deriving DecidableEq

namespace E2eKeyResponsePayload

def encode (payload : E2eKeyResponsePayload) : Outcome IoError Bytes := do
  let username ← encodeSizedString payload.username
  match payload.key with
  | some key => pure (username ++ E2eKeyStatus.found.asU8 :: encodeE2ePublicKey key)
  | none => pure (username ++ [E2eKeyStatus.notFound.asU8])

def decode (bytes : Bytes) : Outcome IoError E2eKeyResponsePayload := do
  let (username, consumed) ← decodeSizedString bytes
  let rest ← sliceFrom bytes consumed
  .refuseIf (rest.isEmpty = true) (.invalidData "e2e_key_response missing status byte")
  let status ← E2eKeyStatus.fromU8 (← indexAt rest 0)
  match status with
  | .found => do
      let key ← decodeE2ePublicKey (← sliceFrom rest 1)
      requireFullyConsumed bytes (consumed + 1 + e2ePublicKeySize) "e2e_key_response"
      pure { username, key := some key }
  | .notFound => do
      requireFullyConsumed bytes (consumed + 1) "e2e_key_response"
      pure { username, key := none }

theorem encode_of_decode {bytes : Bytes} {payload : E2eKeyResponsePayload}
    (decoded : decode bytes = .ok payload) : encode payload = .ok bytes := by
  simp only [decode, Outcome.bind_eq_ok_iff, Prod.exists, sliceFrom_eq_ok_iff,
    E2eKeyStatus.fromU8_eq_ok_iff] at decoded
  rcases decoded with ⟨username, consumed, read, _, ⟨_, rfl⟩, _, filled, byte, atTag, status,
    rfl, decoded⟩
  rcases decodeSizedString_readsPrefix.exists_of_decode read with
    ⟨encoded, rest, encodes, rfl, rfl⟩
  rw [List.drop_left' rfl] at atTag decoded
  cases rest with
  | nil => simp [Outcome.refuseIf] at filled
  | cons tag tail =>
      rw [indexAt_cons_zero, Outcome.ok.injEq] at atTag
      cases status with
      | found =>
          simp only [Outcome.bind_eq_ok_iff, sliceFrom_eq_ok_iff, List.drop_succ_cons,
            List.drop_zero, requireFullyConsumed_eq_ok_iff, Outcome.pure_eq_ok,
            Outcome.ok.injEq] at decoded
          rcases decoded with ⟨_, ⟨_, rfl⟩, key, keyRead, _, exhausted, rfl⟩
          have sized : tail.length = e2ePublicKeySize := by
            rw [List.length_append, List.length_cons] at exhausted
            omega
          simp [encode, encodes, atTag, eq_encodeE2ePublicKey_of_decode keyRead sized]
      | notFound =>
          simp only [Outcome.bind_eq_ok_iff, requireFullyConsumed_eq_ok_iff,
            Outcome.pure_eq_ok, Outcome.ok.injEq] at decoded
          rcases decoded with ⟨_, exhausted, rfl⟩
          have nothing : tail = [] := by
            rw [List.length_append, List.length_cons] at exhausted
            exact List.eq_nil_of_length_eq_zero (by omega)
          simp [encode, encodes, atTag, nothing]

theorem decode_of_encode {bytes : Bytes} {payload : E2eKeyResponsePayload}
    (encoded : encode payload = .ok bytes) : decode bytes = .ok payload := by
  rcases payload with ⟨username, key?⟩
  simp only [encode, Outcome.bind_eq_ok_iff] at encoded
  rcases encoded with ⟨name, encodes, encoded⟩
  have read := decodeSizedString_readsPrefix.decode_append encodes
  cases key? with
  | some key =>
      simp only [Outcome.pure_eq_ok, Outcome.ok.injEq] at encoded
      have statusRead := (E2eKeyStatus.fromU8_eq_ok_iff _ .found).mpr rfl
      have keyRead := decodeE2ePublicKey_append key []
      rw [List.append_nil] at keyRead
      subst encoded
      simp [decode, read, statusRead, sliceFrom, keyRead, requireFullyConsumed, Nat.add_assoc,
        Nat.add_comm 1]
  | none =>
      simp only [Outcome.pure_eq_ok, Outcome.ok.injEq] at encoded
      have statusRead := (E2eKeyStatus.fromU8_eq_ok_iff _ .notFound).mpr rfl
      subst encoded
      simp [decode, read, statusRead, requireFullyConsumed]

theorem canonical : Canonical encode decode :=
  fun _ _ => ⟨encode_of_decode, decode_of_encode⟩

end E2eKeyResponsePayload

end ChatixProtocol
