import ChatixProtocol.Payloads.Shapes
import ChatixProtocol.Crypto.Keys

/-! # Handshake payloads -/

namespace ChatixProtocol

structure ClientHelloPayload where
  clientId : String
  x25519PublicKey : FixedBytes 32
  mlKemEk : FixedBytes mlKem768EkSize
  deriving DecidableEq

namespace ClientHelloPayload

def encode (payload : ClientHelloPayload) : Outcome IoError Bytes := do
  let id ← encodeSizedString payload.clientId
  pure (id ++ payload.x25519PublicKey.bytes ++ payload.mlKemEk.bytes)

def decode (bytes : Bytes) : Outcome IoError ClientHelloPayload := do
  let (clientId, consumed) ← decodeSizedString bytes
  let afterId ← sliceFrom bytes consumed
  .refuseIf (afterId.length < 32 + mlKem768EkSize)
    (.invalidData "client_hello too short for key material")
  let x25519PublicKey ← tryIntoArray 32 (← slice afterId 0 32)
    (.invalidData "invalid x25519 key length")
  let mlKemEk ← copyFromSlice mlKem768EkSize (← slice afterId 32 (32 + mlKem768EkSize))
  requireFullyConsumed bytes (consumed + 32 + mlKem768EkSize) "client_hello"
  pure { clientId, x25519PublicKey, mlKemEk }

theorem canonical : Canonical encode decode := by
  intro bytes payload
  constructor
  · intro decoded
    simp only [decode, Outcome.bind_eq_ok_iff, Prod.exists, sliceFrom_eq_ok_iff,
      tryIntoArray_eq_ok_iff, copyFromSlice_eq_ok_iff, requireFullyConsumed_eq_ok_iff,
      Outcome.pure_eq_ok, Outcome.ok.injEq] at decoded
    rcases decoded with ⟨clientId, consumed, read, afterId, ⟨_, rfl⟩, _, _, _, keySlice,
      key, rfl, _, ekSlice, ek, rfl, _, exhausted, rfl⟩
    rcases decodeSizedString_readsPrefix.exists_of_decode read with
      ⟨id, rest, encodesId, rfl, rfl⟩
    rw [List.drop_left' rfl] at keySlice ekSlice
    have fields := eq_append_of_slices keySlice ekSlice
    have nothing : rest.drop (32 + mlKem768EkSize) = [] := by
      rw [List.length_append] at exhausted
      exact List.drop_of_length_le (by omega)
    rw [nothing, List.append_nil] at fields
    simp [encode, encodesId, fields]
  · intro encoded
    simp only [encode, Outcome.bind_eq_ok_iff, Outcome.pure_eq_ok, Outcome.ok.injEq] at encoded
    rcases encoded with ⟨id, encodesId, rfl⟩
    simp [decode, decodeSizedString_readsPrefix.decode_append encodesId, Nat.add_assoc]

end ClientHelloPayload

structure ServerHelloPayload where
  serverId : String
  x25519PublicKey : FixedBytes 32
  mlKemCiphertext : FixedBytes mlKem768CtSize
  signature : FixedBytes mlDsa65SigSize
  deriving DecidableEq

namespace ServerHelloPayload

def encode (payload : ServerHelloPayload) : Outcome IoError Bytes := do
  let id ← encodeSizedString payload.serverId
  pure (id ++ payload.x25519PublicKey.bytes ++ payload.mlKemCiphertext.bytes ++
    payload.signature.bytes)

def decode (bytes : Bytes) : Outcome IoError ServerHelloPayload := do
  let (serverId, consumed) ← decodeSizedString bytes
  let afterId ← sliceFrom bytes consumed
  let fixedLen := 32 + mlKem768CtSize + mlDsa65SigSize
  .refuseIf (afterId.length < fixedLen)
    (.invalidData "server_hello too short for key material")
  let x25519PublicKey ← tryIntoArray 32 (← slice afterId 0 32)
    (.invalidData "invalid x25519 key length")
  let mlKemEnd := 32 + mlKem768CtSize
  let mlKemCiphertext ← copyFromSlice mlKem768CtSize (← slice afterId 32 mlKemEnd)
  let signature ← copyFromSlice mlDsa65SigSize (← slice afterId mlKemEnd fixedLen)
  requireFullyConsumed bytes (consumed + fixedLen) "server_hello"
  pure { serverId, x25519PublicKey, mlKemCiphertext, signature }

theorem canonical : Canonical encode decode := by
  intro bytes payload
  constructor
  · intro decoded
    simp only [decode, Outcome.bind_eq_ok_iff, Prod.exists, sliceFrom_eq_ok_iff,
      tryIntoArray_eq_ok_iff, copyFromSlice_eq_ok_iff, requireFullyConsumed_eq_ok_iff,
      Outcome.pure_eq_ok, Outcome.ok.injEq] at decoded
    rcases decoded with ⟨serverId, consumed, read, afterId, ⟨_, rfl⟩, _, _, _, keySlice,
      key, rfl, _, ctSlice, ct, rfl, _, signatureSlice, signature, rfl, _, exhausted, rfl⟩
    rcases decodeSizedString_readsPrefix.exists_of_decode read with
      ⟨id, rest, encodesId, rfl, rfl⟩
    rw [List.drop_left' rfl] at keySlice ctSlice signatureSlice
    have fields := eq_append_of_slices keySlice ctSlice
    have nothing : rest.drop (32 + mlKem768CtSize + mlDsa65SigSize) = [] := by
      rw [List.length_append] at exhausted
      exact List.drop_of_length_le (by omega)
    rw [drop_of_slice signatureSlice, nothing, List.append_nil] at fields
    simp [encode, encodesId, fields]
  · intro encoded
    simp only [encode, Outcome.bind_eq_ok_iff, Outcome.pure_eq_ok, Outcome.ok.injEq] at encoded
    rcases encoded with ⟨id, encodesId, rfl⟩
    have lengths : 32 + (mlKem768CtSize + mlDsa65SigSize) =
        32 + mlKem768CtSize + mlDsa65SigSize := (Nat.add_assoc _ _ _).symm
    simp [decode, decodeSizedString_readsPrefix.decode_append encodesId, lengths]

end ServerHelloPayload

/-! ## One-byte confirmations -/

structure ClientFinishPayload where
  ready : Bool
  deriving DecidableEq

namespace ClientFinishPayload

def encode (payload : ClientFinishPayload) : Bytes :=
  [encodeBool payload.ready]

def decode : Bytes → Outcome IoError ClientFinishPayload :=
  decodeBytePayload (.invalidData "client_finish payload must be exactly 1 byte")
    (decodeBool · "client_finish ready") ClientFinishPayload.mk

theorem canonical : Canonical (fun payload => .ok (encode payload)) decode :=
  bytePayload_canonical _ (fun _ _ => decodeBool_eq_ok_iff) (fun _ => rfl) (fun _ => rfl)

end ClientFinishPayload

structure ServerAcceptPayload where
  accepted : Bool
  deriving DecidableEq

namespace ServerAcceptPayload

def encode (payload : ServerAcceptPayload) : Bytes :=
  [encodeBool payload.accepted]

def decode : Bytes → Outcome IoError ServerAcceptPayload :=
  decodeBytePayload (.invalidData "server_accept payload must be exactly 1 byte")
    (decodeBool · "server_accept accepted") ServerAcceptPayload.mk

theorem canonical : Canonical (fun payload => .ok (encode payload)) decode :=
  bytePayload_canonical _ (fun _ _ => decodeBool_eq_ok_iff) (fun _ => rfl) (fun _ => rfl)

end ServerAcceptPayload

end ChatixProtocol
