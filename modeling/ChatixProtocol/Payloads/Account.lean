import ChatixProtocol.Payloads.Shapes

/-! # Registration and account payloads -/

namespace ChatixProtocol

structure RegisterDevicePayload where
  username : String
  deriving DecidableEq

namespace RegisterDevicePayload

def encode (payload : RegisterDevicePayload) : Outcome IoError Bytes :=
  encodeSizedString payload.username

def decode : Bytes → Outcome IoError RegisterDevicePayload :=
  decodeStringPayload "register_device" RegisterDevicePayload.mk

theorem canonical : Canonical encode decode :=
  stringPayload_canonical _ (fun _ => rfl) (fun _ => rfl)

end RegisterDevicePayload

structure RegisterResponsePayload where
  success : Bool
  message : String
  deriving DecidableEq

namespace RegisterResponsePayload

def encode (payload : RegisterResponsePayload) : Outcome IoError Bytes := do
  let message ← encodeSizedString payload.message
  pure (encodeBool payload.success :: message)

def decode : Bytes → Outcome IoError RegisterResponsePayload :=
  decodeTaggedStringPayload (.invalidData "register_response payload too short")
    (decodeBool · "register_response success") "register_response" RegisterResponsePayload.mk

theorem canonical : Canonical encode decode :=
  taggedStringPayload_canonical _ _ (fun _ _ => decodeBool_eq_ok_iff) (fun _ => rfl)
    (fun _ _ => rfl) (fun _ _ => rfl)

end RegisterResponsePayload

structure QueryAccountStatusPayload where
  deriving DecidableEq

namespace QueryAccountStatusPayload

def encode (_ : QueryAccountStatusPayload) : Bytes :=
  []

def decode (bytes : Bytes) : Outcome IoError QueryAccountStatusPayload := do
  requireFullyConsumed bytes 0 "query_account_status"
  pure {}

theorem canonical : Canonical (fun payload => .ok (encode payload)) decode :=
  emptyPayload_canonical (fun _ => rfl) (by simp)

end QueryAccountStatusPayload

/-- `subscriptionExpiryTimestamp` is in Unix seconds. -/
structure AccountStatusResponsePayload where
  isBanned : Bool
  banReason : String
  subscriptionActive : Bool
  subscriptionExpiryTimestamp : UInt64
  deriving DecidableEq

namespace AccountStatusResponsePayload

def encode (payload : AccountStatusResponsePayload) : Outcome IoError Bytes := do
  let banReason ← encodeSizedString payload.banReason
  pure (encodeBool payload.isBanned :: (banReason ++ encodeBool payload.subscriptionActive ::
    (u64ToBeBytes payload.subscriptionExpiryTimestamp).bytes))

def decode (bytes : Bytes) : Outcome IoError AccountStatusResponsePayload := do
  .refuseIf (bytes.isEmpty = true) (.invalidData "account_status_response payload too short")
  let isBanned ← decodeBool (← indexAt bytes 0) "account_status_response is_banned"
  let (banReason, consumed) ← decodeSizedString (← sliceFrom bytes 1)
  let (subscriptionActive, subscriptionExpiryTimestamp) ← decodeTagAndU64
    (.invalidData "account_status_response missing subscription fields")
    (.invalidData "failed to decode account_status_response expiry")
    (decodeBool · "account_status_response subscription_active")
    (← sliceFrom bytes (1 + consumed))
  requireFullyConsumed bytes (1 + consumed + 9) "account_status_response"
  pure { isBanned, banReason, subscriptionActive, subscriptionExpiryTimestamp }

theorem canonical : Canonical encode decode := by
  intro bytes payload
  cases bytes with
  | nil => simp [decode, encode, Outcome.refuseIf]
  | cons first body =>
      simp only [decode, encode, Outcome.bind_eq_ok_iff, Prod.exists, indexAt_cons_zero,
        sliceFrom_eq_ok_iff, decodeBool_eq_ok_iff,
        decodeTagAndU64_eq_ok_iff fun _ _ => decodeBool_eq_ok_iff,
        requireFullyConsumed_eq_ok_iff, Outcome.pure_eq_ok, Outcome.ok.injEq, List.cons.injEq]
      constructor
      · intro decoded
        rcases decoded with ⟨_, _, _, rfl, isBanned, rfl, _, ⟨_, rfl⟩, reason, consumed, read, _,
          ⟨_, rfl⟩, active, expiry, tail, _, _, rfl⟩
        rcases decodeSizedString_readsPrefix.exists_of_decode read with
          ⟨encoded, rest, encodes, whole, rfl⟩
        rw [List.drop_succ_cons, List.drop_zero] at whole
        rw [Nat.add_comm, List.drop_succ_cons, whole, List.drop_left' rfl] at tail
        exact ⟨encoded, encodes, rfl, by rw [whole, tail]⟩
      · intro encoding
        rcases encoding with ⟨encoded, encodes, rfl, rfl⟩
        refine ⟨(), by simp, _, rfl, _, rfl, _, ⟨by simp, rfl⟩, _, _,
          decodeSizedString_readsPrefix.decode_append encodes _, _, ⟨?_, rfl⟩, _, _, ?_, (), ?_,
          rfl⟩
        · simp only [List.length_cons, List.length_append]
          omega
        · rw [Nat.add_comm, List.drop_succ_cons, List.drop_left' rfl]
        · simp only [List.length_cons, List.length_append, FixedBytes.length_bytes]
          omega

end AccountStatusResponsePayload

end ChatixProtocol
