import ChatixProtocol.Payloads.Shapes

/-! # Keep-alive, error and close payloads -/

namespace ChatixProtocol

structure PingPayload where
  timestamp : UInt64
  deriving DecidableEq

namespace PingPayload

def encode (payload : PingPayload) : Bytes :=
  (u64ToBeBytes payload.timestamp).bytes

def decode : Bytes → Outcome IoError PingPayload :=
  decodeU64Payload
    (fun length => .invalidData
      ("invalid ping payload length: expected 8, got " ++ toString length))
    (.invalidData "failed to decode ping payload") PingPayload.mk

theorem canonical : Canonical (fun payload => .ok (encode payload)) decode :=
  u64Payload_canonical _ _ (fun _ => rfl) (fun _ => rfl)

end PingPayload

structure PongPayload where
  timestamp : UInt64
  deriving DecidableEq

namespace PongPayload

def encode (payload : PongPayload) : Bytes :=
  (u64ToBeBytes payload.timestamp).bytes

def decode : Bytes → Outcome IoError PongPayload :=
  decodeU64Payload
    (fun length => .invalidData
      ("invalid pong payload length: expected 8, got " ++ toString length))
    (.invalidData "failed to decode pong payload") PongPayload.mk

theorem canonical : Canonical (fun payload => .ok (encode payload)) decode :=
  u64Payload_canonical _ _ (fun _ => rfl) (fun _ => rfl)

end PongPayload

structure ErrorPayload where
  message : String
  deriving DecidableEq

namespace ErrorPayload

def encode (payload : ErrorPayload) : Outcome IoError Bytes :=
  encodeSizedString payload.message

def decode : Bytes → Outcome IoError ErrorPayload :=
  decodeStringPayload "error" ErrorPayload.mk

theorem canonical : Canonical encode decode :=
  stringPayload_canonical _ (fun _ => rfl) (fun _ => rfl)

end ErrorPayload

inductive CloseReason where
  | normal
  | protocolError
  | timeout
  | serverShutdown
  | clientRequest
  deriving DecidableEq

namespace CloseReason

def fromU8 (value : UInt8) : Outcome IoError CloseReason :=
  match value with
  | 0 => .ok .normal
  | 1 => .ok .protocolError
  | 2 => .ok .timeout
  | 3 => .ok .serverShutdown
  | 4 => .ok .clientRequest
  | value => .err (.invalidData ("unknown close reason: " ++ toString value))

def asU8 : CloseReason → UInt8
  | .normal => 0
  | .protocolError => 1
  | .timeout => 2
  | .serverShutdown => 3
  | .clientRequest => 4

theorem fromU8_eq_ok_iff (value : UInt8) (reason : CloseReason) :
    fromU8 value = .ok reason ↔ value = reason.asU8 := by
  unfold fromU8
  split <;> cases reason <;> simp_all [asU8]

end CloseReason

structure ClosePayload where
  reason : CloseReason
  message : String
  deriving DecidableEq

namespace ClosePayload

def encode (payload : ClosePayload) : Outcome IoError Bytes := do
  let message ← encodeSizedString payload.message
  pure (payload.reason.asU8 :: message)

def decode : Bytes → Outcome IoError ClosePayload :=
  decodeTaggedStringPayload (.invalidData "close payload too short") CloseReason.fromU8
    "close" ClosePayload.mk

theorem canonical : Canonical encode decode :=
  taggedStringPayload_canonical _ _ CloseReason.fromU8_eq_ok_iff (fun _ => rfl)
    (fun _ _ => rfl) (fun _ _ => rfl)

end ClosePayload

end ChatixProtocol
