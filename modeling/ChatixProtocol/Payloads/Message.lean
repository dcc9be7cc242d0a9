import ChatixProtocol.Payloads.Shapes

/-! # Message and queue payloads -/

namespace ChatixProtocol

/-! ## Live messages -/

structure SendMessagePayload where
  messageId : UInt64
  recipientId : String
  content : Bytes
  deriving DecidableEq

namespace SendMessagePayload

def encode (payload : SendMessagePayload) : Outcome IoError Bytes :=
  encodeMessagePayload payload.messageId payload.recipientId payload.content

def decode : Bytes → Outcome IoError SendMessagePayload :=
  decodeMessagePayload "send_message" SendMessagePayload.mk

theorem canonical : Canonical encode decode :=
  messagePayload_canonical _ (fun _ => rfl) (fun _ _ _ => rfl) (fun _ _ _ => rfl)
    (fun _ _ _ => rfl)

end SendMessagePayload

structure DeliverMessagePayload where
  messageId : UInt64
  senderId : String
  content : Bytes
  deriving DecidableEq

namespace DeliverMessagePayload

def encode (payload : DeliverMessagePayload) : Outcome IoError Bytes :=
  encodeMessagePayload payload.messageId payload.senderId payload.content

def decode : Bytes → Outcome IoError DeliverMessagePayload :=
  decodeMessagePayload "deliver_message" DeliverMessagePayload.mk

theorem canonical : Canonical encode decode :=
  messagePayload_canonical _ (fun _ => rfl) (fun _ _ _ => rfl) (fun _ _ _ => rfl)
    (fun _ _ _ => rfl)

end DeliverMessagePayload

/-! ## Delivery status -/

inductive MessageStatus where
  | sentToServer
  | delivered
  | failed
  deriving DecidableEq

namespace MessageStatus

def asU8 : MessageStatus → UInt8
  | .sentToServer => 0
  | .delivered => 1
  | .failed => 2

def fromU8 (value : UInt8) : Outcome IoError MessageStatus :=
  match value with
  | 0 => .ok .sentToServer
  | 1 => .ok .delivered
  | 2 => .ok .failed
  | _ => .err (.invalidData "unknown message_status value")

theorem fromU8_eq_ok_iff (value : UInt8) (status : MessageStatus) :
    fromU8 value = .ok status ↔ value = status.asU8 := by
  unfold fromU8
  split <;> cases status <;> simp_all [asU8]

end MessageStatus

structure MessageStatusUpdatePayload where
  messageId : UInt64
  status : MessageStatus
  deriving DecidableEq

namespace MessageStatusUpdatePayload

def encode (payload : MessageStatusUpdatePayload) : Bytes :=
  (u64ToBeBytes payload.messageId).bytes ++ [payload.status.asU8]

def decode (bytes : Bytes) : Outcome IoError MessageStatusUpdatePayload := do
  .refuseIf (bytes.length ≠ 9)
    (.invalidData ("message_status_update must be 9 bytes, got " ++ toString bytes.length))
  let messageId ← tryIntoArray 8 (← slice bytes 0 8)
    (.invalidData "failed to decode message_status_update message_id")
  let status ← MessageStatus.fromU8 (← indexAt bytes 8)
  pure { messageId := u64FromBeBytes messageId, status }

theorem canonical : Canonical (fun payload => .ok (encode payload)) decode := by
  intro bytes payload
  simp only [decode, encode, Outcome.bind_eq_ok_iff, Outcome.refuseIf_eq_ok_iff,
    tryIntoArray_eq_ok_iff, MessageStatus.fromU8_eq_ok_iff, Outcome.pure_eq_ok,
    Outcome.ok.injEq, ne_eq, not_not]
  constructor
  · intro decoded
    rcases decoded with ⟨_, sized, _, idSlice, id, rfl, byte, atEnd, status, rfl, rfl⟩
    have split := drop_of_slice idSlice
    rw [List.drop_zero] at split
    have single : (bytes.drop 8).length = 1 := by
      rw [List.length_drop, sized]
    rcases List.length_eq_one_iff.mp single with ⟨last, tail⟩
    rw [split, tail] at atEnd
    have sameByte := indexAt_append (ε := IoError) id.bytes last []
    rw [id.length_bytes, atEnd, Outcome.ok.injEq] at sameByte
    rw [u64ToBeBytes_fromBeBytes, split, tail, sameByte]
  · intro encoded
    subst encoded
    have atEnd := indexAt_append (ε := IoError) (u64ToBeBytes payload.messageId).bytes
      payload.status.asU8 []
    rw [FixedBytes.length_bytes] at atEnd
    exact ⟨(), by simp, _, slice_first _ _, _, rfl, _, atEnd, _, rfl, by simp⟩

end MessageStatusUpdatePayload

structure DeliveryReceiptPayload where
  messageId : UInt64
  deriving DecidableEq

namespace DeliveryReceiptPayload

def encode (payload : DeliveryReceiptPayload) : Bytes :=
  (u64ToBeBytes payload.messageId).bytes

def decode : Bytes → Outcome IoError DeliveryReceiptPayload :=
  decodeU64Payload
    (fun length => .invalidData
      ("delivery_receipt must be 8 bytes, got " ++ toString length))
    (.invalidData "failed to decode delivery_receipt message_id") DeliveryReceiptPayload.mk

theorem canonical : Canonical (fun payload => .ok (encode payload)) decode :=
  u64Payload_canonical _ _ (fun _ => rfl) (fun _ => rfl)

end DeliveryReceiptPayload

/-! ## The offline queue -/

structure FetchQueuedMessagesPayload where
  deriving DecidableEq

namespace FetchQueuedMessagesPayload

def encode (_ : FetchQueuedMessagesPayload) : Bytes :=
  []

def decode (bytes : Bytes) : Outcome IoError FetchQueuedMessagesPayload := do
  requireFullyConsumed bytes 0 "fetch_queued_messages"
  pure {}

theorem canonical : Canonical (fun payload => .ok (encode payload)) decode :=
  emptyPayload_canonical (fun _ => rfl) (by simp)

end FetchQueuedMessagesPayload

/-- `queueId` names the server's row; `messageId` is the sender's own. -/
structure QueuedMessageDeliveryPayload where
  queueId : UInt64
  messageId : UInt64
  senderId : String
  content : Bytes
  deriving DecidableEq

namespace QueuedMessageDeliveryPayload

def encode (payload : QueuedMessageDeliveryPayload) : Outcome IoError Bytes := do
  let sender ← encodeSizedString payload.senderId
  let content ← encodeSizedBytes payload.content
  pure ((u64ToBeBytes payload.queueId).bytes ++ (u64ToBeBytes payload.messageId).bytes ++
    (sender ++ content))

def decode (bytes : Bytes) : Outcome IoError QueuedMessageDeliveryPayload := do
  .refuseIf (bytes.length < 16) (.invalidData "queued_message_delivery too short for ids")
  let queueId ← tryIntoArray 8 (← slice bytes 0 8)
    (.invalidData "failed to decode queued_message_delivery queue_id")
  let messageId ← tryIntoArray 8 (← slice bytes 8 16)
    (.invalidData "failed to decode queued_message_delivery message_id")
  let (senderId, content) ← decodePeerAndContent 16 "queued_message_delivery" bytes
  pure {
    queueId := u64FromBeBytes queueId, messageId := u64FromBeBytes messageId
    senderId, content
  }

theorem canonical : Canonical encode decode := by
  intro bytes payload
  simp only [decode, encode, Outcome.bind_eq_ok_iff, Prod.exists, Outcome.refuseIf_eq_ok_iff,
    tryIntoArray_eq_ok_iff, decodePeerAndContent_eq_ok_iff (show 16 ≤ u32Max by decide),
    Outcome.pure_eq_ok, Outcome.ok.injEq]
  constructor
  · intro decoded
    rcases decoded with ⟨_, _, _, queueSlice, queueId, rfl, _, messageSlice, messageId, rfl,
      senderId, content, ⟨ids, sender, body, idsLength, encodesSender, encodesBody, rfl⟩, rfl⟩
    have split := eq_append_of_slices queueSlice messageSlice
    rw [List.drop_left' idsLength] at split
    refine ⟨sender, encodesSender, body, encodesBody, ?_⟩
    rw [split, u64ToBeBytes_fromBeBytes, u64ToBeBytes_fromBeBytes, List.append_assoc]
  · intro encoding
    rcases encoding with ⟨sender, encodesSender, body, encodesBody, rfl⟩
    let ids := (u64ToBeBytes payload.queueId).bytes ++ (u64ToBeBytes payload.messageId).bytes
    have idsLength : ids.length = 16 := by simp [ids]
    refine ⟨(), ?_, _, ?_, u64ToBeBytes payload.queueId, rfl, _, ?_,
      u64ToBeBytes payload.messageId, rfl, payload.senderId, payload.content,
      ⟨ids, sender, body, idsLength, encodesSender, encodesBody, rfl⟩, ?_⟩
    · rw [List.length_append, idsLength]
      omega
    · rw [List.append_assoc]
      exact slice_first _ _
    · rw [List.append_assoc]
      exact slice_second _ _ _
    · simp only [u64FromBeBytes_toBeBytes]

end QueuedMessageDeliveryPayload

structure AckQueuedMessagePayload where
  queueId : UInt64
  deriving DecidableEq

namespace AckQueuedMessagePayload

def encode (payload : AckQueuedMessagePayload) : Bytes :=
  (u64ToBeBytes payload.queueId).bytes

def decode : Bytes → Outcome IoError AckQueuedMessagePayload :=
  decodeU64Payload
    (fun length => .invalidData
      ("invalid ack_queued_message length: expected 8, got " ++ toString length))
    (.invalidData "failed to decode ack_queued_message queue_id") AckQueuedMessagePayload.mk

theorem canonical : Canonical (fun payload => .ok (encode payload)) decode :=
  u64Payload_canonical _ _ (fun _ => rfl) (fun _ => rfl)

end AckQueuedMessagePayload

end ChatixProtocol
