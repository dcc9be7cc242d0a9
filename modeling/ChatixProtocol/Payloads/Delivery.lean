import ChatixProtocol.Codec.Ceilings
import ChatixProtocol.Payloads.Format

/-! # From an accepted message to its delivery

The server repacks an accepted message for its recipient, live or from the
offline queue. The queued form has an identifier more than the live one and the
same ceiling.
-/

namespace ChatixProtocol

open PacketCodec

/-! ## Encoded lengths -/

theorem length_of_encodeMessagePayload {messageId : UInt64} {peerId : String}
    {content bytes : Bytes}
    (encoded : encodeMessagePayload messageId peerId content = .ok bytes) :
    bytes.length = 14 + peerId.utf8ByteSize + content.length := by
  simp only [encodeMessagePayload, Outcome.bind_eq_ok_iff, Outcome.pure_eq_ok,
    Outcome.ok.injEq] at encoded
  rcases encoded with ⟨peer, encodesPeer, body, encodesBody, rfl⟩
  rw [List.length_append, List.length_append, FixedBytes.length_bytes,
    length_of_encodeSizedString encodesPeer, length_of_encodeSizedBytes encodesBody]
  omega

theorem QueuedMessageDeliveryPayload.length_of_encode {payload : QueuedMessageDeliveryPayload}
    {bytes : Bytes} (encoded : payload.encode = .ok bytes) :
    bytes.length = 22 + payload.senderId.utf8ByteSize + payload.content.length := by
  simp only [encode, Outcome.bind_eq_ok_iff, Outcome.pure_eq_ok, Outcome.ok.injEq] at encoded
  rcases encoded with ⟨sender, encodesSender, body, encodesBody, rfl⟩
  simp only [List.length_append, FixedBytes.length_bytes,
    length_of_encodeSizedString encodesSender, length_of_encodeSizedBytes encodesBody]
  omega

/-! ## Deliverable encodings -/

/-- The payload encodes within its type's ceiling, so that no reader refuses its
frame for its size. -/
def Deliverable (packetType : PacketType) (encoding : Outcome IoError Bytes) : Prop :=
  ∃ bytes, encoding = .ok bytes ∧ bytes.length ≤ packetType.maxPayloadSize.toNat ∧
    FrameFits packetType bytes.length

theorem deliverable_iff {packetType : PacketType} {bytes : Bytes}
    (small : bytes.length + 16 < 2 ^ 32) :
    Deliverable packetType (.ok bytes) ↔ bytes.length ≤ packetType.maxPayloadSize.toNat := by
  constructor
  · intro deliverable
    rcases deliverable with ⟨found, same, within, _⟩
    cases same
    exact within
  · intro within
    exact ⟨bytes, rfl, within, (frameFits_iff small).mpr within⟩

/-- An accepted message reaches its recipient in both forms exactly when the queued
form, whose fixed part is 22 bytes, is within its ceiling. -/
theorem accepted_message_deliverable_iff (message : SendMessagePayload) (senderId : String)
    (queueId : UInt64) (bytes : Bytes) (encoded : message.encode = .ok bytes)
    (accepted : bytes.length ≤ PacketType.sendMessage.maxPayloadSize.toNat)
    (short : senderId.utf8ByteSize ≤ message.recipientId.utf8ByteSize) :
    (Deliverable .deliverMessage
        (DeliverMessagePayload.encode ⟨message.messageId, senderId, message.content⟩) ∧
      Deliverable .queuedMessageDelivery (QueuedMessageDeliveryPayload.encode
        ⟨queueId, message.messageId, senderId, message.content⟩)) ↔
      22 + senderId.utf8ByteSize + message.content.length ≤ 65536 := by
  have length := length_of_encodeMessagePayload encoded
  have ceiling : PacketType.sendMessage.maxPayloadSize.toNat = 65536 := rfl
  have fields := (encodeMessagePayload_failsIff message.messageId message.recipientId
    message.content).2.mp ⟨bytes, encoded⟩
  have senderFits : ¬(u16Max < senderId.utf8ByteSize ∨ u32Max < message.content.length) := by
    omega
  rcases (encodeMessagePayload_failsIff message.messageId senderId message.content).2.mpr
    senderFits with ⟨live, liveEncoded⟩
  rcases (QueuedMessageDeliveryPayload.encode_failsIff
    ⟨queueId, message.messageId, senderId, message.content⟩).2.mpr senderFits with
    ⟨queued, queuedEncoded⟩
  have liveLength := length_of_encodeMessagePayload liveEncoded
  have queuedLength := QueuedMessageDeliveryPayload.length_of_encode queuedEncoded
  dsimp only at queuedLength
  rw [DeliverMessagePayload.encode, liveEncoded, queuedEncoded, deliverable_iff (by omega),
    deliverable_iff (by omega), queuedLength, liveLength]
  have liveCeiling : PacketType.deliverMessage.maxPayloadSize.toNat = 65536 := rfl
  have queuedCeiling : PacketType.queuedMessageDelivery.maxPayloadSize.toNat = 65536 := rfl
  omega

/-! A message that fills its ceiling, to a recipient and from a sender of one letter. -/

def fullMessage : SendMessagePayload where
  messageId := 1
  recipientId := "a"
  content := List.replicate 65521 0

theorem fullMessage_length : ∃ bytes, fullMessage.encode = .ok bytes ∧ bytes.length = 65536 := by
  have size : fullMessage.content.length = 65521 := List.length_replicate
  have letter : fullMessage.recipientId.utf8ByteSize = 1 := rfl
  have fits : ¬(u16Max < fullMessage.recipientId.utf8ByteSize ∨
      u32Max < fullMessage.content.length) := by
    rw [size, letter]
    decide
  rcases (encodeMessagePayload_failsIff fullMessage.messageId fullMessage.recipientId
    fullMessage.content).2.mpr fits with ⟨bytes, encoded⟩
  exact ⟨bytes, encoded, by rw [length_of_encodeMessagePayload encoded, size, letter]⟩

theorem fullMessage_queued : ∃ bytes,
    QueuedMessageDeliveryPayload.encode ⟨1, 1, "a", fullMessage.content⟩ = .ok bytes ∧
      bytes.length = 65544 := by
  have size : fullMessage.content.length = 65521 := List.length_replicate
  have letter : "a".utf8ByteSize = 1 := rfl
  have fits : ¬(u16Max < "a".utf8ByteSize ∨ u32Max < fullMessage.content.length) := by
    rw [size, letter]
    decide
  rcases (QueuedMessageDeliveryPayload.encode_failsIff
    ⟨1, 1, "a", fullMessage.content⟩).2.mpr fits with ⟨bytes, encoded⟩
  exact ⟨bytes, encoded, by
    rw [QueuedMessageDeliveryPayload.length_of_encode encoded, size, letter]⟩

/-- The server accepts the message, and its queued copy is refused by every read. -/
theorem full_message_not_deliverable_from_queue :
    (∃ bytes, fullMessage.encode = .ok bytes ∧
      bytes.length ≤ PacketType.sendMessage.maxPayloadSize.toNat) ∧
    "a".utf8ByteSize ≤ fullMessage.recipientId.utf8ByteSize ∧
    (∃ bytes, QueuedMessageDeliveryPayload.encode ⟨1, 1, "a", fullMessage.content⟩ = .ok bytes ∧
      PacketType.queuedMessageDelivery.maxPayloadSize.toNat < bytes.length) ∧
    ¬Deliverable .queuedMessageDelivery
      (QueuedMessageDeliveryPayload.encode ⟨1, 1, "a", fullMessage.content⟩) := by
  rcases fullMessage_length with ⟨sent, sentEncoded, sentLength⟩
  rcases fullMessage_queued with ⟨queued, queuedEncoded, queuedLength⟩
  have ceiling : PacketType.sendMessage.maxPayloadSize.toNat = 65536 := rfl
  have queuedCeiling : PacketType.queuedMessageDelivery.maxPayloadSize.toNat = 65536 := rfl
  refine ⟨⟨sent, sentEncoded, by omega⟩, by decide, ⟨queued, queuedEncoded, by omega⟩, ?_⟩
  rw [queuedEncoded, deliverable_iff (by omega)]
  omega

/-- A message of one byte is delivered in both forms. -/
theorem short_message_deliverable :
    Deliverable .deliverMessage (DeliverMessagePayload.encode ⟨1, "a", [7]⟩) ∧
      Deliverable .queuedMessageDelivery (QueuedMessageDeliveryPayload.encode ⟨1, 1, "a", [7]⟩) :=
  (accepted_message_deliverable_iff ⟨1, "a", [7]⟩ "a" 1
    [0, 0, 0, 0, 0, 0, 0, 1, 0, 1, 97, 0, 0, 0, 1, 7] (by decide) (by decide) (by decide)).mpr
    (by decide)

end ChatixProtocol
