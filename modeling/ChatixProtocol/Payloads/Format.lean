import ChatixProtocol.PacketType
import ChatixProtocol.Payloads.Hello
import ChatixProtocol.Payloads.Auth
import ChatixProtocol.Payloads.Account
import ChatixProtocol.Payloads.Friend
import ChatixProtocol.Payloads.Control
import ChatixProtocol.Payloads.Message
import ChatixProtocol.Payloads.E2eKey

/-! # The payload format of every packet type

One table gives each packet type its payload value, encoder and decoder, and the
fields whose length an encoder can refuse.
-/

namespace ChatixProtocol

structure PayloadFormat where
  Value : Type
  encode : Value → Outcome IoError Bytes
  decode : Bytes → Outcome IoError Value
  strings : Value → List String
  byteFields : Value → List Bytes

namespace PayloadFormat

/-- A string of more than 65535 UTF-8 bytes, or a byte field of more than
2^32 - 1 bytes. -/
def Oversized (format : PayloadFormat) (value : format.Value) : Prop :=
  (∃ text ∈ format.strings value, 65535 < text.utf8ByteSize) ∨
    ∃ bytes ∈ format.byteFields value, 2 ^ 32 - 1 < bytes.length

/-- A format without variable-length fields, whose encoder cannot fail. -/
def fixed {α : Type} (encode : α → Bytes) (decode : Bytes → Outcome IoError α) :
    PayloadFormat where
  Value := α
  encode := fun value => .ok (encode value)
  decode := decode
  strings := fun _ => []
  byteFields := fun _ => []

/-- A format whose one variable-length field is a string. -/
def withString {α : Type} (encode : α → Outcome IoError Bytes)
    (decode : Bytes → Outcome IoError α) (text : α → String) : PayloadFormat where
  Value := α
  encode := encode
  decode := decode
  strings := fun value => [text value]
  byteFields := fun _ => []

/-- A format with one string and one byte field. -/
def withContent {α : Type} (encode : α → Outcome IoError Bytes)
    (decode : Bytes → Outcome IoError α) (text : α → String) (content : α → Bytes) :
    PayloadFormat where
  Value := α
  encode := encode
  decode := decode
  strings := fun value => [text value]
  byteFields := fun value => [content value]

end PayloadFormat

open PayloadFormat in
def PacketType.payloadFormat : PacketType → PayloadFormat
  | .clientHello => withString ClientHelloPayload.encode ClientHelloPayload.decode (·.clientId)
  | .serverHello => withString ServerHelloPayload.encode ServerHelloPayload.decode (·.serverId)
  | .clientFinish => fixed ClientFinishPayload.encode ClientFinishPayload.decode
  | .serverAccept => fixed ServerAcceptPayload.encode ServerAcceptPayload.decode
  | .authChallenge => fixed AuthChallengePayload.encode AuthChallengePayload.decode
  | .authResponse => {
      Value := AuthResponsePayload
      encode := AuthResponsePayload.encode
      decode := AuthResponsePayload.decode
      strings := fun _ => []
      byteFields := fun value => [value.attestationToken]
    }
  | .authAccept => fixed AuthAcceptPayload.encode AuthAcceptPayload.decode
  | .authReject => fixed AuthRejectPayload.encode AuthRejectPayload.decode
  | .ping => fixed PingPayload.encode PingPayload.decode
  | .pong => fixed PongPayload.encode PongPayload.decode
  | .registerDevice =>
      withString RegisterDevicePayload.encode RegisterDevicePayload.decode (·.username)
  | .registerResponse =>
      withString RegisterResponsePayload.encode RegisterResponsePayload.decode (·.message)
  | .queryAccountStatus => fixed QueryAccountStatusPayload.encode QueryAccountStatusPayload.decode
  | .accountStatusResponse =>
      withString AccountStatusResponsePayload.encode AccountStatusResponsePayload.decode
        (·.banReason)
  | .sendFriendRequest =>
      withString SendFriendRequestPayload.encode SendFriendRequestPayload.decode
        (·.targetUsername)
  | .friendRequestResult =>
      fixed FriendRequestResultPayload.encode FriendRequestResultPayload.decode
  | .incomingFriendRequest =>
      withString IncomingFriendRequestPayload.encode IncomingFriendRequestPayload.decode
        (·.senderUsername)
  | .friendRequestDecision =>
      withString FriendRequestDecisionPayload.encode FriendRequestDecisionPayload.decode
        (·.senderUsername)
  | .removeFriend =>
      withString RemoveFriendPayload.encode RemoveFriendPayload.decode (·.friendUsername)
  | .removeFriendResult => fixed RemoveFriendResultPayload.encode RemoveFriendResultPayload.decode
  | .friendRemovedNotification =>
      withString FriendRemovedNotificationPayload.encode FriendRemovedNotificationPayload.decode
        (·.removedByUsername)
  | .friendStatusUpdate =>
      withString FriendStatusUpdatePayload.encode FriendStatusUpdatePayload.decode
        (·.friendUsername)
  | .sendTypingIndicator =>
      withString SendTypingIndicatorPayload.encode SendTypingIndicatorPayload.decode
        (·.recipientUsername)
  | .publishE2eKey => fixed PublishE2eKeyPayload.encode PublishE2eKeyPayload.decode
  | .publishE2eKeyResult =>
      withString PublishE2eKeyResultPayload.encode PublishE2eKeyResultPayload.decode (·.message)
  | .fetchE2eKey =>
      withString FetchE2eKeyPayload.encode FetchE2eKeyPayload.decode (·.targetUsername)
  | .e2eKeyResponse =>
      withString E2eKeyResponsePayload.encode E2eKeyResponsePayload.decode (·.username)
  | .sendMessage =>
      withContent SendMessagePayload.encode SendMessagePayload.decode (·.recipientId) (·.content)
  | .deliverMessage =>
      withContent DeliverMessagePayload.encode DeliverMessagePayload.decode (·.senderId)
        (·.content)
  | .fetchQueuedMessages =>
      fixed FetchQueuedMessagesPayload.encode FetchQueuedMessagesPayload.decode
  | .queuedMessageDelivery =>
      withContent QueuedMessageDeliveryPayload.encode QueuedMessageDeliveryPayload.decode
        (·.senderId) (·.content)
  | .ackQueuedMessage => fixed AckQueuedMessagePayload.encode AckQueuedMessagePayload.decode
  | .messageStatusUpdate =>
      fixed MessageStatusUpdatePayload.encode MessageStatusUpdatePayload.decode
  | .deliveryReceipt => fixed DeliveryReceiptPayload.encode DeliveryReceiptPayload.decode
  | .error => withString ErrorPayload.encode ErrorPayload.decode (·.message)
  | .close => withString ClosePayload.encode ClosePayload.decode (·.message)

/-! ## When encoders fail -/

namespace Outcome

/-- The computation returns an error exactly under the condition, and a value
exactly otherwise. -/
def FailsIff (outcome : Outcome ε α) (failing : Prop) : Prop :=
  ((∃ error, outcome = .err error) ↔ failing) ∧ ((∃ value, outcome = .ok value) ↔ ¬failing)

theorem failsIff_ok (value : α) : (Outcome.ok value : Outcome ε α).FailsIff False := by
  simp [FailsIff]

theorem failsIff_refuseIf {refused : Prop} [Decidable refused] {error : ε} :
    (refuseIf refused error).FailsIff refused := by
  unfold refuseIf FailsIff
  by_cases holds : refused <;> simp [holds]

theorem FailsIff.bind {first : Outcome ε α} {next : α → Outcome ε β} {failing failing' : Prop}
    (firstFails : first.FailsIff failing) (nextFails : ∀ value, (next value).FailsIff failing') :
    (first >>= next).FailsIff (failing ∨ failing') := by
  cases first with
  | ok value =>
      have passes : ¬failing := firstFails.2.mp ⟨value, rfl⟩
      rw [ok_bind]
      simpa [passes] using nextFails value
  | err error =>
      have fails : failing := firstFails.1.mp ⟨error, rfl⟩
      simp [FailsIff, fails]
  | panic =>
      by_cases fails : failing
      · exact absurd (firstFails.1.mpr fails) (by simp)
      · exact absurd (firstFails.2.mpr fails) (by simp)

/-- What follows the only fallible part cannot fail. -/
theorem FailsIff.map {first : Outcome ε α} {failing : Prop} (fails : first.FailsIff failing)
    (finish : α → β) : (first >>= fun value => .ok (finish value)).FailsIff failing := by
  simpa using fails.bind fun value => failsIff_ok (finish value)

end Outcome

theorem encodeSizedString_failsIff (value : String) :
    (encodeSizedString value).FailsIff (u16Max < value.utf8ByteSize) := by
  rw [← length_utf8Bytes]
  exact Outcome.failsIff_refuseIf.map _

theorem encodeSizedBytes_failsIff (value : Bytes) :
    (encodeSizedBytes value).FailsIff (u32Max < value.length) :=
  Outcome.failsIff_refuseIf.map _

theorem encodeMessagePayload_failsIff (messageId : UInt64) (peerId : String) (content : Bytes) :
    (encodeMessagePayload messageId peerId content).FailsIff
      (u16Max < peerId.utf8ByteSize ∨ u32Max < content.length) :=
  (encodeSizedString_failsIff peerId).bind fun _ => (encodeSizedBytes_failsIff content).map _

theorem QueuedMessageDeliveryPayload.encode_failsIff (payload : QueuedMessageDeliveryPayload) :
    payload.encode.FailsIff
      (u16Max < payload.senderId.utf8ByteSize ∨ u32Max < payload.content.length) :=
  (encodeSizedString_failsIff payload.senderId).bind fun _ =>
    (encodeSizedBytes_failsIff payload.content).map _

theorem AuthResponsePayload.encode_failsIff (payload : AuthResponsePayload) :
    payload.encode.FailsIff (u32Max < payload.attestationToken.length) :=
  (encodeSizedBytes_failsIff payload.attestationToken).map _

theorem E2eKeyResponsePayload.encode_failsIff (payload : E2eKeyResponsePayload) :
    payload.encode.FailsIff (u16Max < payload.username.utf8ByteSize) := by
  rcases payload with ⟨username, _ | key⟩
  · exact (encodeSizedString_failsIff username).map _
  · exact (encodeSizedString_failsIff username).map _

namespace PayloadFormat

/-- The encoder refuses exactly the values with an oversized field. -/
def RefusesOversized (format : PayloadFormat) : Prop :=
  ∀ value, (format.encode value).FailsIff (format.Oversized value)

theorem fixed_refusesOversized {α : Type} (encode : α → Bytes)
    (decode : Bytes → Outcome IoError α) : (fixed encode decode).RefusesOversized := by
  intro value
  simpa [Oversized, fixed] using Outcome.failsIff_ok (ε := IoError) (encode value)

theorem withString_refusesOversized {α : Type} {encode : α → Outcome IoError Bytes}
    {decode : Bytes → Outcome IoError α} {text : α → String}
    (fails : ∀ value, (encode value).FailsIff (u16Max < (text value).utf8ByteSize)) :
    (withString encode decode text).RefusesOversized := by
  intro value
  simpa [Oversized, withString, u16Max] using fails value

theorem withContent_refusesOversized {α : Type} {encode : α → Outcome IoError Bytes}
    {decode : Bytes → Outcome IoError α} {text : α → String} {content : α → Bytes}
    (fails : ∀ value, (encode value).FailsIff
      (u16Max < (text value).utf8ByteSize ∨ u32Max < (content value).length)) :
    (withContent encode decode text content).RefusesOversized := by
  intro value
  simpa [Oversized, withContent, u16Max, u32Max] using fails value

end PayloadFormat

/-- A single string field with fixed-size fields around it. -/
theorem encodeSizedString_map_failsIff {α : Type} (text : α → String) (finish : α → Bytes → Bytes)
    (value : α) :
    (encodeSizedString (text value) >>= fun encoded => .ok (finish value encoded)).FailsIff
      (u16Max < (text value).utf8ByteSize) :=
  (encodeSizedString_failsIff (text value)).map _

open PayloadFormat in
theorem PacketType.refusesOversized (type : PacketType) :
    type.payloadFormat.RefusesOversized := by
  cases type with
  | clientHello => exact withString_refusesOversized (encodeSizedString_map_failsIff _ _)
  | serverHello => exact withString_refusesOversized (encodeSizedString_map_failsIff _ _)
  | clientFinish => exact fixed_refusesOversized _ _
  | serverAccept => exact fixed_refusesOversized _ _
  | authChallenge => exact fixed_refusesOversized _ _
  | authResponse =>
      intro value
      simpa [Oversized, payloadFormat, u32Max] using value.encode_failsIff
  | authAccept => exact fixed_refusesOversized _ _
  | authReject => exact fixed_refusesOversized _ _
  | ping => exact fixed_refusesOversized _ _
  | pong => exact fixed_refusesOversized _ _
  | registerDevice => exact withString_refusesOversized fun _ => encodeSizedString_failsIff _
  | registerResponse => exact withString_refusesOversized (encodeSizedString_map_failsIff _ _)
  | queryAccountStatus => exact fixed_refusesOversized _ _
  | accountStatusResponse =>
      exact withString_refusesOversized (encodeSizedString_map_failsIff _ _)
  | sendFriendRequest => exact withString_refusesOversized fun _ => encodeSizedString_failsIff _
  | friendRequestResult => exact fixed_refusesOversized _ _
  | incomingFriendRequest =>
      exact withString_refusesOversized fun _ => encodeSizedString_failsIff _
  | friendRequestDecision =>
      exact withString_refusesOversized (encodeSizedString_map_failsIff _ _)
  | removeFriend => exact withString_refusesOversized fun _ => encodeSizedString_failsIff _
  | removeFriendResult => exact fixed_refusesOversized _ _
  | friendRemovedNotification =>
      exact withString_refusesOversized fun _ => encodeSizedString_failsIff _
  | friendStatusUpdate => exact withString_refusesOversized (encodeSizedString_map_failsIff _ _)
  | sendTypingIndicator =>
      exact withString_refusesOversized fun _ => encodeSizedString_failsIff _
  | publishE2eKey => exact fixed_refusesOversized _ _
  | publishE2eKeyResult => exact withString_refusesOversized (encodeSizedString_map_failsIff _ _)
  | fetchE2eKey => exact withString_refusesOversized fun _ => encodeSizedString_failsIff _
  | e2eKeyResponse =>
      exact withString_refusesOversized E2eKeyResponsePayload.encode_failsIff
  | sendMessage =>
      exact withContent_refusesOversized fun _ => encodeMessagePayload_failsIff _ _ _
  | deliverMessage =>
      exact withContent_refusesOversized fun _ => encodeMessagePayload_failsIff _ _ _
  | fetchQueuedMessages => exact fixed_refusesOversized _ _
  | queuedMessageDelivery =>
      exact withContent_refusesOversized QueuedMessageDeliveryPayload.encode_failsIff
  | ackQueuedMessage => exact fixed_refusesOversized _ _
  | messageStatusUpdate => exact fixed_refusesOversized _ _
  | deliveryReceipt => exact fixed_refusesOversized _ _
  | error => exact withString_refusesOversized fun _ => encodeSizedString_failsIff _
  | close => exact withString_refusesOversized (encodeSizedString_map_failsIff _ _)

/-! ## The whole format is canonical -/

theorem PacketType.canonical (type : PacketType) :
    Canonical type.payloadFormat.encode type.payloadFormat.decode := by
  cases type with
  | clientHello => exact ClientHelloPayload.canonical
  | serverHello => exact ServerHelloPayload.canonical
  | clientFinish => exact ClientFinishPayload.canonical
  | serverAccept => exact ServerAcceptPayload.canonical
  | authChallenge => exact AuthChallengePayload.canonical
  | authResponse => exact AuthResponsePayload.canonical
  | authAccept => exact AuthAcceptPayload.canonical
  | authReject => exact AuthRejectPayload.canonical
  | ping => exact PingPayload.canonical
  | pong => exact PongPayload.canonical
  | registerDevice => exact RegisterDevicePayload.canonical
  | registerResponse => exact RegisterResponsePayload.canonical
  | queryAccountStatus => exact QueryAccountStatusPayload.canonical
  | accountStatusResponse => exact AccountStatusResponsePayload.canonical
  | sendFriendRequest => exact SendFriendRequestPayload.canonical
  | friendRequestResult => exact FriendRequestResultPayload.canonical
  | incomingFriendRequest => exact IncomingFriendRequestPayload.canonical
  | friendRequestDecision => exact FriendRequestDecisionPayload.canonical
  | removeFriend => exact RemoveFriendPayload.canonical
  | removeFriendResult => exact RemoveFriendResultPayload.canonical
  | friendRemovedNotification => exact FriendRemovedNotificationPayload.canonical
  | friendStatusUpdate => exact FriendStatusUpdatePayload.canonical
  | sendTypingIndicator => exact SendTypingIndicatorPayload.canonical
  | publishE2eKey => exact PublishE2eKeyPayload.canonical
  | publishE2eKeyResult => exact PublishE2eKeyResultPayload.canonical
  | fetchE2eKey => exact FetchE2eKeyPayload.canonical
  | e2eKeyResponse => exact E2eKeyResponsePayload.canonical
  | sendMessage => exact SendMessagePayload.canonical
  | deliverMessage => exact DeliverMessagePayload.canonical
  | fetchQueuedMessages => exact FetchQueuedMessagesPayload.canonical
  | queuedMessageDelivery => exact QueuedMessageDeliveryPayload.canonical
  | ackQueuedMessage => exact AckQueuedMessagePayload.canonical
  | messageStatusUpdate => exact MessageStatusUpdatePayload.canonical
  | deliveryReceipt => exact DeliveryReceiptPayload.canonical
  | error => exact ErrorPayload.canonical
  | close => exact ClosePayload.canonical

/-- Every payload type decodes what it encodes, refuses to encode exactly the
values with an oversized field, and encodes what it decodes to the very bytes it
was decoded from, so its decoder accepts exactly the image of its encoder. -/
theorem payload_formats_canonical (type : PacketType) :
    (∀ value bytes, type.payloadFormat.encode value = .ok bytes →
      type.payloadFormat.decode bytes = .ok value) ∧
    (∀ value, ((∃ error, type.payloadFormat.encode value = .err error) ↔
      type.payloadFormat.Oversized value) ∧
      ((∃ bytes, type.payloadFormat.encode value = .ok bytes) ↔
        ¬type.payloadFormat.Oversized value)) ∧
    (∀ bytes value, type.payloadFormat.decode bytes = .ok value →
      type.payloadFormat.encode value = .ok bytes) ∧
    ∀ bytes, (∃ value, type.payloadFormat.decode bytes = .ok value) ↔
      ∃ value, type.payloadFormat.encode value = .ok bytes :=
  ⟨fun _ _ encoded => type.canonical.decode_of_encode encoded, type.refusesOversized,
    fun _ _ decoded => type.canonical.encode_of_decode decoded, type.canonical.accepts_iff⟩

end ChatixProtocol
