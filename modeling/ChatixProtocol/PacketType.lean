import ChatixProtocol.Crypto.Keys
import ChatixProtocol.Error

/-! # Packet types and their payload ceilings -/

namespace ChatixProtocol

inductive PacketType where
  | clientHello
  | serverHello
  | clientFinish
  | serverAccept
  | authChallenge
  | authResponse
  | authAccept
  | authReject
  | ping
  | pong
  | registerDevice
  | registerResponse
  | queryAccountStatus
  | accountStatusResponse
  | sendFriendRequest
  | friendRequestResult
  | incomingFriendRequest
  | friendRequestDecision
  | removeFriend
  | removeFriendResult
  | friendRemovedNotification
  | friendStatusUpdate
  | sendTypingIndicator
  | publishE2eKey
  | publishE2eKeyResult
  | fetchE2eKey
  | e2eKeyResponse
  | sendMessage
  | deliverMessage
  | fetchQueuedMessages
  | queuedMessageDelivery
  | ackQueuedMessage
  | messageStatusUpdate
  | deliveryReceipt
  | error
  | close
  deriving DecidableEq, Repr

namespace PacketType

def asU8 : PacketType → UInt8
  | .clientHello => 1
  | .serverHello => 2
  | .clientFinish => 3
  | .serverAccept => 4
  | .authChallenge => 5
  | .authResponse => 6
  | .authAccept => 7
  | .authReject => 8
  | .ping => 20
  | .pong => 21
  | .registerDevice => 22
  | .registerResponse => 23
  | .queryAccountStatus => 24
  | .accountStatusResponse => 25
  | .sendFriendRequest => 26
  | .friendRequestResult => 27
  | .incomingFriendRequest => 28
  | .friendRequestDecision => 29
  | .removeFriend => 30
  | .removeFriendResult => 31
  | .friendRemovedNotification => 32
  | .friendStatusUpdate => 33
  | .sendTypingIndicator => 34
  | .publishE2eKey => 35
  | .publishE2eKeyResult => 36
  | .fetchE2eKey => 37
  | .e2eKeyResponse => 38
  | .sendMessage => 40
  | .deliverMessage => 41
  | .fetchQueuedMessages => 42
  | .queuedMessageDelivery => 43
  | .ackQueuedMessage => 44
  | .messageStatusUpdate => 45
  | .deliveryReceipt => 46
  | .error => 254
  | .close => 255

def fromU8 (value : UInt8) : Outcome ProtocolError PacketType :=
  match value with
  | 1 => .ok .clientHello
  | 2 => .ok .serverHello
  | 3 => .ok .clientFinish
  | 4 => .ok .serverAccept
  | 5 => .ok .authChallenge
  | 6 => .ok .authResponse
  | 7 => .ok .authAccept
  | 8 => .ok .authReject
  | 20 => .ok .ping
  | 21 => .ok .pong
  | 22 => .ok .registerDevice
  | 23 => .ok .registerResponse
  | 24 => .ok .queryAccountStatus
  | 25 => .ok .accountStatusResponse
  | 26 => .ok .sendFriendRequest
  | 27 => .ok .friendRequestResult
  | 28 => .ok .incomingFriendRequest
  | 29 => .ok .friendRequestDecision
  | 30 => .ok .removeFriend
  | 31 => .ok .removeFriendResult
  | 32 => .ok .friendRemovedNotification
  | 33 => .ok .friendStatusUpdate
  | 34 => .ok .sendTypingIndicator
  | 35 => .ok .publishE2eKey
  | 36 => .ok .publishE2eKeyResult
  | 37 => .ok .fetchE2eKey
  | 38 => .ok .e2eKeyResponse
  | 40 => .ok .sendMessage
  | 41 => .ok .deliverMessage
  | 42 => .ok .fetchQueuedMessages
  | 43 => .ok .queuedMessageDelivery
  | 44 => .ok .ackQueuedMessage
  | 45 => .ok .messageStatusUpdate
  | 46 => .ok .deliveryReceipt
  | 254 => .ok .error
  | 255 => .ok .close
  | other => .err (.unknownPacketType other)

@[simp] theorem fromU8_asU8 (type : PacketType) : fromU8 type.asU8 = .ok type := by
  cases type <;> rfl

theorem asU8_injective : Function.Injective asU8 := by
  intro left right same
  have known := fromU8_asU8 left
  rw [same, fromU8_asU8] at known
  exact (Outcome.ok.inj known).symm

theorem fromU8_eq_ok_iff {value : UInt8} {type : PacketType} :
    fromU8 value = .ok type ↔ value = type.asU8 := by
  constructor
  · intro known
    unfold fromU8 at known
    split at known
    all_goals first
      | exact Outcome.ok.inj known ▸ rfl
      | exact absurd known (by simp)
  · intro same
    subst same
    exact fromU8_asU8 type

/-- The largest plaintext payload of each type, in bytes. -/
def maxPayloadSize : PacketType → UInt32
  | .clientHello => 1300
  | .serverHello => UInt32.ofNat (32 + mlKem768CtSize + mlDsa65SigSize + 80)
  | .clientFinish | .serverAccept => 1
  | .authChallenge => 32
  | .authResponse => UInt32.ofNat (mlDsa65VkSize + mlDsa65SigSize + 4 + 4096)
  | .authAccept | .authReject => 0
  | .ping | .pong => 8
  | .sendMessage | .deliverMessage => 65536
  | .registerDevice => 130
  | .registerResponse => 259
  | .queryAccountStatus => 0
  | .accountStatusResponse => 268
  | .sendFriendRequest | .incomingFriendRequest => 130
  | .friendRequestResult => 1
  | .friendRequestDecision => 131
  | .removeFriend | .friendRemovedNotification | .sendTypingIndicator => 130
  | .removeFriendResult => 1
  | .friendStatusUpdate => 139
  | .publishE2eKey => UInt32.ofNat (32 + mlKem768EkSize + mlDsa65VkSize)
  | .publishE2eKeyResult => 259
  | .fetchE2eKey => 130
  | .e2eKeyResponse => UInt32.ofNat (130 + 1 + 32 + mlKem768EkSize + mlDsa65VkSize)
  | .messageStatusUpdate => 9
  | .deliveryReceipt => 8
  | .fetchQueuedMessages => 0
  | .queuedMessageDelivery => 65536
  | .ackQueuedMessage => 8
  | .error | .close => 1024

/-- Every ceiling leaves room for a tag below the global payload cap. -/
theorem maxPayloadSize_le (type : PacketType) : type.maxPayloadSize.toNat ≤ 65536 := by
  cases type <;> decide

def validatePayloadSize (type : PacketType) (payloadLen : UInt32) :
    Outcome ProtocolError Unit :=
  .refuseIf (type.maxPayloadSize < payloadLen)
    (.payloadTooLarge payloadLen type.maxPayloadSize)

theorem validatePayloadSize_eq_ok_iff {type : PacketType} {payloadLen : UInt32} :
    type.validatePayloadSize payloadLen = .ok () ↔ payloadLen ≤ type.maxPayloadSize :=
  Outcome.refuseIf_eq_ok_iff.trans UInt32.not_lt

end PacketType

/-! ## Who sends a type -/

inductive Direction where
  | clientToServer
  | serverToClient
  | bidirectional
  deriving DecidableEq, Repr

def PacketType.direction : PacketType → Direction
  | .clientHello | .clientFinish | .authResponse | .sendMessage | .registerDevice
  | .queryAccountStatus | .sendFriendRequest | .friendRequestDecision | .removeFriend
  | .sendTypingIndicator | .fetchQueuedMessages | .ackQueuedMessage | .deliveryReceipt
  | .publishE2eKey | .fetchE2eKey => .clientToServer
  | .serverHello | .serverAccept | .authChallenge | .authAccept | .authReject
  | .deliverMessage | .registerResponse | .accountStatusResponse | .friendRequestResult
  | .incomingFriendRequest | .removeFriendResult | .friendRemovedNotification
  | .friendStatusUpdate | .queuedMessageDelivery | .messageStatusUpdate
  | .publishE2eKeyResult | .e2eKeyResponse => .serverToClient
  | .ping | .pong | .close | .error => .bidirectional

end ChatixProtocol
