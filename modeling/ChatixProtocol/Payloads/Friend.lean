import ChatixProtocol.Payloads.Shapes

/-! # Friend payloads -/

namespace ChatixProtocol

/-! ## Friend requests -/

structure SendFriendRequestPayload where
  targetUsername : String
  deriving DecidableEq

namespace SendFriendRequestPayload

def encode (payload : SendFriendRequestPayload) : Outcome IoError Bytes :=
  encodeSizedString payload.targetUsername

def decode : Bytes → Outcome IoError SendFriendRequestPayload :=
  decodeStringPayload "send_friend_request" SendFriendRequestPayload.mk

theorem canonical : Canonical encode decode :=
  stringPayload_canonical _ (fun _ => rfl) (fun _ => rfl)

end SendFriendRequestPayload

inductive FriendRequestStatus where
  | accepted
  | rejected
  | userNotFound
  deriving DecidableEq

namespace FriendRequestStatus

def asU8 : FriendRequestStatus → UInt8
  | .accepted => 0
  | .rejected => 1
  | .userNotFound => 2

def fromU8 (value : UInt8) : Outcome IoError FriendRequestStatus :=
  match value with
  | 0 => .ok .accepted
  | 1 => .ok .rejected
  | 2 => .ok .userNotFound
  | _ => .err (.invalidData "unknown friend_request status")

theorem fromU8_eq_ok_iff (value : UInt8) (status : FriendRequestStatus) :
    fromU8 value = .ok status ↔ value = status.asU8 := by
  unfold fromU8
  split <;> cases status <;> simp_all [asU8]

end FriendRequestStatus

structure FriendRequestResultPayload where
  status : FriendRequestStatus
  deriving DecidableEq

namespace FriendRequestResultPayload

def encode (payload : FriendRequestResultPayload) : Bytes :=
  [payload.status.asU8]

def decode : Bytes → Outcome IoError FriendRequestResultPayload :=
  decodeBytePayload (.invalidData "friend_request_result must be exactly 1 byte")
    FriendRequestStatus.fromU8 FriendRequestResultPayload.mk

theorem canonical : Canonical (fun payload => .ok (encode payload)) decode :=
  bytePayload_canonical _ FriendRequestStatus.fromU8_eq_ok_iff (fun _ => rfl) (fun _ => rfl)

end FriendRequestResultPayload

structure IncomingFriendRequestPayload where
  senderUsername : String
  deriving DecidableEq

namespace IncomingFriendRequestPayload

def encode (payload : IncomingFriendRequestPayload) : Outcome IoError Bytes :=
  encodeSizedString payload.senderUsername

def decode : Bytes → Outcome IoError IncomingFriendRequestPayload :=
  decodeStringPayload "incoming_friend_request" IncomingFriendRequestPayload.mk

theorem canonical : Canonical encode decode :=
  stringPayload_canonical _ (fun _ => rfl) (fun _ => rfl)

end IncomingFriendRequestPayload

structure FriendRequestDecisionPayload where
  senderUsername : String
  accepted : Bool
  deriving DecidableEq

namespace FriendRequestDecisionPayload

def encode (payload : FriendRequestDecisionPayload) : Outcome IoError Bytes := do
  let sender ← encodeSizedString payload.senderUsername
  pure (sender ++ [encodeBool payload.accepted])

def decode (bytes : Bytes) : Outcome IoError FriendRequestDecisionPayload := do
  let (senderUsername, consumed) ← decodeSizedString bytes
  .refuseIf (bytes.length ≠ consumed + 1)
    (.invalidData "friend_request_decision payload length mismatch")
  let accepted ← decodeBool (← indexAt bytes consumed) "friend_request_decision accepted"
  pure { senderUsername, accepted }

theorem canonical : Canonical encode decode := by
  intro bytes payload
  simp only [decode, encode, Outcome.bind_eq_ok_iff, Prod.exists, Outcome.refuseIf_eq_ok_iff,
    decodeBool_eq_ok_iff, Outcome.pure_eq_ok, Outcome.ok.injEq, ne_eq, not_not]
  constructor
  · intro decoded
    rcases decoded with ⟨sender, consumed, read, _, sized, byte, atEnd, accepted, rfl, rfl⟩
    rcases decodeSizedString_readsPrefix.exists_of_decode read with
      ⟨encoded, rest, encodes, rfl, rfl⟩
    have single : rest.length = 1 := by
      rw [List.length_append] at sized
      omega
    rcases List.length_eq_one_iff.mp single with ⟨last, rfl⟩
    rw [indexAt_append, Outcome.ok.injEq] at atEnd
    exact ⟨encoded, encodes, by rw [atEnd]⟩
  · intro encoding
    rcases encoding with ⟨encoded, encodes, rfl⟩
    exact ⟨_, _, decodeSizedString_readsPrefix.decode_append encodes _, (), by simp, _,
      indexAt_append _ _ _, _, rfl, rfl⟩

end FriendRequestDecisionPayload

/-! ## Friend removal -/

structure RemoveFriendPayload where
  friendUsername : String
  deriving DecidableEq

namespace RemoveFriendPayload

def encode (payload : RemoveFriendPayload) : Outcome IoError Bytes :=
  encodeSizedString payload.friendUsername

def decode : Bytes → Outcome IoError RemoveFriendPayload :=
  decodeStringPayload "remove_friend" RemoveFriendPayload.mk

theorem canonical : Canonical encode decode :=
  stringPayload_canonical _ (fun _ => rfl) (fun _ => rfl)

end RemoveFriendPayload

inductive RemoveFriendStatus where
  | success
  | notFound
  deriving DecidableEq

namespace RemoveFriendStatus

def asU8 : RemoveFriendStatus → UInt8
  | .success => 0
  | .notFound => 1

def fromU8 (value : UInt8) : Outcome IoError RemoveFriendStatus :=
  match value with
  | 0 => .ok .success
  | 1 => .ok .notFound
  | _ => .err (.invalidData "unknown remove_friend status")

theorem fromU8_eq_ok_iff (value : UInt8) (status : RemoveFriendStatus) :
    fromU8 value = .ok status ↔ value = status.asU8 := by
  unfold fromU8
  split <;> cases status <;> simp_all [asU8]

end RemoveFriendStatus

structure RemoveFriendResultPayload where
  status : RemoveFriendStatus
  deriving DecidableEq

namespace RemoveFriendResultPayload

def encode (payload : RemoveFriendResultPayload) : Bytes :=
  [payload.status.asU8]

def decode : Bytes → Outcome IoError RemoveFriendResultPayload :=
  decodeBytePayload (.invalidData "remove_friend_result must be exactly 1 byte")
    RemoveFriendStatus.fromU8 RemoveFriendResultPayload.mk

theorem canonical : Canonical (fun payload => .ok (encode payload)) decode :=
  bytePayload_canonical _ RemoveFriendStatus.fromU8_eq_ok_iff (fun _ => rfl) (fun _ => rfl)

end RemoveFriendResultPayload

structure FriendRemovedNotificationPayload where
  removedByUsername : String
  deriving DecidableEq

namespace FriendRemovedNotificationPayload

def encode (payload : FriendRemovedNotificationPayload) : Outcome IoError Bytes :=
  encodeSizedString payload.removedByUsername

def decode : Bytes → Outcome IoError FriendRemovedNotificationPayload :=
  decodeStringPayload "friend_removed_notification" FriendRemovedNotificationPayload.mk

theorem canonical : Canonical encode decode :=
  stringPayload_canonical _ (fun _ => rfl) (fun _ => rfl)

end FriendRemovedNotificationPayload

/-! ## Friend status -/

inductive FriendStatus where
  | online
  | offline
  | isTyping
  deriving DecidableEq

namespace FriendStatus

def asU8 : FriendStatus → UInt8
  | .online => 0
  | .offline => 1
  | .isTyping => 2

def fromU8 (value : UInt8) : Outcome IoError FriendStatus :=
  match value with
  | 0 => .ok .online
  | 1 => .ok .offline
  | 2 => .ok .isTyping
  | _ => .err (.invalidData "unknown friend_status value")

theorem fromU8_eq_ok_iff (value : UInt8) (status : FriendStatus) :
    fromU8 value = .ok status ↔ value = status.asU8 := by
  unfold fromU8
  split <;> cases status <;> simp_all [asU8]

end FriendStatus

/-- `lastSeen` is in Unix seconds. -/
structure FriendStatusUpdatePayload where
  friendUsername : String
  status : FriendStatus
  lastSeen : UInt64
  deriving DecidableEq

namespace FriendStatusUpdatePayload

def encode (payload : FriendStatusUpdatePayload) : Outcome IoError Bytes := do
  let friend ← encodeSizedString payload.friendUsername
  pure (friend ++ payload.status.asU8 :: (u64ToBeBytes payload.lastSeen).bytes)

def decode (bytes : Bytes) : Outcome IoError FriendStatusUpdatePayload := do
  let (friendUsername, consumed) ← decodeSizedString bytes
  let (status, lastSeen) ← decodeTagAndU64
    (.invalidData "friend_status_update missing status/last_seen fields")
    (.invalidData "failed to decode friend_status_update last_seen")
    FriendStatus.fromU8 (← sliceFrom bytes consumed)
  pure { friendUsername, status, lastSeen }

theorem canonical : Canonical encode decode := by
  intro bytes payload
  simp only [decode, encode, Outcome.bind_eq_ok_iff, Prod.exists, sliceFrom_eq_ok_iff,
    decodeTagAndU64_eq_ok_iff FriendStatus.fromU8_eq_ok_iff, Outcome.pure_eq_ok,
    Outcome.ok.injEq]
  constructor
  · intro decoded
    rcases decoded with ⟨friend, consumed, read, _, ⟨_, rfl⟩, status, lastSeen, tail, rfl⟩
    rcases decodeSizedString_readsPrefix.exists_of_decode read with
      ⟨encoded, rest, encodes, rfl, rfl⟩
    rw [List.drop_left' rfl] at tail
    exact ⟨encoded, encodes, by rw [tail]⟩
  · intro encoding
    rcases encoding with ⟨encoded, encodes, rfl⟩
    exact ⟨_, _, decodeSizedString_readsPrefix.decode_append encodes _, _,
      ⟨by simp, List.drop_left' rfl⟩, _, _, rfl, rfl⟩

end FriendStatusUpdatePayload

structure SendTypingIndicatorPayload where
  recipientUsername : String
  deriving DecidableEq

namespace SendTypingIndicatorPayload

def encode (payload : SendTypingIndicatorPayload) : Outcome IoError Bytes :=
  encodeSizedString payload.recipientUsername

def decode : Bytes → Outcome IoError SendTypingIndicatorPayload :=
  decodeStringPayload "send_typing_indicator" SendTypingIndicatorPayload.mk

theorem canonical : Canonical encode decode :=
  stringPayload_canonical _ (fun _ => rfl) (fun _ => rfl)

end SendTypingIndicatorPayload

end ChatixProtocol
