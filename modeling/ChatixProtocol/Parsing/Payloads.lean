import ChatixProtocol.Parsing.Shapes
import ChatixProtocol.Payloads.Format

/-! # Hardened payload decoders

The decoders with a layout of their own, and the hardened decoder of every
packet type.
-/

namespace ChatixProtocol

/-! ## Tag bytes

Parsing one byte reaches no failing operation. -/

theorem FriendRequestStatus.fromU8_ne_panic (value : UInt8) : fromU8 value ≠ .panic := by
  unfold fromU8
  split <;> simp

theorem RemoveFriendStatus.fromU8_ne_panic (value : UInt8) : fromU8 value ≠ .panic := by
  unfold fromU8
  split <;> simp

theorem FriendStatus.fromU8_ne_panic (value : UInt8) : fromU8 value ≠ .panic := by
  unfold fromU8
  split <;> simp

theorem CloseReason.fromU8_ne_panic (value : UInt8) : fromU8 value ≠ .panic := by
  unfold fromU8
  split <;> simp

theorem MessageStatus.fromU8_ne_panic (value : UInt8) : fromU8 value ≠ .panic := by
  unfold fromU8
  split <;> simp

theorem E2eKeyStatus.fromU8_ne_panic (value : UInt8) : fromU8 value ≠ .panic := by
  unfold fromU8
  split <;> simp

/-! ## Handshake -/

namespace ClientHelloPayload

def decodeWithin (limit : Nat) (bytes : Bytes) : Outcome IoError ClientHelloPayload := do
  let (clientId, consumed) ← decodeSizedStringWithin limit bytes
  let afterId ← sliceFrom bytes consumed
  .refuseIf (afterId.length < (← addWithin limit 32 mlKem768EkSize))
    (.invalidData "client_hello too short for key material")
  let x25519PublicKey ← copyFromSlice 32 (← slice afterId 0 32)
  let mlKemEk ← copyFromSlice mlKem768EkSize
    (← slice afterId 32 (← addWithin limit 32 mlKem768EkSize))
  requireFullyConsumed bytes (← addWithin limit (← addWithin limit consumed 32) mlKem768EkSize)
    "client_hello"
  pure { clientId, x25519PublicKey, mlKemEk }

theorem decode_hardens {limit : Nat} {bytes : Bytes}
    (room : bytes.length + (2 ^ 32 + 3) ≤ limit) :
    (decodeWithin limit bytes).Hardens (decode bytes) := by
  have ekSize : mlKem768EkSize = 1184 := rfl
  apply Outcome.Agrees.bind (decodeSizedString_agrees (by omega) bytes)
  intro (clientId, consumed) inside
  dsimp only at inside
  apply Outcome.Agrees.bind (.sliceFrom inside)
  intro afterId afterIdLength
  apply Outcome.Agrees.add (by omega)
  apply Outcome.Agrees.bind (.refuseIf _ _)
  intro _ long
  apply Outcome.Agrees.bind (.slice (by omega) (by omega))
  intro keyPart keyLength
  apply Outcome.Agrees.bind (.tryIntoArray _ keyLength)
  intro key _
  apply Outcome.Agrees.add (by omega)
  apply Outcome.Agrees.bind (.slice (by omega) (by omega))
  intro ekPart ekLength
  apply Outcome.Agrees.bind (.copyFromSlice (by omega))
  intro ek _
  apply Outcome.Agrees.add (by omega)
  apply Outcome.Agrees.add (by omega)
  apply Outcome.Agrees.bind (requireFullyConsumed_hardens _ _ _)
  intro _ _
  exact .ok trivial

end ClientHelloPayload

namespace ServerHelloPayload

def decodeWithin (limit : Nat) (bytes : Bytes) : Outcome IoError ServerHelloPayload := do
  let (serverId, consumed) ← decodeSizedStringWithin limit bytes
  let afterId ← sliceFrom bytes consumed
  let fixedLen ← addWithin limit (← addWithin limit 32 mlKem768CtSize) mlDsa65SigSize
  .refuseIf (afterId.length < fixedLen)
    (.invalidData "server_hello too short for key material")
  let x25519PublicKey ← copyFromSlice 32 (← slice afterId 0 32)
  let mlKemEnd ← addWithin limit 32 mlKem768CtSize
  let mlKemCiphertext ← copyFromSlice mlKem768CtSize (← slice afterId 32 mlKemEnd)
  let signature ← copyFromSlice mlDsa65SigSize (← slice afterId mlKemEnd fixedLen)
  requireFullyConsumed bytes (← addWithin limit consumed fixedLen) "server_hello"
  pure { serverId, x25519PublicKey, mlKemCiphertext, signature }

theorem decode_hardens {limit : Nat} {bytes : Bytes}
    (room : bytes.length + (2 ^ 32 + 3) ≤ limit) :
    (decodeWithin limit bytes).Hardens (decode bytes) := by
  have ctSize : mlKem768CtSize = 1088 := rfl
  have signatureSize : mlDsa65SigSize = 3309 := rfl
  apply Outcome.Agrees.bind (decodeSizedString_agrees (by omega) bytes)
  intro (serverId, consumed) inside
  dsimp only at inside
  apply Outcome.Agrees.bind (.sliceFrom inside)
  intro afterId afterIdLength
  apply Outcome.Agrees.add (by omega)
  apply Outcome.Agrees.add (by omega)
  apply Outcome.Agrees.bind (.refuseIf _ _)
  intro _ long
  apply Outcome.Agrees.bind (.slice (by omega) (by omega))
  intro keyPart keyLength
  apply Outcome.Agrees.bind (.tryIntoArray _ keyLength)
  intro key _
  apply Outcome.Agrees.add (by omega)
  apply Outcome.Agrees.bind (.slice (by omega) (by omega))
  intro ctPart ctLength
  apply Outcome.Agrees.bind (.copyFromSlice (by omega))
  intro ct _
  apply Outcome.Agrees.bind (.slice (by omega) (by omega))
  intro signaturePart signatureLength
  apply Outcome.Agrees.bind (.copyFromSlice (by omega))
  intro signature _
  apply Outcome.Agrees.add (by omega)
  apply Outcome.Agrees.bind (requireFullyConsumed_hardens _ _ _)
  intro _ _
  exact .ok trivial

end ServerHelloPayload

/-! ## Authentication -/

namespace AuthChallengePayload

theorem decode_hardens (bytes : Bytes) : (decode bytes).Hardens (decode bytes) := by
  apply Outcome.Agrees.bind (.refuseIf _ _)
  intro _ sized
  apply Outcome.Agrees.bind (.copyFromSlice (Decidable.not_not.mp sized))
  intro _ _
  exact .ok trivial

end AuthChallengePayload

namespace AuthResponsePayload

def decodeWithin (limit : Nat) (bytes : Bytes) : Outcome IoError AuthResponsePayload := do
  .refuseIf (bytes.length < (← addWithin limit fixed 4)) (.invalidData "auth_response too short")
  let publicKey ← copyFromSlice mlDsa65VkSize (← slice bytes 0 mlDsa65VkSize)
  let signature ← copyFromSlice mlDsa65SigSize (← slice bytes mlDsa65VkSize fixed)
  let (attestationToken, consumed) ← decodeSizedBytesWithin limit (← sliceFrom bytes fixed)
  requireFullyConsumed bytes (← addWithin limit fixed consumed) "auth_response"
  pure { publicKey, signature, attestationToken }

theorem decode_hardens {limit : Nat} {bytes : Bytes}
    (room : bytes.length + (2 ^ 32 + 3) ≤ limit) :
    (decodeWithin limit bytes).Hardens (decode bytes) := by
  have keySize : mlDsa65VkSize = 1952 := rfl
  have signatureSize : mlDsa65SigSize = 3309 := rfl
  have fixedSize : fixed = 5261 := rfl
  apply Outcome.Agrees.add (by omega)
  apply Outcome.Agrees.bind (.refuseIf _ _)
  intro _ long
  apply Outcome.Agrees.bind (.slice (by omega) (by omega))
  intro keyPart keyLength
  apply Outcome.Agrees.bind (.tryIntoArray _ keyLength)
  intro key _
  apply Outcome.Agrees.bind (.slice (by omega) (by omega))
  intro signaturePart signatureLength
  apply Outcome.Agrees.bind (.tryIntoArray _ (by omega))
  intro signature _
  apply Outcome.Agrees.bind (.sliceFrom (by omega))
  intro rest restLength
  apply Outcome.Agrees.bind (decodeSizedBytes_agrees (by omega) rest)
  intro (token, consumed) inside
  dsimp only at inside
  apply Outcome.Agrees.add (by omega)
  apply Outcome.Agrees.bind (requireFullyConsumed_hardens _ _ _)
  intro _ _
  exact .ok trivial

end AuthResponsePayload

/-! ## Accounts and friends -/

namespace AccountStatusResponsePayload

def decodeWithin (limit : Nat) (bytes : Bytes) :
    Outcome IoError AccountStatusResponsePayload := do
  .refuseIf (bytes.isEmpty = true) (.invalidData "account_status_response payload too short")
  let isBanned ← decodeBool (← indexAt bytes 0) "account_status_response is_banned"
  let (banReason, consumed) ← decodeSizedStringWithin limit (← sliceFrom bytes 1)
  let (subscriptionActive, subscriptionExpiryTimestamp) ← decodeTagAndU64Hardened
    (.invalidData "account_status_response missing subscription fields")
    (decodeBool · "account_status_response subscription_active")
    (← sliceFrom bytes (← addWithin limit 1 consumed))
  requireFullyConsumed bytes (← addWithin limit (← addWithin limit 1 consumed) 9)
    "account_status_response"
  pure { isBanned, banReason, subscriptionActive, subscriptionExpiryTimestamp }

theorem decode_hardens {limit : Nat} {bytes : Bytes}
    (room : bytes.length + (2 ^ 32 + 3) ≤ limit) :
    (decodeWithin limit bytes).Hardens (decode bytes) := by
  apply Outcome.Agrees.bind (.refuseIf _ _)
  intro _ filled
  have positive := length_pos_of_not_isEmpty filled
  apply Outcome.Agrees.bind (.indexAt positive)
  intro byte _
  apply Outcome.Agrees.bind (Outcome.hardens_of_ne_panic (decodeBool_ne_panic _ _))
  intro isBanned _
  apply Outcome.Agrees.bind (.sliceFrom positive)
  intro afterTag afterTagLength
  apply Outcome.Agrees.bind (decodeSizedString_agrees (by omega) afterTag)
  intro (banReason, consumed) inside
  dsimp only at inside
  apply Outcome.Agrees.add (by omega)
  apply Outcome.Agrees.bind (.sliceFrom (by omega))
  intro rest restLength
  apply Outcome.Agrees.bind (decodeTagAndU64_agrees (fun _ => decodeBool_ne_panic _ _) rest)
  intro (active, expiry) sized
  apply Outcome.Agrees.add (by omega)
  apply Outcome.Agrees.add (by omega)
  apply Outcome.Agrees.bind (requireFullyConsumed_hardens _ _ _)
  intro _ _
  exact .ok trivial

end AccountStatusResponsePayload

namespace FriendRequestDecisionPayload

def decodeWithin (limit : Nat) (bytes : Bytes) :
    Outcome IoError FriendRequestDecisionPayload := do
  let (senderUsername, consumed) ← decodeSizedStringWithin limit bytes
  .refuseIf (bytes.length ≠ (← addWithin limit consumed 1))
    (.invalidData "friend_request_decision payload length mismatch")
  let accepted ← decodeBool (← indexAt bytes consumed) "friend_request_decision accepted"
  pure { senderUsername, accepted }

theorem decode_hardens {limit : Nat} {bytes : Bytes}
    (room : bytes.length + (2 ^ 32 + 3) ≤ limit) :
    (decodeWithin limit bytes).Hardens (decode bytes) := by
  apply Outcome.Agrees.bind (decodeSizedString_agrees (by omega) bytes)
  intro (senderUsername, consumed) inside
  dsimp only at inside
  apply Outcome.Agrees.add (by omega)
  apply Outcome.Agrees.bind (.refuseIf _ _)
  intro _ sized
  apply Outcome.Agrees.bind (.indexAt (by omega))
  intro byte _
  apply Outcome.Agrees.bind (Outcome.hardens_of_ne_panic (decodeBool_ne_panic _ _))
  intro _ _
  exact .ok trivial

end FriendRequestDecisionPayload

namespace FriendStatusUpdatePayload

def decodeWithin (limit : Nat) (bytes : Bytes) : Outcome IoError FriendStatusUpdatePayload := do
  let (friendUsername, consumed) ← decodeSizedStringWithin limit bytes
  let (status, lastSeen) ← decodeTagAndU64Hardened
    (.invalidData "friend_status_update missing status/last_seen fields")
    FriendStatus.fromU8 (← sliceFrom bytes consumed)
  pure { friendUsername, status, lastSeen }

theorem decode_hardens {limit : Nat} {bytes : Bytes}
    (room : bytes.length + (2 ^ 32 + 3) ≤ limit) :
    (decodeWithin limit bytes).Hardens (decode bytes) := by
  apply Outcome.Agrees.bind (decodeSizedString_agrees (by omega) bytes)
  intro (friendUsername, consumed) inside
  dsimp only at inside
  apply Outcome.Agrees.bind (.sliceFrom inside)
  intro rest _
  apply Outcome.Agrees.bind (decodeTagAndU64_agrees FriendStatus.fromU8_ne_panic rest)
  intro _ _
  exact .ok trivial

end FriendStatusUpdatePayload

/-! ## Messages -/

namespace MessageStatusUpdatePayload

def decodeHardened (bytes : Bytes) : Outcome IoError MessageStatusUpdatePayload := do
  .refuseIf (bytes.length ≠ 9)
    (.invalidData ("message_status_update must be 9 bytes, got " ++ toString bytes.length))
  let messageId ← copyFromSlice 8 (← slice bytes 0 8)
  let status ← MessageStatus.fromU8 (← indexAt bytes 8)
  pure { messageId := u64FromBeBytes messageId, status }

theorem decode_hardens (bytes : Bytes) : (decodeHardened bytes).Hardens (decode bytes) := by
  apply Outcome.Agrees.bind (.refuseIf _ _)
  intro _ sized
  apply Outcome.Agrees.bind (.slice (by omega) (by omega))
  intro idPart idLength
  apply Outcome.Agrees.bind (.tryIntoArray _ idLength)
  intro messageId _
  apply Outcome.Agrees.bind (.indexAt (by omega))
  intro byte _
  apply Outcome.Agrees.bind (Outcome.hardens_of_ne_panic (MessageStatus.fromU8_ne_panic _))
  intro _ _
  exact .ok trivial

end MessageStatusUpdatePayload

namespace QueuedMessageDeliveryPayload

def decodeWithin (limit : Nat) (bytes : Bytes) :
    Outcome IoError QueuedMessageDeliveryPayload := do
  .refuseIf (bytes.length < 16) (.invalidData "queued_message_delivery too short for ids")
  let queueId ← copyFromSlice 8 (← slice bytes 0 8)
  let messageId ← copyFromSlice 8 (← slice bytes 8 16)
  let (senderId, content) ← decodePeerAndContentWithin limit 16 "queued_message_delivery" bytes
  pure {
    queueId := u64FromBeBytes queueId, messageId := u64FromBeBytes messageId
    senderId, content
  }

theorem decode_hardens {limit : Nat} {bytes : Bytes}
    (room : bytes.length + (2 ^ 32 + 3) ≤ limit) :
    (decodeWithin limit bytes).Hardens (decode bytes) := by
  apply Outcome.Agrees.bind (.refuseIf _ _)
  intro _ long
  apply Outcome.Agrees.bind (.slice (by omega) (by omega))
  intro queuePart queueLength
  apply Outcome.Agrees.bind (.tryIntoArray _ queueLength)
  intro queueId _
  apply Outcome.Agrees.bind (.slice (by omega) (by omega))
  intro messagePart messageLength
  apply Outcome.Agrees.bind (.tryIntoArray _ messageLength)
  intro messageId _
  apply Outcome.Agrees.bind (decodePeerAndContent_hardens room (by omega) _)
  intro _ _
  exact .ok trivial

end QueuedMessageDeliveryPayload

/-! ## End-to-end keys -/

def decodeE2ePublicKeyWithin (limit : Nat) (bytes : Bytes) : Outcome IoError E2ePublicKey := do
  .refuseIf (bytes.length < e2ePublicKeySize) (.invalidData "e2e public key bundle too short")
  let x25519Public ← copyFromSlice 32 (← slice bytes 0 32)
  let mlKemEnd ← addWithin limit 32 mlKem768EkSize
  let mlKemEk ← copyFromSlice mlKem768EkSize (← slice bytes 32 mlKemEnd)
  let dsaVerifyingKey ← copyFromSlice mlDsa65VkSize (← slice bytes mlKemEnd e2ePublicKeySize)
  pure { x25519Public, mlKemEk, dsaVerifyingKey }

theorem decodeE2ePublicKey_agrees {limit : Nat} (room : 2 ^ 32 + 3 ≤ limit) (bytes : Bytes) :
    (decodeE2ePublicKeyWithin limit bytes).Agrees (decodeE2ePublicKey bytes)
      fun _ => e2ePublicKeySize ≤ bytes.length := by
  have ekSize : mlKem768EkSize = 1184 := rfl
  have keySize : mlDsa65VkSize = 1952 := rfl
  have bundleSize : e2ePublicKeySize = 3168 := rfl
  apply Outcome.Agrees.bind (.refuseIf _ _)
  intro _ long
  apply Outcome.Agrees.bind (.slice (by omega) (by omega))
  intro keyPart keyLength
  apply Outcome.Agrees.bind (.tryIntoArray _ keyLength)
  intro key _
  apply Outcome.Agrees.add (by omega)
  apply Outcome.Agrees.bind (.slice (by omega) (by omega))
  intro ekPart ekLength
  apply Outcome.Agrees.bind (.copyFromSlice (by omega))
  intro ek _
  apply Outcome.Agrees.bind (.slice (by omega) (by omega))
  intro vkPart vkLength
  apply Outcome.Agrees.bind (.copyFromSlice (by omega))
  intro vk _
  exact .ok (Nat.not_lt.mp long)

namespace PublishE2eKeyPayload

def decodeWithin (limit : Nat) (bytes : Bytes) : Outcome IoError PublishE2eKeyPayload := do
  let key ← decodeE2ePublicKeyWithin limit bytes
  requireFullyConsumed bytes e2ePublicKeySize "publish_e2e_key"
  pure { key }

theorem decode_hardens {limit : Nat} {bytes : Bytes}
    (room : bytes.length + (2 ^ 32 + 3) ≤ limit) :
    (decodeWithin limit bytes).Hardens (decode bytes) := by
  apply Outcome.Agrees.bind (decodeE2ePublicKey_agrees (by omega) bytes)
  intro key _
  apply Outcome.Agrees.bind (requireFullyConsumed_hardens _ _ _)
  intro _ _
  exact .ok trivial

end PublishE2eKeyPayload

namespace E2eKeyResponsePayload

def decodeWithin (limit : Nat) (bytes : Bytes) : Outcome IoError E2eKeyResponsePayload := do
  let (username, consumed) ← decodeSizedStringWithin limit bytes
  let rest ← sliceFrom bytes consumed
  .refuseIf (rest.isEmpty = true) (.invalidData "e2e_key_response missing status byte")
  let status ← E2eKeyStatus.fromU8 (← indexAt rest 0)
  match status with
  | .found => do
      let key ← decodeE2ePublicKeyWithin limit (← sliceFrom rest 1)
      requireFullyConsumed bytes
        (← addWithin limit (← addWithin limit consumed 1) e2ePublicKeySize) "e2e_key_response"
      pure { username, key := some key }
  | .notFound => do
      requireFullyConsumed bytes (← addWithin limit consumed 1) "e2e_key_response"
      pure { username, key := none }

theorem decode_hardens {limit : Nat} {bytes : Bytes}
    (room : bytes.length + (2 ^ 32 + 3) ≤ limit) :
    (decodeWithin limit bytes).Hardens (decode bytes) := by
  have bundleSize : e2ePublicKeySize = 3168 := rfl
  apply Outcome.Agrees.bind (decodeSizedString_agrees (by omega) bytes)
  intro (username, consumed) inside
  dsimp only at inside
  apply Outcome.Agrees.bind (.sliceFrom inside)
  intro rest restLength
  apply Outcome.Agrees.bind (.refuseIf _ _)
  intro _ filled
  have positive := length_pos_of_not_isEmpty filled
  apply Outcome.Agrees.bind (.indexAt positive)
  intro byte _
  apply Outcome.Agrees.bind (Outcome.hardens_of_ne_panic (E2eKeyStatus.fromU8_ne_panic _))
  intro status _
  cases status with
  | found =>
      apply Outcome.Agrees.bind (.sliceFrom positive)
      intro keyBytes keyBytesLength
      apply Outcome.Agrees.bind (decodeE2ePublicKey_agrees (by omega) keyBytes)
      intro key long
      apply Outcome.Agrees.add (by omega)
      apply Outcome.Agrees.add (by omega)
      apply Outcome.Agrees.bind (requireFullyConsumed_hardens _ _ _)
      intro _ _
      exact .ok trivial
  | notFound =>
      apply Outcome.Agrees.add (by omega)
      apply Outcome.Agrees.bind (requireFullyConsumed_hardens _ _ _)
      intro _ _
      exact .ok trivial

end E2eKeyResponsePayload

end ChatixProtocol
