import ChatixProtocol.Parsing.Payloads
import ChatixProtocol.Crypto.E2e

/-! # Parsers of untrusted bytes do not panic

Every parser agrees with its hardened form, whatever bytes it is given: no slice,
index, split or conversion fails, and no sum exceeds the limit for the input.
-/

namespace ChatixProtocol

/-! ## Every payload type -/

def PacketType.decodeWithin (limit : Nat) :
    (type : PacketType) → Bytes → Outcome IoError type.payloadFormat.Value
  | .clientHello => ClientHelloPayload.decodeWithin limit
  | .serverHello => ServerHelloPayload.decodeWithin limit
  | .clientFinish => ClientFinishPayload.decode
  | .serverAccept => ServerAcceptPayload.decode
  | .authChallenge => AuthChallengePayload.decode
  | .authResponse => AuthResponsePayload.decodeWithin limit
  | .authAccept => AuthAcceptPayload.decode
  | .authReject => AuthRejectPayload.decode
  | .ping => decodeU64PayloadHardened
      (fun length => .invalidData
        ("invalid ping payload length: expected 8, got " ++ toString length)) PingPayload.mk
  | .pong => decodeU64PayloadHardened
      (fun length => .invalidData
        ("invalid pong payload length: expected 8, got " ++ toString length)) PongPayload.mk
  | .registerDevice =>
      decodeStringPayloadWithin limit "register_device" RegisterDevicePayload.mk
  | .registerResponse => decodeTaggedStringPayloadWithin limit
      (.invalidData "register_response payload too short")
      (decodeBool · "register_response success") "register_response" RegisterResponsePayload.mk
  | .queryAccountStatus => QueryAccountStatusPayload.decode
  | .accountStatusResponse => AccountStatusResponsePayload.decodeWithin limit
  | .sendFriendRequest =>
      decodeStringPayloadWithin limit "send_friend_request" SendFriendRequestPayload.mk
  | .friendRequestResult => FriendRequestResultPayload.decode
  | .incomingFriendRequest =>
      decodeStringPayloadWithin limit "incoming_friend_request" IncomingFriendRequestPayload.mk
  | .friendRequestDecision => FriendRequestDecisionPayload.decodeWithin limit
  | .removeFriend => decodeStringPayloadWithin limit "remove_friend" RemoveFriendPayload.mk
  | .removeFriendResult => RemoveFriendResultPayload.decode
  | .friendRemovedNotification => decodeStringPayloadWithin limit "friend_removed_notification"
      FriendRemovedNotificationPayload.mk
  | .friendStatusUpdate => FriendStatusUpdatePayload.decodeWithin limit
  | .sendTypingIndicator =>
      decodeStringPayloadWithin limit "send_typing_indicator" SendTypingIndicatorPayload.mk
  | .publishE2eKey => PublishE2eKeyPayload.decodeWithin limit
  | .publishE2eKeyResult => decodeTaggedStringPayloadWithin limit
      (.invalidData "publish_e2e_key_result payload too short")
      (decodeBool · "publish_e2e_key_result success") "publish_e2e_key_result"
      PublishE2eKeyResultPayload.mk
  | .fetchE2eKey => decodeStringPayloadWithin limit "fetch_e2e_key" FetchE2eKeyPayload.mk
  | .e2eKeyResponse => E2eKeyResponsePayload.decodeWithin limit
  | .sendMessage => decodeMessagePayloadWithin limit "send_message" SendMessagePayload.mk
  | .deliverMessage =>
      decodeMessagePayloadWithin limit "deliver_message" DeliverMessagePayload.mk
  | .fetchQueuedMessages => FetchQueuedMessagesPayload.decode
  | .queuedMessageDelivery => QueuedMessageDeliveryPayload.decodeWithin limit
  | .ackQueuedMessage => decodeU64PayloadHardened
      (fun length => .invalidData
        ("invalid ack_queued_message length: expected 8, got " ++ toString length))
      AckQueuedMessagePayload.mk
  | .messageStatusUpdate => MessageStatusUpdatePayload.decodeHardened
  | .deliveryReceipt => decodeU64PayloadHardened
      (fun length => .invalidData
        ("delivery_receipt must be 8 bytes, got " ++ toString length))
      DeliveryReceiptPayload.mk
  | .error => decodeStringPayloadWithin limit "error" ErrorPayload.mk
  | .close => decodeTaggedStringPayloadWithin limit (.invalidData "close payload too short")
      CloseReason.fromU8 "close" ClosePayload.mk

theorem PacketType.decode_hardens (type : PacketType) {limit : Nat} {bytes : Bytes}
    (room : bytes.length + (2 ^ 32 + 3) ≤ limit) :
    (type.decodeWithin limit bytes).Hardens (type.payloadFormat.decode bytes) := by
  have prefixRoom : 2 ^ 32 + 3 ≤ limit := by omega
  cases type with
  | clientHello => exact ClientHelloPayload.decode_hardens room
  | serverHello => exact ServerHelloPayload.decode_hardens room
  | clientFinish => exact decodeBytePayload_hardens (fun _ => decodeBool_ne_panic _ _) bytes
  | serverAccept => exact decodeBytePayload_hardens (fun _ => decodeBool_ne_panic _ _) bytes
  | authChallenge => exact AuthChallengePayload.decode_hardens bytes
  | authResponse => exact AuthResponsePayload.decode_hardens room
  | authAccept => exact emptyPayload_hardens Outcome.refuseIf_ne_panic _
  | authReject => exact emptyPayload_hardens Outcome.refuseIf_ne_panic _
  | ping =>
      rw [PacketType.decodeWithin]
      exact decodeU64Payload_hardens _ _ _ bytes
  | pong =>
      rw [PacketType.decodeWithin]
      exact decodeU64Payload_hardens _ _ _ bytes
  | registerDevice => exact decodeStringPayload_hardens prefixRoom _ _ bytes
  | registerResponse =>
      exact decodeTaggedStringPayload_hardens room (fun _ => decodeBool_ne_panic _ _) _ _
  | queryAccountStatus => exact emptyPayload_hardens Outcome.refuseIf_ne_panic _
  | accountStatusResponse => exact AccountStatusResponsePayload.decode_hardens room
  | sendFriendRequest => exact decodeStringPayload_hardens prefixRoom _ _ bytes
  | friendRequestResult =>
      exact decodeBytePayload_hardens FriendRequestStatus.fromU8_ne_panic bytes
  | incomingFriendRequest => exact decodeStringPayload_hardens prefixRoom _ _ bytes
  | friendRequestDecision => exact FriendRequestDecisionPayload.decode_hardens room
  | removeFriend => exact decodeStringPayload_hardens prefixRoom _ _ bytes
  | removeFriendResult =>
      exact decodeBytePayload_hardens RemoveFriendStatus.fromU8_ne_panic bytes
  | friendRemovedNotification => exact decodeStringPayload_hardens prefixRoom _ _ bytes
  | friendStatusUpdate => exact FriendStatusUpdatePayload.decode_hardens room
  | sendTypingIndicator => exact decodeStringPayload_hardens prefixRoom _ _ bytes
  | publishE2eKey => exact PublishE2eKeyPayload.decode_hardens room
  | publishE2eKeyResult =>
      exact decodeTaggedStringPayload_hardens room (fun _ => decodeBool_ne_panic _ _) _ _
  | fetchE2eKey => exact decodeStringPayload_hardens prefixRoom _ _ bytes
  | e2eKeyResponse => exact E2eKeyResponsePayload.decode_hardens room
  | sendMessage => exact decodeMessagePayload_hardens room _ _
  | deliverMessage => exact decodeMessagePayload_hardens room _ _
  | fetchQueuedMessages => exact emptyPayload_hardens Outcome.refuseIf_ne_panic _
  | queuedMessageDelivery => exact QueuedMessageDeliveryPayload.decode_hardens room
  | ackQueuedMessage =>
      rw [PacketType.decodeWithin]
      exact decodeU64Payload_hardens _ _ _ bytes
  | messageStatusUpdate => exact MessageStatusUpdatePayload.decode_hardens bytes
  | deliveryReceipt =>
      rw [PacketType.decodeWithin]
      exact decodeU64Payload_hardens _ _ _ bytes
  | error => exact decodeStringPayload_hardens prefixRoom _ _ bytes
  | close =>
      exact decodeTaggedStringPayload_hardens room CloseReason.fromU8_ne_panic _ _

/-! ## End-to-end blobs -/

/-- The two sums size the buffers of the key derivation's `info` and `ikm`. -/
def verifyAndDecryptWithin (limit : Nat) (suite : E2eSuite) (blob : Bytes)
    (recipientX25519Sk : FixedBytes 32) (recipientMlKemSeed : FixedBytes 64)
    (senderVerifyingKey : FixedBytes mlDsa65VkSize) : Outcome ProtocolError Bytes := do
  .refuseIf (blob.length < minBlobLen) .cryptoError
  let (signedPart, sigBytes) ← splitAt blob (← subtract blob.length mlDsa65SigSize)
  let vkArr ← copyFromSlice mlDsa65VkSize senderVerifyingKey.bytes
  let sigArr ← copyFromSlice mlDsa65SigSize sigBytes
  suite.dsa.verifyEncoded vkArr signedPart sigArr
  let senderX25519Pk ← copyFromSlice 32 (← slice signedPart 0 senderX25519End)
  let mlKemCtBytes ← slice signedPart senderX25519End mlKemCtEnd
  let aesNonceBytes ← copyFromSlice nonceLen (← slice signedPart mlKemCtEnd aesNonceEnd)
  let aesCt ← sliceFrom signedPart aesNonceEnd
  let mlKemSeedArr ← copyFromSlice 64 recipientMlKemSeed.bytes
  let ctArr ← copyFromSlice mlKem768CtSize mlKemCtBytes
  let exchange := recipientExchange suite recipientX25519Sk mlKemSeedArr senderX25519Pk ctArr
  let _ ← addWithin limit (← addWithin limit 32 32) mlKemCtBytes.length
  let _ ← addWithin limit exchange.x25519Shared.bytes.length exchange.kyberShared.bytes.length
  let contentKey ← exchange.contentKey suite.hkdfExpand
  .ofOption .cryptoError (suite.aead.openInPlace contentKey aesNonceBytes [] aesCt)

theorem MlDsa.verifyEncoded_ne_panic (dsa : MlDsa) (verifyingKey : FixedBytes mlDsa65VkSize)
    (message : Bytes) (signature : FixedBytes mlDsa65SigSize) :
    dsa.verifyEncoded verifyingKey message signature ≠ .panic := by
  rw [verifyEncoded]
  cases dsa.decodeSignature signature with
  | none => simp [Outcome.ofOption]
  | some decoded => exact Outcome.refuseIf_ne_panic

theorem verifyAndDecrypt_hardens {limit : Nat} (room : 2 ^ 32 + 3 ≤ limit) (suite : E2eSuite)
    (blob : Bytes) (recipientX25519Sk : FixedBytes 32) (recipientMlKemSeed : FixedBytes 64)
    (senderVerifyingKey : FixedBytes mlDsa65VkSize) :
    (verifyAndDecryptWithin limit suite blob recipientX25519Sk recipientMlKemSeed
      senderVerifyingKey).Hardens
      (verifyAndDecrypt suite blob recipientX25519Sk recipientMlKemSeed senderVerifyingKey) := by
  have ctSize : mlKem768CtSize = 1088 := rfl
  have signatureSize : mlDsa65SigSize = 3309 := rfl
  have nonceSize : nonceLen = 12 := rfl
  have keyEnd : senderX25519End = 32 := rfl
  have ctEnd : mlKemCtEnd = 1120 := rfl
  have nonceEnd : aesNonceEnd = 1132 := rfl
  have minimum : minBlobLen = 4457 := rfl
  apply Outcome.Agrees.bind (.refuseIf _ _)
  intro _ long
  apply Outcome.Agrees.subtract (by omega)
  apply Outcome.Agrees.bind (.splitAt (by omega))
  intro (signedPart, sigBytes) lengths
  dsimp only at lengths
  apply Outcome.Agrees.passing (copyFromSlice_bytes _)
  apply Outcome.Agrees.bind (.tryIntoArray _ (by omega))
  intro sigArr _
  apply Outcome.Agrees.bind (Outcome.hardens_of_ne_panic (suite.dsa.verifyEncoded_ne_panic _ _ _))
  intro _ _
  apply Outcome.Agrees.bind (.slice (by omega) (by omega))
  intro pkPart pkLength
  apply Outcome.Agrees.bind (.tryIntoArray _ (by omega))
  intro senderX25519Pk _
  apply Outcome.Agrees.bind (.slice (by omega) (by omega))
  intro ctPart ctLength
  apply Outcome.Agrees.bind (.slice (by omega) (by omega))
  intro noncePart nonceLength
  apply Outcome.Agrees.bind (.tryIntoArray _ (by omega))
  intro nonce _
  apply Outcome.Agrees.bind (.sliceFrom (by omega))
  intro aesCt _
  apply Outcome.Agrees.passing (copyFromSlice_bytes _)
  apply Outcome.Agrees.bind (.tryIntoArray _ (by omega))
  intro ctArr _
  apply Outcome.Agrees.add (by omega)
  apply Outcome.Agrees.add (by omega)
  apply Outcome.Agrees.add (by
    rw [FixedBytes.length_bytes, FixedBytes.length_bytes]
    omega)
  apply Outcome.Agrees.bind (.ofOption _ _)
  intro contentKey _
  exact (Outcome.Agrees.ofOption _ _).mono fun _ _ => trivial

/-! ## Panic freedom -/

/-- A bound on the sums of a parser: the input, and the end of a byte field whose
length prefix is as large as it can be. -/
def sumLimit (length : Nat) : Nat := length + (2 ^ 32 + 3)

/-- No parser of untrusted bytes panics or adds beyond the limit, on input of any
length, and what the sized decoders report as consumed was there to consume. -/
theorem parsers_panicFree :
    (∀ (type : PacketType) (bytes : Bytes),
      (type.decodeWithin (sumLimit bytes.length) bytes).Hardens
        (type.payloadFormat.decode bytes)) ∧
    (∀ bytes, (decodeSizedStringWithin (sumLimit bytes.length) bytes).Agrees
      (decodeSizedString bytes) fun (_, consumed) => consumed ≤ bytes.length) ∧
    (∀ bytes, (decodeSizedBytesWithin (sumLimit bytes.length) bytes).Agrees
      (decodeSizedBytes bytes) fun (_, consumed) => consumed ≤ bytes.length) ∧
    (∀ bytes, (decodeE2ePublicKeyWithin (sumLimit bytes.length) bytes).Hardens
      (decodeE2ePublicKey bytes)) ∧
    ∀ suite blob recipientX25519Sk recipientMlKemSeed senderVerifyingKey,
      (verifyAndDecryptWithin (sumLimit blob.length) suite blob recipientX25519Sk
        recipientMlKemSeed senderVerifyingKey).Hardens
        (verifyAndDecrypt suite blob recipientX25519Sk recipientMlKemSeed
          senderVerifyingKey) := by
  have prefixRoom (length : Nat) : 2 ^ 32 + 3 ≤ sumLimit length := Nat.le_add_left _ _
  refine ⟨?_, ?_, ?_, ?_, ?_⟩
  · intro type bytes
    exact type.decode_hardens (Nat.le_refl _)
  · intro bytes
    exact decodeSizedString_agrees (prefixRoom _) bytes
  · intro bytes
    exact decodeSizedBytes_agrees (prefixRoom _) bytes
  · intro bytes
    exact (decodeE2ePublicKey_agrees (prefixRoom _) bytes).mono fun _ _ => trivial
  · intro suite blob recipientX25519Sk recipientMlKemSeed senderVerifyingKey
    exact verifyAndDecrypt_hardens (prefixRoom _) suite blob recipientX25519Sk
      recipientMlKemSeed senderVerifyingKey

end ChatixProtocol
