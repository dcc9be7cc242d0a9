import ChatixProtocol.Codec.Ceilings
import ChatixProtocol.Payloads.Format

/-! # The limit table against the encoders

The ceiling of a packet type is stated apart from its encoder. This file proves that they
agree: a ceiling lets through exactly the payloads whose variable field is within its
documented cap, and it is the length of every encoding where no field varies.
-/

namespace ChatixProtocol

open PacketCodec

/-! ## Passing the size check -/

/-- Some header announces exactly this payload, with a tag where the flags mark it as
sealed, and no reader refuses it for its size. -/
def PassesCeiling (packetType : PacketType) (flags : UInt8) (payload : Bytes) : Prop :=
  ∃ payloadLen : UInt32,
    payloadLen.toNat = payload.length + PacketHeader.tagLen flags ∧
      NeverTooLarge packetType flags payloadLen

theorem passesCeiling_iff {packetType : PacketType} {flags : UInt8} {payload : Bytes} :
    PassesCeiling packetType flags payload ↔
      payload.length ≤ packetType.maxPayloadSize.toNat := by
  constructor
  · intro passes
    rcases passes with ⟨payloadLen, announced, accepted⟩
    have within := neverTooLarge_iff.mp accepted
    omega
  · intro within
    have bound := packetType.maxPayloadSize_le
    have tag := PacketHeader.tagLen_le flags
    have announced : (UInt32.ofNat (payload.length + PacketHeader.tagLen flags)).toNat =
        payload.length + PacketHeader.tagLen flags :=
      UInt32.toNat_ofNat_of_lt' (by unfold UInt32.size; omega)
    exact ⟨_, announced, neverTooLarge_iff.mpr (by omega)⟩

/-- A payload whose own length is valid passes as a frame, plain and sealed, and no other
does. -/
theorem validatePayloadSize_iff_passesCeiling {packetType : PacketType} {payloadLen : UInt32}
    {payload : Bytes} (announced : payload.length = payloadLen.toNat) (flags : UInt8) :
    packetType.validatePayloadSize payloadLen = .ok () ↔
      PassesCeiling packetType flags payload := by
  rw [passesCeiling_iff, announced, PacketType.validatePayloadSize_eq_ok_iff,
    UInt32.le_iff_toNat_le]

/-! ## The documented limits -/

/-- The payload values of one variable field, with its length in bytes and the cap the
limit table documents for it. -/
inductive Capped : (type : PacketType) → type.payloadFormat.Value → Nat → Nat → Prop
  | serverHello (payload : ServerHelloPayload) :
      Capped .serverHello payload payload.serverId.utf8ByteSize 78
  | authResponse (payload : AuthResponsePayload) :
      Capped .authResponse payload payload.attestationToken.length 4096
  | registerDevice (payload : RegisterDevicePayload) :
      Capped .registerDevice payload payload.username.utf8ByteSize 128
  | registerResponse (payload : RegisterResponsePayload) :
      Capped .registerResponse payload payload.message.utf8ByteSize 256
  | accountStatusResponse (payload : AccountStatusResponsePayload) :
      Capped .accountStatusResponse payload payload.banReason.utf8ByteSize 256
  | sendFriendRequest (payload : SendFriendRequestPayload) :
      Capped .sendFriendRequest payload payload.targetUsername.utf8ByteSize 128
  | incomingFriendRequest (payload : IncomingFriendRequestPayload) :
      Capped .incomingFriendRequest payload payload.senderUsername.utf8ByteSize 128
  | friendRequestDecision (payload : FriendRequestDecisionPayload) :
      Capped .friendRequestDecision payload payload.senderUsername.utf8ByteSize 128
  | removeFriend (payload : RemoveFriendPayload) :
      Capped .removeFriend payload payload.friendUsername.utf8ByteSize 128
  | friendRemovedNotification (payload : FriendRemovedNotificationPayload) :
      Capped .friendRemovedNotification payload payload.removedByUsername.utf8ByteSize 128
  | friendStatusUpdate (payload : FriendStatusUpdatePayload) :
      Capped .friendStatusUpdate payload payload.friendUsername.utf8ByteSize 128
  | sendTypingIndicator (payload : SendTypingIndicatorPayload) :
      Capped .sendTypingIndicator payload payload.recipientUsername.utf8ByteSize 128
  | publishE2eKeyResult (payload : PublishE2eKeyResultPayload) :
      Capped .publishE2eKeyResult payload payload.message.utf8ByteSize 256
  | fetchE2eKey (payload : FetchE2eKeyPayload) :
      Capped .fetchE2eKey payload payload.targetUsername.utf8ByteSize 128
  -- The cap leaves room for a key, which only a found user has.
  | e2eKeyResponse (username : String) (key : E2ePublicKey) :
      Capped .e2eKeyResponse ⟨username, some key⟩ username.utf8ByteSize 128

/-- The types whose encodings all have one length. -/
def PacketType.hasFixedSize : PacketType → Bool
  | .clientFinish | .serverAccept | .authChallenge | .authAccept | .authReject | .ping | .pong
  | .queryAccountStatus | .friendRequestResult | .removeFriendResult | .publishE2eKey
  | .fetchQueuedMessages | .ackQueuedMessage | .messageStatusUpdate | .deliveryReceipt => true
  | _ => false

theorem PacketType.hasFixedSize_iff {type : PacketType} (value : type.payloadFormat.Value) :
    type.hasFixedSize = true ↔
      type.payloadFormat.strings value = [] ∧ type.payloadFormat.byteFields value = [] := by
  cases type <;>
    simp [hasFixedSize, payloadFormat, PayloadFormat.fixed, PayloadFormat.withString,
      PayloadFormat.withContent]

/-! ## Encoded lengths -/

section

variable {packetType : PacketType}

theorem passes_iff_of_length {encoding : Outcome IoError Bytes} {length cap fixedPart : Nat}
    (ceiling : packetType.maxPayloadSize.toNat = fixedPart + cap)
    (encodes : length ≤ cap → ∃ bytes, encoding = .ok bytes)
    (sized : ∀ bytes, encoding = .ok bytes → bytes.length = fixedPart + length)
    (flags : UInt8) :
    (∃ bytes, encoding = .ok bytes ∧ PassesCeiling packetType flags bytes) ↔ length ≤ cap := by
  constructor
  · intro passing
    rcases passing with ⟨bytes, encoded, passes⟩
    have within := passesCeiling_iff.mp passes
    rw [sized bytes encoded, ceiling] at within
    exact Nat.le_of_add_le_add_left within
  · intro within
    rcases encodes within with ⟨bytes, encoded⟩
    refine ⟨bytes, encoded, passesCeiling_iff.mpr ?_⟩
    rw [sized bytes encoded, ceiling]
    exact Nat.add_le_add_left within fixedPart

theorem passes_iff_of_string {text : String} {finish : Bytes → Bytes} (extra : Nat) {cap : Nat}
    (ceiling : packetType.maxPayloadSize.toNat = 2 + extra + cap)
    (grows : ∀ encoded, (finish encoded).length = encoded.length + extra) (flags : UInt8) :
    (∃ bytes, (encodeSizedString text >>= fun encoded => .ok (finish encoded)) = .ok bytes ∧
      PassesCeiling packetType flags bytes) ↔ text.utf8ByteSize ≤ cap := by
  apply passes_iff_of_length ceiling
  · intro within
    have bound := packetType.maxPayloadSize_le
    have fits : text.utf8ByteSize ≤ u16Max := by
      rw [u16Max]
      omega
    rw [encodeSizedString_eq_ok_iff.mpr ⟨fits, rfl⟩]
    exact ⟨_, rfl⟩
  · intro bytes encoded
    rcases Outcome.bind_eq_ok_iff.mp encoded with ⟨name, encodes, finished⟩
    rw [← Outcome.ok.inj finished, grows, length_of_encodeSizedString encodes]
    omega

theorem passes_iff_of_only_string {text : String} {cap : Nat}
    (ceiling : packetType.maxPayloadSize.toNat = 2 + cap) (flags : UInt8) :
    (∃ bytes, encodeSizedString text = .ok bytes ∧ PassesCeiling packetType flags bytes) ↔
      text.utf8ByteSize ≤ cap := by
  have alone := @passes_iff_of_string packetType text id 0 cap ceiling (fun _ => rfl) flags
  simpa only [id_eq, Outcome.bind_eq_ok_iff, Outcome.ok.injEq, exists_eq_right] using alone

end

theorem AuthResponsePayload.length_of_encode {payload : AuthResponsePayload} {bytes : Bytes}
    (encoded : payload.encode = .ok bytes) :
    bytes.length = fixed + 4 + payload.attestationToken.length := by
  simp only [encode, Outcome.bind_eq_ok_iff, Outcome.pure_eq_ok, Outcome.ok.injEq] at encoded
  rcases encoded with ⟨attestation, encodesToken, rfl⟩
  simp only [List.length_append, FixedBytes.length_bytes,
    length_of_encodeSizedBytes encodesToken, fixed, Nat.add_assoc]

/-! ## The table is exact -/

theorem Capped.passes_iff {type : PacketType} {value : type.payloadFormat.Value}
    {length cap : Nat} (capped : Capped type value length cap) (flags : UInt8) :
    (∃ bytes, type.payloadFormat.encode value = .ok bytes ∧ PassesCeiling type flags bytes) ↔
      length ≤ cap := by
  cases capped with
  | serverHello payload =>
      refine passes_iff_of_string (32 + mlKem768CtSize + mlDsa65SigSize) rfl ?_ flags
      intro encoded
      simp only [List.length_append, FixedBytes.length_bytes]
      omega
  | authResponse payload =>
      refine passes_iff_of_length rfl ?_ (fun _ => AuthResponsePayload.length_of_encode) flags
      intro within
      refine payload.encode_failsIff.2.mpr ?_
      rw [u32Max]
      omega
  | registerDevice payload => exact passes_iff_of_only_string rfl flags
  | registerResponse payload => exact passes_iff_of_string 1 rfl (fun _ => rfl) flags
  | accountStatusResponse payload =>
      refine passes_iff_of_string 10 rfl ?_ flags
      intro encoded
      simp only [List.length_cons, List.length_append, FixedBytes.length_bytes]
  | sendFriendRequest payload => exact passes_iff_of_only_string rfl flags
  | incomingFriendRequest payload => exact passes_iff_of_only_string rfl flags
  | friendRequestDecision payload =>
      exact passes_iff_of_string 1 rfl (fun _ => List.length_append) flags
  | removeFriend payload => exact passes_iff_of_only_string rfl flags
  | friendRemovedNotification payload => exact passes_iff_of_only_string rfl flags
  | friendStatusUpdate payload =>
      refine passes_iff_of_string 9 rfl ?_ flags
      intro encoded
      simp only [List.length_cons, List.length_append, FixedBytes.length_bytes]
  | sendTypingIndicator payload => exact passes_iff_of_only_string rfl flags
  | publishE2eKeyResult payload => exact passes_iff_of_string 1 rfl (fun _ => rfl) flags
  | fetchE2eKey payload => exact passes_iff_of_only_string rfl flags
  | e2eKeyResponse username key =>
      refine passes_iff_of_string (e2ePublicKeySize + 1) rfl ?_ flags
      intro encoded
      rw [List.length_append, List.length_cons, length_encodeE2ePublicKey]

theorem length_of_fixed {encoding bytes : Bytes} {size : Nat}
    (encoded : Outcome.ok encoding = (.ok bytes : Outcome IoError Bytes))
    (sized : encoding.length = size) : bytes.length = size := by
  rw [← Outcome.ok.inj encoded, sized]

theorem PacketType.length_of_fixedSize {type : PacketType} (fixedSize : type.hasFixedSize = true)
    {value : type.payloadFormat.Value} {bytes : Bytes}
    (encoded : type.payloadFormat.encode value = .ok bytes) :
    bytes.length = type.maxPayloadSize.toNat := by
  cases type with
  | clientFinish => exact length_of_fixed encoded rfl
  | serverAccept => exact length_of_fixed encoded rfl
  | authChallenge => exact length_of_fixed encoded (FixedBytes.length_bytes _)
  | authAccept => exact length_of_fixed encoded rfl
  | authReject => exact length_of_fixed encoded rfl
  | ping => exact length_of_fixed encoded (FixedBytes.length_bytes _)
  | pong => exact length_of_fixed encoded (FixedBytes.length_bytes _)
  | queryAccountStatus => exact length_of_fixed encoded rfl
  | friendRequestResult => exact length_of_fixed encoded rfl
  | removeFriendResult => exact length_of_fixed encoded rfl
  | publishE2eKey => exact length_of_fixed encoded (length_encodeE2ePublicKey _)
  | fetchQueuedMessages => exact length_of_fixed encoded rfl
  | ackQueuedMessage => exact length_of_fixed encoded (FixedBytes.length_bytes _)
  | messageStatusUpdate => exact length_of_fixed encoded rfl
  | deliveryReceipt => exact length_of_fixed encoded (FixedBytes.length_bytes _)
  | _ => cases fixedSize

/-- The limit table matches the encoders: a ceiling lets through exactly the encodings whose
variable field is within its documented cap, plain and sealed, and is the length of every
encoding of a fixed-size type. -/
theorem limit_table_exact :
    (∀ (type : PacketType) (value : type.payloadFormat.Value) (length cap : Nat),
      Capped type value length cap → ∀ flags,
        ((∃ bytes, type.payloadFormat.encode value = .ok bytes ∧
          PassesCeiling type flags bytes) ↔ length ≤ cap)) ∧
    ∀ type : PacketType, type.hasFixedSize = true →
      ∀ (value : type.payloadFormat.Value) (bytes : Bytes),
        type.payloadFormat.encode value = .ok bytes →
          bytes.length = type.maxPayloadSize.toNat :=
  ⟨fun _ _ _ _ capped => capped.passes_iff,
    fun _ fixedSize _ _ encoded => PacketType.length_of_fixedSize fixedSize encoded⟩

theorem limit_table_registerDevice :
    (∃ bytes, RegisterDevicePayload.encode ⟨"alice"⟩ = .ok bytes ∧
      PassesCeiling .registerDevice Flags.encrypted bytes) ∧
    (FixedBytes.replicate 32 7).bytes.length = PacketType.authChallenge.maxPayloadSize.toNat :=
  ⟨(limit_table_exact.1 .registerDevice _ _ _ (.registerDevice ⟨"alice"⟩)
    Flags.encrypted).mpr (by decide),
    limit_table_exact.2 .authChallenge rfl ⟨.replicate 32 7⟩ _ rfl⟩

end ChatixProtocol
