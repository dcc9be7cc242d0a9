import ChatixProtocol.Codec.Reading

/-! # Size ceilings on the read path

A header built for a packet type passes the reader's size check exactly when its
payload, less the tag of an encrypted frame, is within the type's ceiling.
-/

namespace ChatixProtocol

theorem and_or_self_right (left right : UInt8) : (left ||| right) &&& right = right := by
  apply UInt8.toBitVec_inj.mp
  rw [UInt8.toBitVec_and, UInt8.toBitVec_or]
  ext index inside
  simp only [BitVec.getElem_and, BitVec.getElem_or, Bool.and_eq_right_iff_imp,
    Bool.or_eq_true]
  exact Or.inr

namespace PacketHeader

/-- The flags byte marks a frame as encrypted. -/
def marksEncrypted (flags : UInt8) : Bool :=
  flags &&& Flags.encrypted != 0

@[simp] theorem isEncrypted_new (packetType flags : UInt8) (payloadLen : UInt32)
    (sequence : UInt64) :
    (new packetType flags payloadLen sequence).isEncrypted = marksEncrypted flags :=
  rfl

@[simp] theorem marksEncrypted_or (flags : UInt8) :
    marksEncrypted (flags ||| Flags.encrypted) = true := by
  rw [marksEncrypted, and_or_self_right]
  rfl

/-- The bytes a frame's payload has beyond its plaintext. -/
def tagLen (flags : UInt8) : Nat :=
  if marksEncrypted flags then gcmTagLen else 0

theorem tagLen_le (flags : UInt8) : tagLen flags ≤ 16 := by
  rw [tagLen]
  split <;> decide

end PacketHeader

namespace PacketCodec

theorem toNat_maxForType (packetType : PacketType) (header : PacketHeader) :
    (maxForType header packetType).toNat =
      packetType.maxPayloadSize.toNat + PacketHeader.tagLen header.flags := by
  have bound := packetType.maxPayloadSize_le
  have tag : (UInt32.ofNat gcmTagLen).toNat = 16 := rfl
  unfold maxForType PacketHeader.tagLen PacketHeader.isEncrypted PacketHeader.marksEncrypted
  split
  · rw [u32SaturatingAdd, if_pos (by omega), UInt32.toNat_add, Nat.mod_eq_of_lt (by omega), tag]
    rfl
  · rfl

section

variable {session : Option SessionCipher} {packetType : PacketType} {flags : UInt8}
  {payloadLen : UInt32} {sequence : UInt64}

/-- Within the ceiling, only the session can refuse a header. -/
theorem admitHeader_new_of_le
    (fits : payloadLen.toNat ≤ packetType.maxPayloadSize.toNat + PacketHeader.tagLen flags) :
    admitHeader session (.new packetType.asU8 flags payloadLen sequence) =
      .refuseIf (session.isSome = true ∧ PacketHeader.marksEncrypted flags = false)
        .encryptionRequired := by
  have ceiling := toNat_maxForType packetType (.new packetType.asU8 flags payloadLen sequence)
  have bound := packetType.maxPayloadSize_le
  have tag := PacketHeader.tagLen_le flags
  have cap : maxPayloadLen.toNat = 1048576 := rfl
  have valid : (PacketHeader.new packetType.asU8 flags payloadLen sequence).validate = .ok () := by
    rw [PacketHeader.validate_new, UInt32.le_iff_toNat_le]
    omega
  have within : ¬maxForType (.new packetType.asU8 flags payloadLen sequence) packetType <
      payloadLen := by
    rw [UInt32.lt_iff_toNat_lt, ceiling]
    exact Nat.not_lt.mpr fits
  have known : PacketType.fromU8
      (PacketHeader.new packetType.asU8 flags payloadLen sequence).packetType =
        .ok packetType := PacketType.fromU8_asU8 packetType
  rw [admitHeader, valid, Outcome.ok_bind, PacketHeader.isEncrypted_new, known, Outcome.ok_bind]
  rw [show (PacketHeader.new packetType.asU8 flags payloadLen sequence).payloadLen = payloadLen
    from rfl, Outcome.refuseIf_of_not within]
  by_cases plain : session.isSome = true ∧ PacketHeader.marksEncrypted flags = false
  · simp [Outcome.refuseIf, plain]
  · simp [Outcome.refuseIf_of_not plain]

/-- Over the ceiling, a header is refused for its size once its flags pass. -/
theorem admitHeader_new_of_gt
    (secured : session.isSome = true → PacketHeader.marksEncrypted flags = true)
    (large : packetType.maxPayloadSize.toNat + PacketHeader.tagLen flags < payloadLen.toNat) :
    ∃ max, admitHeader session (.new packetType.asU8 flags payloadLen sequence) =
      .err (.payloadTooLarge payloadLen max) := by
  have ceiling := toNat_maxForType packetType (.new packetType.asU8 flags payloadLen sequence)
  have known : PacketType.fromU8
      (PacketHeader.new packetType.asU8 flags payloadLen sequence).packetType =
        .ok packetType := PacketType.fromU8_asU8 packetType
  have exceeds : maxForType (.new packetType.asU8 flags payloadLen sequence) packetType <
      payloadLen := by
    rw [UInt32.lt_iff_toNat_lt, ceiling]
    exact large
  have notPlain : ¬(session.isSome = true ∧ PacketHeader.marksEncrypted flags = false) := by
    intro unmarked
    rcases unmarked with ⟨present, plain⟩
    rw [secured present] at plain
    cases plain
  by_cases capped : payloadLen ≤ maxPayloadLen
  · have valid : (PacketHeader.new packetType.asU8 flags payloadLen sequence).validate =
        .ok () := PacketHeader.validate_new.mpr capped
    refine ⟨maxForType (.new packetType.asU8 flags payloadLen sequence) packetType, ?_⟩
    rw [admitHeader, valid, Outcome.ok_bind, PacketHeader.isEncrypted_new,
      Outcome.refuseIf_of_not notPlain, Outcome.ok_bind, known, Outcome.ok_bind]
    exact if_pos exceeds
  · refine ⟨maxPayloadLen, ?_⟩
    have beyond : maxPayloadLen < payloadLen := UInt32.not_le.mp capped
    simp [admitHeader, PacketHeader.validate, PacketHeader.new, Outcome.refuseIf, beyond]

/-- The reader admits a header built for a packet type exactly when the session
accepts its flags and its length is within the ceiling. -/
theorem admitHeader_new :
    admitHeader session (.new packetType.asU8 flags payloadLen sequence) = .ok () ↔
      (session.isSome = true → PacketHeader.marksEncrypted flags = true) ∧
        payloadLen.toNat ≤ packetType.maxPayloadSize.toNat + PacketHeader.tagLen flags := by
  by_cases fits : payloadLen.toNat ≤
      packetType.maxPayloadSize.toNat + PacketHeader.tagLen flags
  · rw [admitHeader_new_of_le fits]
    simp [fits]
  · constructor
    · intro admitted
      have secured : session.isSome = true → PacketHeader.marksEncrypted flags = true :=
        (admitHeader_eq_ok_iff.mp admitted).2.1
      have refused : ∃ max, admitHeader session
          (.new packetType.asU8 flags payloadLen sequence) =
            .err (.payloadTooLarge payloadLen max) :=
        admitHeader_new_of_gt secured (Nat.not_le.mp fits)
      rw [admitted] at refused
      rcases refused with ⟨max, impossible⟩
      cases impossible
    · intro possible
      rcases possible with ⟨_, within⟩
      exact absurd within fits

end

/-! ## Frames the reader does not refuse for their size -/

/-- A frame of the given type with `length` bytes of plaintext is not refused as
too large, plain or sealed, in any state of the reader and whatever follows. -/
def FrameFits (packetType : PacketType) (length : Nat) : Prop :=
  ∀ (aead : Aead) (codec : PacketCodec) (flags : UInt8) (sequence : UInt64) (rest : Bytes)
    (ending : IoError) (size max : UInt32),
    (readPacket aead ⟨codec, ⟨(PacketHeader.new packetType.asU8 flags
      (UInt32.ofNat (length + PacketHeader.tagLen flags)) sequence).toBytes.bytes ++ rest,
        ending⟩⟩).1 ≠ .err (.payloadTooLarge size max)

/-- A header the reader admits is not refused for its size later in the read. -/
theorem readPacket_ne_payloadTooLarge {aead : Aead} {codec : PacketCodec} {rest : Bytes}
    {ending : IoError} {header : PacketHeader} {size max : UInt32}
    (notLarge : admitHeader codec.session header ≠ .err (.payloadTooLarge size max)) :
    (readPacket aead ⟨codec, ⟨header.toBytes.bytes ++ rest, ending⟩⟩).1 ≠
      .err (.payloadTooLarge size max) := by
  generalize input : header.toBytes.bytes ++ rest = bytes
  rcases ran : readPacket aead ⟨codec, ⟨bytes, ending⟩⟩ with ⟨result, codec', rest', ending'⟩
  cases readPacket_cases bytes ran with
  | shortHeader => simp
  | refused refuses =>
      rw [header_eq_of_append input, refuses] at notLarge
      simpa using notLarge
  | stale => simp
  | shortPayload => simp
  | frame =>
      intro refused
      cases (openFrame_eq_err_iff.mp refused).2.2

/-- No reader refuses a header with this type, flags and length for its size, in any
state and whatever follows. -/
def NeverTooLarge (packetType : PacketType) (flags : UInt8) (payloadLen : UInt32) : Prop :=
  ∀ (aead : Aead) (codec : PacketCodec) (sequence : UInt64) (rest : Bytes) (ending : IoError)
    (size max : UInt32),
    (readPacket aead ⟨codec, ⟨(PacketHeader.new packetType.asU8 flags payloadLen
      sequence).toBytes.bytes ++ rest, ending⟩⟩).1 ≠ .err (.payloadTooLarge size max)

theorem neverTooLarge_iff {packetType : PacketType} {flags : UInt8} {payloadLen : UInt32} :
    NeverTooLarge packetType flags payloadLen ↔
      payloadLen.toNat ≤ packetType.maxPayloadSize.toNat + PacketHeader.tagLen flags := by
  constructor
  · intro accepted
    by_contra large
    have refused : ∃ max, admitHeader PacketCodec.new.session
        (.new packetType.asU8 flags payloadLen 1) = .err (.payloadTooLarge payloadLen max) :=
      admitHeader_new_of_gt (by simp [PacketCodec.new]) (Nat.not_le.mp large)
    rcases refused with ⟨max, refuses⟩
    have tooLarge := accepted (.ofCalls []) .new 1 [] .earlyEof
    rw [readPacket_of_refused refuses] at tooLarge
    exact tooLarge _ _ rfl
  · intro within aead codec sequence rest ending size max
    apply readPacket_ne_payloadTooLarge
    rw [admitHeader_new_of_le within, Outcome.refuseIf]
    split <;> simp

theorem frameFits_iff {packetType : PacketType} {length : Nat} (small : length + 16 < 2 ^ 32) :
    FrameFits packetType length ↔ length ≤ packetType.maxPayloadSize.toNat := by
  have total (flags : UInt8) : (UInt32.ofNat (length + PacketHeader.tagLen flags)).toNat =
      length + PacketHeader.tagLen flags := by
    have tag := PacketHeader.tagLen_le flags
    exact UInt32.toNat_ofNat_of_lt' (by unfold UInt32.size; omega)
  constructor
  · intro fits
    have plain : NeverTooLarge packetType 0
        (UInt32.ofNat (length + PacketHeader.tagLen 0)) :=
      fun aead codec sequence => fits aead codec 0 sequence
    rw [neverTooLarge_iff, total] at plain
    omega
  · intro within aead codec flags sequence
    have passes : NeverTooLarge packetType flags
        (UInt32.ofNat (length + PacketHeader.tagLen flags)) := by
      rw [neverTooLarge_iff, total]
      omega
    exact passes aead codec sequence

end PacketCodec

end ChatixProtocol
