import ChatixProtocol.Error

/-! # Packet headers -/

namespace ChatixProtocol

/-- `b"CHTX"` -/
def chatixMagic : FixedBytes 4 :=
  ⟨[0x43, 0x48, 0x54, 0x58], rfl⟩

def chatixVersion : UInt8 := 1

def chatixHeaderLen : UInt8 := 24

def chatixHeaderSize : Nat := 24

def maxPayloadLen : UInt32 := 1024 * 1024

/-- The one defined bit of a header's flags byte. -/
def Flags.encrypted : UInt8 := 1

structure PacketHeader where
  magic : FixedBytes 4
  version : UInt8
  packetType : UInt8
  flags : UInt8
  headerLen : UInt8
  payloadLen : UInt32
  sequence : UInt64
  reserved : UInt32
  deriving DecidableEq

namespace PacketHeader

def new (packetType flags : UInt8) (payloadLen : UInt32) (sequence : UInt64) :
    PacketHeader where
  magic := chatixMagic
  version := chatixVersion
  packetType := packetType
  flags := flags
  headerLen := chatixHeaderLen
  payloadLen := payloadLen
  sequence := sequence
  reserved := 0

def toBytes (header : PacketHeader) : FixedBytes chatixHeaderSize where
  bytes := header.magic.bytes ++ header.version :: header.packetType :: header.flags ::
    header.headerLen :: ((u32ToBeBytes header.payloadLen).bytes ++
      ((u64ToBeBytes header.sequence).bytes ++ (u32ToBeBytes header.reserved).bytes))
  length_bytes := by simp [chatixHeaderSize]

def fromBytes (bytes : FixedBytes chatixHeaderSize) : PacketHeader where
  magic := bytes.window 0 4 (by decide)
  version := bytes.get ⟨4, by decide⟩
  packetType := bytes.get ⟨5, by decide⟩
  flags := bytes.get ⟨6, by decide⟩
  headerLen := bytes.get ⟨7, by decide⟩
  payloadLen := u32FromBeBytes (bytes.window 8 4 (by decide))
  sequence := u64FromBeBytes (bytes.window 12 8 (by decide))
  reserved := u32FromBeBytes (bytes.window 20 4 (by decide))

def validate (header : PacketHeader) : Outcome ProtocolError Unit := do
  .refuseIf (header.magic ≠ chatixMagic) .invalidMagic
  .refuseIf (header.version ≠ chatixVersion) (.unsupportedVersion header.version)
  .refuseIf (header.headerLen ≠ chatixHeaderLen) .invalidHeaderLength
  .refuseIf (maxPayloadLen < header.payloadLen)
    (.payloadTooLarge header.payloadLen maxPayloadLen)
  .refuseIf (header.reserved ≠ 0) .reservedFieldNonZero

def isEncrypted (header : PacketHeader) : Bool :=
  header.flags &&& Flags.encrypted != 0

/-! ## The byte form -/

theorem toBytes_fromBytes (array : FixedBytes chatixHeaderSize) :
    (fromBytes array).toBytes = array := by
  apply FixedBytes.ext
  have split := array.drop_eq_window_append 0 4 (by decide)
  rw [array.drop_eq_get_cons ⟨4, by decide⟩, array.drop_eq_get_cons ⟨5, by decide⟩,
    array.drop_eq_get_cons ⟨6, by decide⟩, array.drop_eq_get_cons ⟨7, by decide⟩,
    array.drop_eq_window_append 8 4 (by decide), array.drop_eq_window_append 12 8 (by decide),
    array.drop_eq_window_append 20 4 (by decide), List.drop_of_length_le (i := 20 + 4)
      (by rw [array.length_bytes]; decide), List.append_nil] at split
  simp only [toBytes, fromBytes, u32ToBeBytes_fromBeBytes, u64ToBeBytes_fromBeBytes]
  exact split.symm

theorem toBytes_injective : Function.Injective toBytes := by
  rintro ⟨magic, version, type, flags, headerLen, payloadLen, sequence, reserved⟩
    ⟨magic', version', type', flags', headerLen', payloadLen', sequence', reserved'⟩ equal
  have fields := congrArg FixedBytes.bytes equal
  simp only [toBytes, FixedBytes.append_inj, List.cons.injEq] at fields
  rcases fields with ⟨rfl, rfl, rfl, rfl, rfl, lengths, sequences, reserveds⟩
  rw [Function.LeftInverse.injective u32FromBeBytes_toBeBytes lengths,
    u64ToBeBytes_injective sequences,
    Function.LeftInverse.injective u32FromBeBytes_toBeBytes (FixedBytes.ext reserveds)]

@[simp] theorem fromBytes_toBytes (header : PacketHeader) :
    fromBytes header.toBytes = header :=
  toBytes_injective (toBytes_fromBytes header.toBytes)

theorem fromBytes_injective : Function.Injective fromBytes :=
  Function.LeftInverse.injective toBytes_fromBytes

/-! ## Validation -/

/-- A valid header is one that `new` builds, within the global payload cap. -/
theorem validate_eq_ok_iff {header : PacketHeader} {value : Unit} :
    header.validate = .ok value ↔
      header.payloadLen ≤ maxPayloadLen ∧
        header = new header.packetType header.flags header.payloadLen header.sequence := by
  rcases header with ⟨magic, version, type, flags, headerLen, payloadLen, sequence, reserved⟩
  simp only [validate, Outcome.bind_eq_ok_iff, Outcome.refuseIf_eq_ok_iff, new, ne_eq, not_not,
    exists_const, mk.injEq, true_and, UInt32.not_lt]
  tauto

@[simp] theorem validate_new {packetType flags : UInt8} {payloadLen : UInt32}
    {sequence : UInt64} :
    (new packetType flags payloadLen sequence).validate = .ok () ↔
      payloadLen ≤ maxPayloadLen := by
  simp [validate_eq_ok_iff, new]

/-- Parsing then validating accepts exactly the byte forms of the headers `new` builds within
the global payload cap, each for one choice of its four arguments. On all headers and all
arrays, parsing and the byte form are inverse to each other. -/
theorem parse_accepts_iff :
    (∀ array : FixedBytes chatixHeaderSize,
      ((fromBytes array).validate = .ok () ↔
        ∃ packetType flags payloadLen sequence, payloadLen ≤ maxPayloadLen ∧
          array = (new packetType flags payloadLen sequence).toBytes) ∧
      ∀ packetType flags payloadLen sequence,
        array = (new packetType flags payloadLen sequence).toBytes →
          packetType = (fromBytes array).packetType ∧ flags = (fromBytes array).flags ∧
            payloadLen = (fromBytes array).payloadLen ∧
            sequence = (fromBytes array).sequence) ∧
    (∀ header : PacketHeader, fromBytes header.toBytes = header) ∧
    (∀ array : FixedBytes chatixHeaderSize, (fromBytes array).toBytes = array) ∧
    Function.Injective fromBytes := by
  refine ⟨?_, fromBytes_toBytes, toBytes_fromBytes, fromBytes_injective⟩
  intro array
  refine ⟨⟨?_, ?_⟩, ?_⟩
  · intro accepted
    rcases validate_eq_ok_iff.mp accepted with ⟨within, built⟩
    refine ⟨(fromBytes array).packetType, (fromBytes array).flags, (fromBytes array).payloadLen,
      (fromBytes array).sequence, within, ?_⟩
    rw [← built, toBytes_fromBytes]
  · intro written
    rcases written with ⟨packetType, flags, payloadLen, sequence, within, rfl⟩
    rw [fromBytes_toBytes, validate_new]
    exact within
  · intro packetType flags payloadLen sequence written
    rw [written, fromBytes_toBytes]
    exact ⟨rfl, rfl, rfl, rfl⟩

theorem validate_ne_panic (header : PacketHeader) : header.validate ≠ .panic := by
  simp only [validate, Outcome.refuseIf]
  split_ifs <;> simp

end PacketHeader

end ChatixProtocol
