import ChatixProtocol.Codec.Reading
import ChatixProtocol.Foundation.Execution

/-! # Where a read leaves the stream

A read refuses most bad frames on their header, before it allocates and reads the
payload. A frame read to its end leaves the stream at the next one, also when its tag
does not verify; a frame refused on its header leaves its payload at the front.
-/

namespace ChatixProtocol

/-- A valid header and the payload it announces. -/
structure Frame where
  header : PacketHeader
  payload : Bytes
  valid : header.validate = .ok ()
  complete : payload.length = header.payloadLen.toNat

namespace Frame

def bytes (frame : Frame) : Bytes :=
  frame.header.toBytes.bytes ++ frame.payload

def allBytes (frames : List Frame) : Bytes :=
  (frames.map bytes).flatten

theorem allBytes_cons (frame : Frame) (frames : List Frame) :
    allBytes (frame :: frames) = frame.bytes ++ allBytes frames :=
  rfl

end Frame

namespace PacketCodec

/-- The codec reads the payload of a frame with this valid header. -/
structure PassesHeader (codec : PacketCodec) (header : PacketHeader) : Prop where
  secured : codec.session.isSome = true → header.isEncrypted = true
  known : ∃ packetType, PacketType.fromU8 header.packetType = .ok packetType ∧
    header.payloadLen ≤ maxForType header packetType
  fresh : codec.IsFresh header.sequence

/-- The errors that end a read between a valid header and its payload. -/
inductive HeaderRefusal (header : PacketHeader) : ProtocolError → Prop
  | encryptionRequired : HeaderRefusal header .encryptionRequired
  | unknownPacketType : HeaderRefusal header (.unknownPacketType header.packetType)
  | payloadTooLarge (max : UInt32) :
      HeaderRefusal header (.payloadTooLarge header.payloadLen max)
  | sequenceViolation (last : UInt64) :
      HeaderRefusal header (.sequenceViolation header.sequence last)

section

variable {aead : Aead} {codec : PacketCodec}

theorem fromU8_eq_err {value : UInt8} {error : ProtocolError}
    (unknown : PacketType.fromU8 value = .err error) : error = .unknownPacketType value := by
  unfold PacketType.fromU8 at unknown
  split at unknown <;> cases unknown
  rfl

/-- A valid header is refused for its flags, its type or its length. -/
theorem headerRefusal_of_admitHeader {session : Option SessionCipher} {header : PacketHeader}
    {error : ProtocolError} (valid : header.validate = .ok ())
    (refuses : admitHeader session header = .err error) : HeaderRefusal header error := by
  rw [admitHeader, valid, Outcome.ok_bind] at refuses
  by_cases plain : session.isSome = true ∧ header.isEncrypted = false
  · rw [Outcome.refuseIf, if_pos plain] at refuses
    cases refuses
    exact .encryptionRequired
  rw [Outcome.refuseIf_of_not plain, Outcome.ok_bind] at refuses
  cases known : PacketType.fromU8 header.packetType with
  | panic => exact absurd known (fromU8_ne_panic _)
  | err found =>
      rw [known] at refuses
      cases refuses
      cases fromU8_eq_err known
      exact .unknownPacketType
  | ok packetType =>
      rw [known, Outcome.ok_bind] at refuses
      by_cases large : maxForType header packetType < header.payloadLen
      · rw [Outcome.refuseIf, if_pos large] at refuses
        cases refuses
        exact .payloadTooLarge _
      · rw [Outcome.refuseIf_of_not large] at refuses
        cases refuses

theorem passesHeader_iff {header : PacketHeader} (valid : header.validate = .ok ()) :
    codec.PassesHeader header ↔
      admitHeader codec.session header = .ok () ∧ codec.IsFresh header.sequence := by
  rw [admitHeader_eq_ok_iff]
  constructor
  · intro passes
    exact ⟨⟨valid, passes.secured, passes.known⟩, passes.fresh⟩
  · intro checks
    rcases checks with ⟨⟨_, secured, known⟩, fresh⟩
    exact ⟨secured, known, fresh⟩

/-! ## One read -/

theorem readPacket_of_passes {frame : Frame} (passes : codec.PassesHeader frame.header)
    (rest : Bytes) (ending : IoError) :
    readPacket aead ⟨codec, ⟨frame.bytes ++ rest, ending⟩⟩ =
      (openFrame aead codec.session frame.header frame.payload,
        ⟨codec.received frame.header.sequence, ⟨rest, ending⟩⟩) := by
  rcases (passesHeader_iff frame.valid).mp passes with ⟨admitted, fresh⟩
  rw [Frame.bytes, List.append_assoc]
  exact readPacket_of_frame rest admitted fresh frame.complete

theorem readPacket_of_not_passes {frame : Frame} (refused : ¬codec.PassesHeader frame.header)
    (rest : Bytes) (ending : IoError) :
    ∃ error, HeaderRefusal frame.header error ∧
      readPacket aead ⟨codec, ⟨frame.bytes ++ rest, ending⟩⟩ =
        (.err error, ⟨codec, ⟨frame.payload ++ rest, ending⟩⟩) := by
  rw [Frame.bytes, List.append_assoc]
  cases admitted : admitHeader codec.session frame.header with
  | panic => exact absurd admitted (admitHeader_ne_panic _ _)
  | err error =>
      exact ⟨error, headerRefusal_of_admitHeader frame.valid admitted,
        readPacket_of_refused admitted⟩
  | ok value =>
      have stale : ¬codec.IsFresh frame.header.sequence :=
        fun fresh => refused ((passesHeader_iff frame.valid).mpr ⟨admitted, fresh⟩)
      rcases not_isFresh_iff.mp stale with ⟨last, known, notNewer⟩
      exact ⟨_, .sequenceViolation last, readPacket_of_stale admitted known notNewer⟩

/-- A read takes its whole frame exactly if there is no payload to take or the header
passes. -/
theorem remaining_readPacket_iff (frame : Frame) (rest : Bytes) (ending : IoError) :
    (readPacket aead ⟨codec, ⟨frame.bytes ++ rest, ending⟩⟩).2.reader.remaining = rest ↔
      frame.payload = [] ∨ codec.PassesHeader frame.header := by
  by_cases passes : codec.PassesHeader frame.header
  · rw [readPacket_of_passes passes]
    simp [passes]
  · rcases @readPacket_of_not_passes aead _ _ passes rest ending with ⟨error, _, ran⟩
    rw [ran]
    simp [passes]

/-- A frame whose header passes is returned or fails to decrypt; any other is refused
on its header. -/
theorem passesHeader_iff_result (frame : Frame) (rest : Bytes) (ending : IoError) :
    codec.PassesHeader frame.header ↔
      ((∃ packet, (readPacket aead ⟨codec, ⟨frame.bytes ++ rest, ending⟩⟩).1 = .ok packet) ∨
        (readPacket aead ⟨codec, ⟨frame.bytes ++ rest, ending⟩⟩).1 = .err .cryptoError) := by
  constructor
  · intro passes
    rw [readPacket_of_passes passes]
    cases opened : openFrame aead codec.session frame.header frame.payload with
    | ok packet => exact .inl ⟨packet, rfl⟩
    | err error =>
        cases (openFrame_eq_err_iff.mp opened).2.2
        exact .inr rfl
    | panic => exact absurd opened openFrame_ne_panic
  · intro result
    by_contra refused
    rcases @readPacket_of_not_passes aead _ _ refused rest ending with ⟨error, kind, ran⟩
    rw [ran] at result
    rcases result with ⟨packet, returned⟩ | failed
    · cases returned
    · cases failed
      cases kind

/-! ## Calls on one stream -/

inductive StreamCall where
  | establish (outboundKey inboundKey : FixedBytes 32)
  | read
  deriving DecidableEq

def callStream (aead : Aead) (state : ReadState) : StreamCall → ReadState
  | .establish outboundKey inboundKey =>
      { state with codec := state.codec.establishSession outboundKey inboundKey }
  | .read => (readPacket aead state).2

def reads (calls : List StreamCall) : Nat :=
  calls.count .read

@[simp] theorem reads_nil : reads [] = 0 := rfl

@[simp] theorem reads_cons_read (calls : List StreamCall) :
    reads (.read :: calls) = reads calls + 1 :=
  List.count_cons_self

/-- The codec after it read a frame or refused its header. -/
def afterFrame (aead : Aead) (codec : PacketCodec) (frame : Frame) : PacketCodec :=
  (readPacket aead ⟨codec, ⟨frame.bytes, .earlyEof⟩⟩).2.codec

/-- Every frame that is read is empty or passes on its header. -/
def Undisturbed (aead : Aead) (codec : PacketCodec) : List StreamCall → List Frame → Prop
  | [], _ => True
  | .establish outboundKey inboundKey :: calls, frames =>
      Undisturbed aead (codec.establishSession outboundKey inboundKey) calls frames
  | .read :: _, [] => True
  | .read :: calls, frame :: frames =>
      (frame.payload = [] ∨ codec.PassesHeader frame.header) ∧
        Undisturbed aead (codec.afterFrame aead frame) calls frames

theorem readPacket_aligned {frame : Frame}
    (whole : frame.payload = [] ∨ codec.PassesHeader frame.header) (rest : Bytes)
    (ending : IoError) :
    (readPacket aead ⟨codec, ⟨frame.bytes ++ rest, ending⟩⟩).2 =
      ⟨codec.afterFrame aead frame, ⟨rest, ending⟩⟩ := by
  have alone := List.append_nil frame.bytes
  by_cases passes : codec.PassesHeader frame.header
  · rw [readPacket_of_passes passes, afterFrame, ← alone, readPacket_of_passes passes]
  · rcases @readPacket_of_not_passes aead _ _ passes rest ending with ⟨_, _, ran⟩
    rcases @readPacket_of_not_passes aead _ _ passes [] .earlyEof with ⟨_, _, ranAlone⟩
    rw [ran, afterFrame, ← alone, ranAlone, whole.resolve_right passes]
    rfl

/-- Every read of the calls begins at a frame, as long as there are frames. -/
def Aligned (aead : Aead) (codec : PacketCodec) (calls : List StreamCall) (frames : List Frame)
    (rest : Bytes) (ending : IoError) : Prop :=
  ∀ made, made <+: calls → reads made ≤ frames.length →
    (Execution.run (callStream aead) ⟨codec, ⟨Frame.allBytes frames ++ rest, ending⟩⟩
      made).reader.remaining = Frame.allBytes (frames.drop (reads made)) ++ rest

theorem aligned_nil (frames : List Frame) (rest : Bytes) (ending : IoError) :
    Aligned aead codec [] frames rest ending := by
  intro made none _
  cases List.prefix_nil.mp none
  rfl

theorem aligned_establish_iff {outboundKey inboundKey : FixedBytes 32} {calls : List StreamCall}
    {frames : List Frame} {rest : Bytes} {ending : IoError} :
    Aligned aead codec (.establish outboundKey inboundKey :: calls) frames rest ending ↔
      Aligned aead (codec.establishSession outboundKey inboundKey) calls frames rest ending := by
  constructor
  · intro aligned made front enough
    exact aligned (.establish outboundKey inboundKey :: made)
      (List.cons_prefix_cons.mpr ⟨rfl, front⟩) enough
  · intro aligned made front enough
    rcases List.prefix_cons_iff.mp front with rfl | ⟨after, rfl, front'⟩
    · rfl
    · exact aligned after front' enough

/-- Without a frame left, nothing is asked of a read. -/
theorem aligned_read_nil (calls : List StreamCall) (rest : Bytes) (ending : IoError) :
    Aligned aead codec (.read :: calls) [] rest ending := by
  intro made front enough
  rcases List.prefix_cons_iff.mp front with rfl | ⟨after, rfl, _⟩
  · rfl
  · rw [reads_cons_read] at enough
    cases enough

theorem aligned_read_iff {calls : List StreamCall} {frame : Frame} {frames : List Frame}
    {rest : Bytes} {ending : IoError} :
    Aligned aead codec (.read :: calls) (frame :: frames) rest ending ↔
      (frame.payload = [] ∨ codec.PassesHeader frame.header) ∧
        Aligned aead (codec.afterFrame aead frame) calls frames rest ending := by
  rw [Aligned, Frame.allBytes_cons, List.append_assoc]
  constructor
  · intro aligned
    have first := aligned [.read] (List.cons_prefix_cons.mpr ⟨rfl, List.nil_prefix⟩)
      (Nat.le_add_left 1 _)
    have whole := (remaining_readPacket_iff frame _ ending).mp first
    refine ⟨whole, ?_⟩
    intro made front enough
    have within : reads (.read :: made) ≤ (frame :: frames).length := by
      rw [reads_cons_read]
      exact Nat.succ_le_succ enough
    have later := aligned (.read :: made) (List.cons_prefix_cons.mpr ⟨rfl, front⟩) within
    rwa [Execution.run_cons, callStream, readPacket_aligned whole, reads_cons_read,
      List.drop_succ_cons] at later
  · intro steps made front enough
    rcases steps with ⟨whole, later⟩
    rcases List.prefix_cons_iff.mp front with rfl | ⟨after, rfl, front'⟩
    · rw [Execution.run_nil, reads_nil, List.drop_zero, Frame.allBytes_cons, List.append_assoc]
    · rw [reads_cons_read] at enough
      rw [Execution.run_cons, callStream, readPacket_aligned whole, reads_cons_read,
        List.drop_succ_cons]
      exact later after front' (Nat.le_of_succ_le_succ enough)

/-- Through any calls, every read begins at a frame exactly as long as every frame
that was read is empty or passed on its header. -/
theorem aligned_iff (calls : List StreamCall) (frames : List Frame) (rest : Bytes)
    (ending : IoError) :
    Aligned aead codec calls frames rest ending ↔ Undisturbed aead codec calls frames := by
  induction calls generalizing codec frames with
  | nil => exact iff_of_true (aligned_nil frames rest ending) trivial
  | cons call calls induction =>
      cases call with
      | establish outboundKey inboundKey =>
          rw [aligned_establish_iff, Undisturbed]
          exact induction frames
      | read =>
          cases frames with
          | nil => exact iff_of_true (aligned_read_nil calls rest ending) trivial
          | cons frame frames =>
              rw [aligned_read_iff, Undisturbed, induction frames]

end

/-- On a stream that begins with a complete frame, one read takes exactly that frame if
and only if the frame is empty or its header passes; the header passes exactly if the
read returns a packet or fails to decrypt it. Otherwise the read refuses the header,
leaves the codec as it was and takes the header alone. Over any sequence of calls, every
read begins at a frame as long as every frame read is empty or passes, and no longer. -/
theorem frame_consumed_iff (aead : Aead) (codec : PacketCodec) (rest : Bytes)
    (ending : IoError) :
    (∀ frame : Frame,
      let ran := readPacket aead ⟨codec, ⟨frame.bytes ++ rest, ending⟩⟩
      (ran.2.reader.remaining = rest ↔ frame.payload = [] ∨ codec.PassesHeader frame.header) ∧
      (codec.PassesHeader frame.header ↔
        ((∃ packet, ran.1 = .ok packet) ∨ ran.1 = .err .cryptoError)) ∧
      (¬codec.PassesHeader frame.header →
        (∃ error, HeaderRefusal frame.header error ∧ ran.1 = .err error) ∧
          ran.2 = ⟨codec, ⟨frame.payload ++ rest, ending⟩⟩)) ∧
    ∀ (calls : List StreamCall) (frames : List Frame),
      (∀ made, made <+: calls → reads made ≤ frames.length →
        (Execution.run (callStream aead) ⟨codec, ⟨Frame.allBytes frames ++ rest, ending⟩⟩
          made).reader.remaining = Frame.allBytes (frames.drop (reads made)) ++ rest) ↔
        Undisturbed aead codec calls frames := by
  constructor
  · intro frame
    refine ⟨remaining_readPacket_iff frame rest ending,
      passesHeader_iff_result frame rest ending, ?_⟩
    intro refused
    rcases @readPacket_of_not_passes aead _ _ refused rest ending with ⟨error, kind, ran⟩
    rw [ran]
    exact ⟨⟨error, kind, rfl⟩, rfl⟩
  · intro calls frames
    exact aligned_iff calls frames rest ending

/-! A frame of an unknown type whose payload is itself a complete frame. -/

def plainPingFrame : Bytes :=
  (PacketHeader.new 20 0 8 1).toBytes.bytes ++ List.replicate 8 7

def nestedFrame : Frame where
  header := .new 99 0 32 1
  payload := plainPingFrame
  valid := by decide
  complete := by decide

/-- The first read refuses the frame, and the next one returns its payload as a packet. -/
theorem nested_frame_returned :
    readPacket (.transparent 65536) ⟨.new, ⟨nestedFrame.bytes ++ [], .earlyEof⟩⟩ =
        (.err (.unknownPacketType 99), ⟨.new, ⟨nestedFrame.payload, .earlyEof⟩⟩) ∧
      nestedFrame.payload ≠ [] ∧
      (readPacket (.transparent 65536) ⟨.new, ⟨nestedFrame.payload, .earlyEof⟩⟩).1 =
        .ok ⟨.new 20 0 8 1, List.replicate 8 7⟩ := by
  decide

end PacketCodec

end ChatixProtocol
