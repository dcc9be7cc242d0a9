import ChatixProtocol.Codec.RoundTrip

/-! # What the writer lets through

A write checks neither the size ceilings nor the flags byte that a read checks,
so it can succeed on a frame every matching reader refuses.
-/

namespace ChatixProtocol.PacketCodec

/-- If the write succeeds, the peer reads the written bytes back as a packet of the
same type and payload. -/
def ReadsBack (aead : Aead) (codec peer : PacketCodec) (packetType : PacketType)
    (flags : UInt8) (payload : Bytes) : Prop :=
  ∀ (writer : Writer) (calls : List SealCall) (written : WriteState),
    writePacket aead packetType flags payload ⟨codec, writer, calls⟩ = (.ok (), written) →
    ∃ frame, written.writer.accepted = writer.accepted ++ frame ∧
      ∀ (rest : Bytes) (ending : IoError), ∃ packet state,
        readPacket aead ⟨peer, ⟨frame ++ rest, ending⟩⟩ = (.ok packet, state) ∧
          packet.header.packetType = packetType.asU8 ∧ packet.payload = payload

/-- The write fails and no byte reaches the stream. -/
def WritesNothing (aead : Aead) (codec : PacketCodec) (packetType : PacketType)
    (flags : UInt8) (payload : Bytes) : Prop :=
  ∀ (writer : Writer) (calls : List SealCall), ∃ error written,
    writePacket aead packetType flags payload ⟨codec, writer, calls⟩ = (.err error, written) ∧
      written.writer = writer

/-- The payload is within its type's ceiling, and no frame is marked as encrypted
without a session. -/
def WithinLimits (codec : PacketCodec) (packetType : PacketType) (flags : UInt8)
    (payload : Bytes) : Prop :=
  payload.length ≤ packetType.maxPayloadSize.toNat ∧ codec.AllowsFlags flags

/-- There is a session, and its cipher cannot seal that much. -/
def Unsealable (maxPlaintext : Nat) (codec : PacketCodec) (payload : Bytes) : Prop :=
  codec.session.isSome = true ∧ maxPlaintext < payload.length

section

variable {aead : Aead} {maxPlaintext : Nat} {codec : PacketCodec} {packetType : PacketType}
  {flags : UInt8} {payload : Bytes} {header : PacketHeader}

theorem length_of_openFrame (correct : aead.Correct maxPlaintext)
    {session : Option SessionCipher} {header : PacketHeader} {body : Bytes}
    {packet : RawPacket} (opened : openFrame aead session header body = .ok packet) :
    body.length = packet.payload.length + PacketHeader.tagLen header.flags := by
  have marked : header.isEncrypted = PacketHeader.marksEncrypted header.flags := rfl
  rw [PacketHeader.tagLen]
  rw [← marked]
  rcases openFrame_eq_ok_iff.mp opened with ⟨plain, rfl⟩ | ⟨encrypted, plaintext, opens, rfl⟩
  · rw [plain]
    rfl
  · rw [encrypted]
    rcases Option.bind_eq_some_iff.mp opens with ⟨cipher, _, opens⟩
    exact correct.length_opened opens

theorem exists_outboundFrame (correct : aead.Correct maxPlaintext)
    (packetType : PacketType) (flags : UInt8)
    (sealable : ¬Unsealable maxPlaintext codec payload) :
    ∃ body, codec.outboundFrame aead packetType flags payload =
      some (codec.outboundHeader packetType (codec.sessionFlags flags) body, body) := by
  cases secured : codec.session with
  | none => exact ⟨payload, by simp [outboundFrame, secured]⟩
  | some cipher =>
      rcases correct.exists_sealed cipher.outboundKey (seqNonce codec.nextSendSeq)
        (headerAad packetType.asU8 (flags ||| Flags.encrypted)).bytes
        (Nat.not_lt.mp fun large => sealable ⟨by rw [secured]; rfl, large⟩) with
        ⟨ciphertext, sealed⟩
      exact ⟨ciphertext, by simp [outboundFrame, secured, sealCall, sealed]⟩

/-- A payload the cipher cannot seal is never sent. -/
theorem outboundFrame_eq_none (correct : aead.Correct maxPlaintext)
    (unsealable : Unsealable maxPlaintext codec payload) :
    codec.outboundFrame aead packetType flags payload = none := by
  rcases unsealable with ⟨secured, large⟩
  rcases Option.isSome_iff_exists.mp secured with ⟨cipher, present⟩
  have refused : (codec.sealCall aead cipher packetType flags payload).sealed = none := by
    rw [← Option.not_isSome_iff_eq_none]
    intro sealed
    exact absurd ((correct.seals _ _ _ _).mp sealed) (Nat.not_le.mpr large)
  simp [outboundFrame, present, refused]

/-- The peer of a codec, before it has received anything. -/
def freshPeer (codec : PacketCodec) : PacketCodec where
  lastRecvSeq := none
  nextSendSeq := 1
  session := codec.session.map fun cipher =>
    { outboundKey := cipher.inboundKey, inboundKey := cipher.outboundKey }

theorem freshPeer_matches (codec : PacketCodec) : codec.freshPeer.Matches codec where
  keys := by simp [freshPeer, Function.comp_def]
  fresh := isFresh_of_none rfl

/-- A frame that is read back was within the ceiling, and its flags byte was allowed. -/
theorem within_limits_of_read (correct : aead.Correct maxPlaintext) {peer : PacketCodec}
    (matching : peer.Matches codec) {body rest : Bytes} {ending : IoError} {packet : RawPacket}
    {state : ReadState}
    (read : readPacket aead ⟨peer,
      ⟨(codec.outboundHeader packetType (codec.sessionFlags flags) body).toBytes.bytes ++ rest,
        ending⟩⟩ = (.ok packet, state)) :
    packet.payload.length ≤ packetType.maxPayloadSize.toNat ∧ codec.AllowsFlags flags := by
  rcases exists_frame_of_readPacket read with
    ⟨header, payload, input, admitted, _, complete, opened, _⟩
  have sameHeader := header_eq_of_append input
  subst sameHeader
  have announced := (admitHeader_new.mp admitted).2
  have sealedLength := length_of_openFrame correct opened
  constructor
  · rw [outboundHeader_payloadLen] at complete
    rw [outboundHeader_flags] at sealedLength
    omega
  · -- Without a session there is no key that opens a marked frame.
    intro plain
    have noSession : peer.session = none := by
      rw [← Option.not_isSome_iff_eq_none, matching.isSome, plain]
      simp
    rcases openFrame_eq_ok_iff.mp opened with ⟨unmarked, _⟩ | ⟨_, plaintext, opens, _⟩
    · simpa [outboundHeader, sessionFlags, plain] using unmarked
    · rw [noSession] at opens
      cases opens

theorem writePacket_of_unfailing {body : Bytes} {writer : Writer} {calls : List SealCall}
    (notLast : codec.nextSendSeq ≠ u64Max) (unfailing : writer.Unfailing)
    (framed : codec.outboundFrame aead packetType flags payload = some (header, body)) :
    writePacket aead packetType flags payload ⟨codec, writer, calls⟩ =
      (.ok (), {
        codec := codec.advanced
        writer := { writer with accepted := writer.accepted ++ (header.toBytes.bytes ++ body) }
        calls := calls ++ codec.sealCalls aead packetType flags payload
      }) := by
  rw [writePacket_eq notLast, framed]
  exact sendFrame_of_unfailing unfailing

theorem writesNothing_of_unsealable (correct : aead.Correct maxPlaintext)
    (notLast : codec.nextSendSeq ≠ u64Max) (unsealable : Unsealable maxPlaintext codec payload) :
    WritesNothing aead codec packetType flags payload := by
  intro writer calls
  rw [writePacket_eq notLast, outboundFrame_eq_none correct unsealable]
  exact ⟨_, _, rfl, rfl⟩

theorem readsBack_of_writesNothing {peer : PacketCodec}
    (nothing : WritesNothing aead codec packetType flags payload) :
    ReadsBack aead codec peer packetType flags payload := by
  intro writer calls written wrote
  rcases nothing writer calls with ⟨error, written', failed, _⟩
  rw [failed] at wrote
  cases wrote

theorem readsBack_of_withinLimits (correct : aead.Correct maxPlaintext) {peer : PacketCodec}
    (notLast : codec.nextSendSeq ≠ u64Max) (matching : peer.Matches codec)
    (within : codec.WithinLimits packetType flags payload)
    (sealable : ¬Unsealable maxPlaintext codec payload) :
    ReadsBack aead codec peer packetType flags payload := by
  intro writer calls written wrote
  rcases exists_outboundFrame correct packetType flags sealable with ⟨body, framed⟩
  rw [writePacket_eq notLast, framed] at wrote
  refine ⟨_, accepted_of_sendFrame wrote, ?_⟩
  intro rest ending
  have read := readPacket_outboundFrame correct matching within.2 within.1 framed rest ending
  rw [List.append_assoc, read]
  exact ⟨_, _, rfl, rfl, rfl⟩

/-- A stream that takes everything. -/
def openStream : Writer where
  accepted := []
  room := none
  flushes := true
  failure := ⟨.other, ""⟩

theorem openStream_unfailing : openStream.Unfailing := ⟨rfl, rfl⟩

theorem withinLimits_of_readsBack (correct : aead.Correct maxPlaintext) {peer : PacketCodec}
    (notLast : codec.nextSendSeq ≠ u64Max) (matching : peer.Matches codec)
    (sealable : ¬Unsealable maxPlaintext codec payload)
    (readsBack : ReadsBack aead codec peer packetType flags payload) :
    codec.WithinLimits packetType flags payload := by
  rcases exists_outboundFrame correct packetType flags sealable with ⟨body, framed⟩
  rcases readsBack openStream [] _
    (writePacket_of_unfailing notLast openStream_unfailing framed) with ⟨frame, accepted, reads⟩
  have sent : frame =
      (codec.outboundHeader packetType (codec.sessionFlags flags) body).toBytes.bytes ++ body :=
    (List.append_cancel_left accepted).symm
  rcases reads [] .earlyEof with ⟨packet, state, read, _, samePayload⟩
  rw [sent, List.append_assoc] at read
  rw [WithinLimits, ← samePayload]
  exact within_limits_of_read correct matching read

/-- The reader takes back what is written, and the writer sends nothing the reader
refuses, exactly for payloads within the limits and for those the cipher refuses. -/
theorem write_readable_iff (correct : aead.Correct maxPlaintext)
    (notLast : codec.nextSendSeq < u64Max) :
    ((∀ peer, peer.Matches codec → ReadsBack aead codec peer packetType flags payload) ↔
      codec.WithinLimits packetType flags payload ∨ Unsealable maxPlaintext codec payload) ∧
    ((¬codec.WithinLimits packetType flags payload →
        WritesNothing aead codec packetType flags payload) ↔
      codec.WithinLimits packetType flags payload ∨ Unsealable maxPlaintext codec payload) := by
  have notMax : codec.nextSendSeq ≠ u64Max := by
    intro last
    rw [last] at notLast
    exact absurd notLast (UInt64.lt_irrefl _)
  by_cases unsealable : Unsealable maxPlaintext codec payload
  · have nothing : WritesNothing aead codec packetType flags payload :=
      writesNothing_of_unsealable correct notMax unsealable
    exact ⟨iff_of_true (fun _ _ => readsBack_of_writesNothing nothing) (.inr unsealable),
      iff_of_true (fun _ => nothing) (.inr unsealable)⟩
  simp only [unsealable, or_false]
  refine ⟨⟨?_, ?_⟩, ⟨?_, fun within outside => absurd within outside⟩⟩
  · intro readsBack
    exact withinLimits_of_readsBack correct notMax codec.freshPeer_matches unsealable
      (readsBack _ codec.freshPeer_matches)
  · intro within peer matching
    exact readsBack_of_withinLimits correct notMax matching within unsealable
  · -- The cipher does not refuse, so a write to an open stream succeeds.
    intro refuses
    by_contra outside
    rcases refuses outside openStream [] with ⟨error, written, failed, _⟩
    rcases exists_outboundFrame correct packetType flags unsealable with ⟨body, framed⟩
    rw [writePacket_of_unfailing notMax openStream_unfailing framed] at failed
    cases failed

theorem full_ping_read_back :
    ReadsBack (.transparent 65536) .new .new .ping 0 (List.replicate 8 0) :=
  (write_readable_iff (Aead.transparent_correct 65536) (by decide)).1.mpr
    (.inl ⟨by decide, fun _ => by decide⟩) .new PacketCodec.new.freshPeer_matches

/-- The peer of a new codec refuses a ping of nine bytes for its size, and any ping
marked as encrypted, but both are written. -/
theorem unreadable_pings_written :
    PacketCodec.new.Matches .new ∧
    (writePacket (.transparent 65536) .ping 0 (List.replicate 9 0) ⟨.new, openStream, []⟩).1 =
      .ok () ∧
    (readPacket (.transparent 65536) ⟨.new, ⟨(writePacket (.transparent 65536) .ping 0
      (List.replicate 9 0) ⟨.new, openStream, []⟩).2.writer.accepted, .earlyEof⟩⟩).1 =
        .err (.payloadTooLarge 9 8) ∧
    (writePacket (.transparent 65536) .ping Flags.encrypted [] ⟨.new, openStream, []⟩).1 =
      .ok () ∧
    (readPacket (.transparent 65536) ⟨.new, ⟨(writePacket (.transparent 65536) .ping
      Flags.encrypted [] ⟨.new, openStream, []⟩).2.writer.accepted, .earlyEof⟩⟩).1 =
        .err .cryptoError :=
  ⟨PacketCodec.new.freshPeer_matches, by decide, by decide, by decide, by decide⟩

end

end ChatixProtocol.PacketCodec
