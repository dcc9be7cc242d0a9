import ChatixProtocol.Codec.Ceilings
import ChatixProtocol.Codec.Writing

/-! # From a write to a read

A frame written within its type's ceiling is read back by a peer in the matching
state, whatever follows it on the stream.
-/

namespace ChatixProtocol.PacketCodec

/-- The peer opens with the key the codec seals with, or neither has a session,
and the peer has not received the codec's next sequence number yet. -/
structure Matches (peer codec : PacketCodec) : Prop where
  keys : peer.session.map (·.inboundKey) = codec.session.map (·.outboundKey)
  fresh : peer.IsFresh codec.nextSendSeq

/-- A caller marks no frame as encrypted before the session exists. -/
def AllowsFlags (codec : PacketCodec) (flags : UInt8) : Prop :=
  codec.session = none → PacketHeader.marksEncrypted flags = false

/-- The packet a reader should obtain for a write. -/
def deliveredPacket (codec : PacketCodec) (packetType : PacketType) (flags : UInt8)
    (payload : Bytes) : RawPacket where
  header := codec.outboundHeader packetType (codec.sessionFlags flags) payload
  payload := payload

theorem Matches.isSome {peer codec : PacketCodec} (matching : peer.Matches codec) :
    peer.session.isSome = codec.session.isSome := by
  have sizes := congrArg Option.isSome matching.keys
  rwa [Option.isSome_map, Option.isSome_map] at sizes

theorem marksEncrypted_sessionFlags {codec : PacketCodec} {flags : UInt8}
    (allowed : codec.AllowsFlags flags) :
    PacketHeader.marksEncrypted (codec.sessionFlags flags) = codec.session.isSome := by
  rw [sessionFlags]
  cases secured : codec.session with
  | none => simpa using allowed secured
  | some cipher => simp

section

variable {aead : Aead} {maxPlaintext : Nat} {codec peer : PacketCodec}
  {packetType : PacketType} {flags : UInt8} {payload : Bytes} {header : PacketHeader}
  {body : Bytes}

theorem outboundFrame_header
    (framed : codec.outboundFrame aead packetType flags payload = some (header, body)) :
    header = codec.outboundHeader packetType (codec.sessionFlags flags) body := by
  rcases Option.map_eq_some_iff.mp framed with ⟨found, _, equal⟩
  cases equal
  rfl

/-- A frame's payload is as long as the plaintext and, under a session, a tag. -/
theorem length_outboundFrame (correct : aead.Correct maxPlaintext)
    (allowed : codec.AllowsFlags flags)
    (framed : codec.outboundFrame aead packetType flags payload = some (header, body)) :
    body.length = payload.length + PacketHeader.tagLen (codec.sessionFlags flags) := by
  have marked := marksEncrypted_sessionFlags allowed
  rcases Option.map_eq_some_iff.mp framed with ⟨found, produced, equal⟩
  cases equal
  rw [PacketHeader.tagLen]
  rw [marked]
  cases secured : codec.session with
  | none =>
      rw [secured] at produced
      cases produced
      rfl
  | some cipher =>
      rw [secured] at produced
      exact correct.length_sealed produced

/-- A matching peer opens a complete frame to the packet that was written. -/
theorem openFrame_outboundFrame (correct : aead.Correct maxPlaintext)
    (matching : peer.Matches codec) (allowed : codec.AllowsFlags flags)
    (framed : codec.outboundFrame aead packetType flags payload = some (header, body)) :
    openFrame aead peer.session header body =
      .ok (codec.deliveredPacket packetType flags payload) := by
  have marked := marksEncrypted_sessionFlags allowed
  have keys := matching.keys
  rcases Option.map_eq_some_iff.mp framed with ⟨found, produced, equal⟩
  cases equal
  rw [openFrame_eq_ok_iff]
  cases secured : codec.session with
  | none =>
      rw [secured] at produced marked
      cases produced
      exact .inl ⟨marked, rfl⟩
  | some cipher =>
      rw [secured, Option.map_some, Option.map_eq_some_iff] at keys
      rw [secured] at produced marked
      rcases keys with ⟨peerCipher, peerSecured, sameKey⟩
      refine .inr ⟨marked, payload, ?_, rfl⟩
      rw [openedPayload, peerSecured, Option.bind_some, sameKey]
      have opened := correct.opens_sealed produced
      rw [sessionFlags]
      rw [secured]
      exact opened

/-- A frame within the ceiling is read back whole, and the stream stands after it. -/
theorem readPacket_outboundFrame (correct : aead.Correct maxPlaintext)
    (matching : peer.Matches codec) (allowed : codec.AllowsFlags flags)
    (fits : payload.length ≤ packetType.maxPayloadSize.toNat)
    (framed : codec.outboundFrame aead packetType flags payload = some (header, body))
    (rest : Bytes) (ending : IoError) :
    readPacket aead ⟨peer, ⟨header.toBytes.bytes ++ (body ++ rest), ending⟩⟩ =
      (.ok (codec.deliveredPacket packetType flags payload),
        ⟨peer.received codec.nextSendSeq, ⟨rest, ending⟩⟩) := by
  have length := length_outboundFrame correct allowed framed
  have bound := packetType.maxPayloadSize_le
  have tag := PacketHeader.tagLen_le (codec.sessionFlags flags)
  have opened := openFrame_outboundFrame correct matching allowed framed
  have built := outboundFrame_header framed
  have announced : (UInt32.ofNat body.length).toNat = body.length :=
    UInt32.toNat_ofNat_of_lt' (by unfold UInt32.size; omega)
  subst built
  have admitted : admitHeader peer.session
      (codec.outboundHeader packetType (codec.sessionFlags flags) body) = .ok () := by
    refine admitHeader_new.mpr ⟨?_, by omega⟩
    rw [marksEncrypted_sessionFlags allowed, matching.isSome]
    exact id
  rw [readPacket_of_frame rest admitted matching.fresh announced.symm, opened]
  rfl

end

end ChatixProtocol.PacketCodec
