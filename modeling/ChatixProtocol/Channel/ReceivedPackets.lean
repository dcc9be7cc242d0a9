import ChatixProtocol.Codec.Ceilings
import ChatixProtocol.Codec.Framing

/-! # What a codec hands up

A codec reads whatever bytes it is given, and its session is established at any
time. Every packet it returns is well formed and newer than all before it.
-/

namespace ChatixProtocol

/-- A packet a read returned, and whether the session existed at that time. -/
structure HandedPacket where
  packet : RawPacket
  secured : Bool
  deriving DecidableEq

namespace HandedPacket

def sequence (handed : HandedPacket) : UInt64 :=
  handed.packet.header.sequence

/-- The header is valid and describes the payload, the payload is within the limit of
a known type, and the packet was encrypted exactly when there was a session. -/
structure WellFormed (handed : HandedPacket) : Prop where
  valid : handed.packet.header.validate = .ok ()
  known : ∃ packetType, PacketType.fromU8 handed.packet.header.packetType = .ok packetType ∧
    handed.packet.payload.length ≤ packetType.maxPayloadSize.toNat
  length : handed.packet.payload.length = handed.packet.header.payloadLen.toNat
  encrypted : handed.packet.header.isEncrypted = handed.secured

end HandedPacket

structure Receiver where
  codec : PacketCodec
  returned : List HandedPacket
  deriving DecidableEq

inductive ReceiverEvent where
  | establish (outboundKey inboundKey : FixedBytes 32)
  | read (reader : Reader)
  deriving DecidableEq

namespace Receiver

def read (aead : Aead) (receiver : Receiver) (reader : Reader) : Receiver :=
  let ran := PacketCodec.readPacket aead ⟨receiver.codec, reader⟩
  {
    codec := ran.2.codec
    returned :=
      match ran.1 with
      | .ok packet => receiver.returned ++ [⟨packet, receiver.codec.session.isSome⟩]
      | _ => receiver.returned
  }

def step (aead : Aead) (receiver : Receiver) : ReceiverEvent → Receiver
  | .establish outboundKey inboundKey =>
      { receiver with codec := receiver.codec.establishSession outboundKey inboundKey }
  | .read reader => receiver.read aead reader

/-- What a codec has returned after the given calls. -/
def after (aead : Aead) (codec : PacketCodec) (events : List ReceiverEvent) : Receiver :=
  Execution.run (step aead) { codec, returned := [] } events

end Receiver

/-! ## One packet -/

namespace PacketCodec

theorem validate_of_shorter {header : PacketHeader} (valid : header.validate = .ok ())
    {payloadLen : UInt32} (shorter : payloadLen ≤ header.payloadLen) :
    { header with payloadLen := payloadLen }.validate = .ok () := by
  rcases PacketHeader.validate_eq_ok_iff.mp valid with ⟨within, built⟩
  rw [built]
  exact PacketHeader.validate_new.mpr (UInt32.le_trans shorter within)

theorem wellFormed_of_openFrame {aead : Aead} (stripsTag : aead.StripsTag)
    {session : Option SessionCipher} {header : PacketHeader} {payload : Bytes}
    {packet : RawPacket} (admitted : admitHeader session header = .ok ())
    (complete : payload.length = header.payloadLen.toNat)
    (opened : openFrame aead session header payload = .ok packet) :
    HandedPacket.WellFormed ⟨packet, session.isSome⟩ := by
  rcases admitHeader_eq_ok_iff.mp admitted with ⟨valid, marked, packetType, known, fits⟩
  rw [UInt32.le_iff_toNat_le, toNat_maxForType] at fits
  rcases openFrame_eq_ok_iff.mp opened with ⟨plain, rfl⟩ | ⟨encrypted, plaintext, opens, rfl⟩
  · have untagged : PacketHeader.tagLen header.flags = 0 := if_neg (Bool.eq_false_iff.mp plain)
    have unsecured : session.isSome = false := by
      by_contra secured
      rw [marked (Bool.not_eq_false _ |>.mp secured)] at plain
      cases plain
    have small : payload.length ≤ packetType.maxPayloadSize.toNat := by omega
    exact {
      valid
      known := ⟨packetType, known, small⟩
      length := complete
      encrypted := plain.trans unsecured.symm
    }
  · rcases Option.bind_eq_some_iff.mp opens with ⟨cipher, secured, inPlace⟩
    have length := stripsTag inPlace
    have tagged : PacketHeader.tagLen header.flags = gcmTagLen := if_pos encrypted
    have announced : (UInt32.ofNat plaintext.length).toNat = plaintext.length := by
      have bound := header.payloadLen.toNat_lt
      exact UInt32.toNat_ofNat_of_lt' (by unfold UInt32.size; omega)
    have small : plaintext.length ≤ packetType.maxPayloadSize.toNat := by omega
    have shorter : UInt32.ofNat plaintext.length ≤ header.payloadLen := by
      rw [UInt32.le_iff_toNat_le, announced]
      omega
    exact {
      valid := validate_of_shorter valid shorter
      known := ⟨packetType, known, small⟩
      length := announced.symm
      encrypted := by
        rw [secured]
        exact encrypted
    }

theorem not_isFresh_received {codec : PacketCodec} {seq next : UInt64}
    (seen : ¬codec.IsFresh seq) (fresh : codec.IsFresh next) :
    ¬(codec.received next).IsFresh seq := by
  rcases not_isFresh_iff.mp seen with ⟨last, known, notNewer⟩
  have older : seq < next := UInt64.lt_of_le_of_lt notNewer (fresh last known)
  exact not_isFresh_iff.mpr ⟨next, rfl, UInt64.le_of_lt older⟩

end PacketCodec

/-! ## Whole runs -/

namespace Receiver

/-- Every returned packet is well formed, newer than those before it, and no longer
fresh. -/
structure Sound (receiver : Receiver) : Prop where
  wellFormed : ∀ handed ∈ receiver.returned, handed.WellFormed
  increasing : Execution.Increasing (·.sequence.toNat) receiver.returned
  seen : ∀ handed ∈ receiver.returned, ¬receiver.codec.IsFresh handed.sequence

variable {aead : Aead} {receiver : Receiver}

theorem Sound.of_silent (sound : receiver.Sound) {codec : PacketCodec}
    (window : codec.lastRecvSeq = receiver.codec.lastRecvSeq ∨
      ∃ next, receiver.codec.IsFresh next ∧ codec = receiver.codec.received next) :
    Sound { receiver with codec } where
  wellFormed := sound.wellFormed
  increasing := sound.increasing
  seen := by
    intro handed member
    rcases window with kept | ⟨next, fresh, rfl⟩
    · rw [PacketCodec.IsFresh, kept]
      exact sound.seen handed member
    · exact PacketCodec.not_isFresh_received (sound.seen handed member) fresh

theorem Sound.of_returned (sound : receiver.Sound) {handed : HandedPacket}
    (wellFormed : handed.WellFormed) (fresh : receiver.codec.IsFresh handed.sequence) :
    Sound {
      codec := receiver.codec.received handed.sequence
      returned := receiver.returned ++ [handed]
    } where
  wellFormed := by
    intro other member
    rcases List.mem_append.mp member with earlier | now
    · exact sound.wellFormed other earlier
    · cases List.mem_singleton.mp now
      exact wellFormed
  increasing := by
    apply sound.increasing.concat
    intro earlier member
    rcases PacketCodec.not_isFresh_iff.mp (sound.seen earlier member) with ⟨last, known, old⟩
    exact UInt64.lt_iff_toNat_lt.mp (UInt64.lt_of_le_of_lt old (fresh last known))
  seen := by
    intro other member
    rcases List.mem_append.mp member with earlier | now
    · exact PacketCodec.not_isFresh_received (sound.seen other earlier) fresh
    · cases List.mem_singleton.mp now
      exact PacketCodec.not_isFresh_iff.mpr ⟨handed.sequence, rfl, UInt64.le_refl _⟩

theorem Sound.read (stripsTag : aead.StripsTag) (sound : receiver.Sound) (reader : Reader) :
    (receiver.read aead reader).Sound := by
  rcases reader with ⟨input, ending⟩
  rw [Receiver.read]
  rcases ran : PacketCodec.readPacket aead ⟨receiver.codec, input, ending⟩ with
    ⟨result, codec', rest, ending'⟩
  cases PacketCodec.readPacket_cases input ran with
  | shortHeader => exact sound.of_silent (.inl rfl)
  | refused => exact sound.of_silent (.inl rfl)
  | stale => exact sound.of_silent (.inl rfl)
  | shortPayload _ fresh => exact sound.of_silent (.inr ⟨_, fresh, rfl⟩)
  | @frame header payload _ admitted fresh complete =>
      cases opened : PacketCodec.openFrame aead receiver.codec.session header payload with
      | panic => exact sound.of_silent (.inr ⟨_, fresh, rfl⟩)
      | err error => exact sound.of_silent (.inr ⟨_, fresh, rfl⟩)
      | ok packet =>
          have wellFormed := PacketCodec.wellFormed_of_openFrame stripsTag admitted complete opened
          have sameSequence := PacketCodec.openFrame_sequence opened
          rw [← sameSequence] at fresh ⊢
          exact sound.of_returned wellFormed fresh

theorem Sound.step (stripsTag : aead.StripsTag) (sound : receiver.Sound)
    (event : ReceiverEvent) : (receiver.step aead event).Sound := by
  cases event with
  | establish outboundKey inboundKey => exact sound.of_silent (.inl rfl)
  | read reader => exact sound.read stripsTag reader

theorem start_sound (codec : PacketCodec) : Sound { codec, returned := [] } where
  wellFormed := by simp
  increasing := List.Pairwise.nil
  seen := by simp

theorem after_sound (stripsTag : aead.StripsTag) (codec : PacketCodec)
    (events : List ReceiverEvent) : (after aead codec events).Sound :=
  Execution.run_invariant Sound (fun _ event sound => sound.step stripsTag event)
    (start_sound codec) events

theorem session_step (aead : Aead) (receiver : Receiver) (event : ReceiverEvent) :
    (receiver.step aead event).codec.session.isSome = true ↔
      receiver.codec.session.isSome = true ∨
        ∃ outboundKey inboundKey, event = .establish outboundKey inboundKey := by
  cases event with
  | establish outboundKey inboundKey => simp [step, PacketCodec.establishSession]
  | read reader =>
      have kept := (PacketCodec.readPacket_session aead ⟨receiver.codec, reader⟩).1
      simp [step, Receiver.read, kept]

/-- What a read returns is on record as secured exactly if the codec began with a session or
called `establish_session` before. -/
theorem returned_after_read (aead : Aead) (codec : PacketCodec) (events : List ReceiverEvent)
    (reader : Reader) {packet : RawPacket}
    (returned : (PacketCodec.readPacket aead ⟨(after aead codec events).codec, reader⟩).1 =
      .ok packet) :
    ∃ secured, (after aead codec (events ++ [.read reader])).returned =
        (after aead codec events).returned ++ [⟨packet, secured⟩] ∧
      (secured = true ↔ codec.session.isSome = true ∨
        ∃ event ∈ events, ∃ outboundKey inboundKey, event = .establish outboundKey inboundKey) := by
  have reached : after aead codec (events ++ [.read reader]) =
      (after aead codec events).read aead reader :=
    Execution.run_append _ _ _ _
  refine ⟨(after aead codec events).codec.session.isSome, ?_, ?_⟩
  · rw [reached, Receiver.read]
    dsimp only
    rw [returned]
  · exact Execution.run_iff (fun receiver : Receiver => receiver.codec.session.isSome = true)
      (fun event => ∃ outboundKey inboundKey, event = .establish outboundKey inboundKey)
      (session_step aead) _ events

/-- A frame that is not newer than a returned packet is never returned. -/
theorem Sound.refuses (sound : receiver.Sound) {handed : HandedPacket}
    (member : handed ∈ receiver.returned) {header : PacketHeader}
    (old : header.sequence ≤ handed.sequence) (rest : Bytes) (ending : IoError)
    (packet : RawPacket) :
    (PacketCodec.readPacket aead
      ⟨receiver.codec, ⟨header.toBytes.bytes ++ rest, ending⟩⟩).1 ≠ .ok packet := by
  intro returned
  rcases PacketCodec.exists_frame_of_readPacket (Prod.ext returned rfl) with
    ⟨found, payload, framed, _, fresh, _⟩
  cases PacketCodec.header_eq_of_append framed
  rcases PacketCodec.not_isFresh_iff.mp (sound.seen handed member) with ⟨last, known, notNewer⟩
  exact UInt64.not_lt.mpr (UInt64.le_trans old notNewer) (fresh last known)

end Receiver

/-- Over any run of reads and session establishments, every returned packet has a
valid header, a known type, the announced number of bytes within its type's limit, the
encryption flag exactly if the session existed, and a greater sequence number than the
packets before it. No frame with the number of a returned packet, or a lower one, is
returned again. -/
theorem returned_packets_wellFormed (aead : Aead) (stripsTag : aead.StripsTag)
    (codec : PacketCodec) (events : List ReceiverEvent) :
    let reached := Receiver.after aead codec events
    (∀ handed ∈ reached.returned,
      handed.packet.header.validate = .ok () ∧
      (∃ packetType, PacketType.fromU8 handed.packet.header.packetType = .ok packetType ∧
        handed.packet.payload.length = handed.packet.header.payloadLen.toNat ∧
        handed.packet.payload.length ≤ packetType.maxPayloadSize.toNat) ∧
      handed.packet.header.isEncrypted = handed.secured) ∧
    reached.returned.Pairwise (fun earlier later =>
      earlier.packet.header.sequence < later.packet.header.sequence) ∧
    ∀ handed ∈ reached.returned, ∀ header : PacketHeader,
      header.sequence ≤ handed.packet.header.sequence →
      ∀ (rest : Bytes) (ending : IoError) (packet : RawPacket),
        (PacketCodec.readPacket aead
          ⟨reached.codec, ⟨header.toBytes.bytes ++ rest, ending⟩⟩).1 ≠ .ok packet := by
  have sound := Receiver.after_sound stripsTag codec events
  refine ⟨?_, ?_, ?_⟩
  · intro handed member
    have formed := sound.wellFormed handed member
    rcases formed.known with ⟨packetType, known, fits⟩
    exact ⟨formed.valid, ⟨packetType, known, formed.length, fits⟩, formed.encrypted⟩
  · exact sound.increasing.imp fun older => UInt64.lt_iff_toNat_lt.mpr older
  · intro handed member header old
    exact sound.refuses member old

/-! A ping read in plaintext, then again, before and after the session exists. -/

def replayedPlainPing : List ReceiverEvent :=
  let ping : Reader := ⟨PacketCodec.plainPingFrame, .earlyEof⟩
  [.read ping, .read ping, .establish (.replicate 32 1) (.replicate 32 2), .read ping]

theorem plain_ping_returned_once :
    let reached := Receiver.after (.transparent 65536) .new replayedPlainPing
    reached.returned.length = 1 ∧
      ∀ handed ∈ reached.returned,
        handed.packet.header.validate = .ok () ∧
        (∃ packetType, PacketType.fromU8 handed.packet.header.packetType = .ok packetType ∧
          handed.packet.payload.length = handed.packet.header.payloadLen.toNat ∧
          handed.packet.payload.length ≤ packetType.maxPayloadSize.toNat) ∧
        handed.packet.header.isEncrypted = handed.secured :=
  ⟨by decide, (returned_packets_wellFormed (.transparent 65536)
    (Aead.transparent_correct 65536).stripsTag .new replayedPlainPing).1⟩

end ChatixProtocol
