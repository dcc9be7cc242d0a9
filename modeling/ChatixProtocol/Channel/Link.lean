import ChatixProtocol.Channel.Dialogue
import ChatixProtocol.Handshake.Gate

/-! # A connection and its callers

Each side of a connection holds a codec and a connection state. What one side
writes the other reads, checks against its state and takes note of. A packet gets
through exactly if its payload is within the limit of its type and the other side
waits for such a packet.
-/

namespace ChatixProtocol

structure Link where
  codec : Role → PacketCodec
  state : Role → ConnectionState

namespace Link

/-- Both sides have just connected. -/
def new : Link where
  codec _ := .new
  state := .initial

def setCodec (link : Link) (role : Role) (codec : PacketCodec) : Link :=
  { link with codec := Function.update link.codec role codec }

def setState (link : Link) (role : Role) (state : ConnectionState) : Link :=
  { link with state := Function.update link.state role state }

/-- One side sets its session. -/
def establish (role : Role) (keys : SessionKeys) (link : Link) : Link :=
  link.setCodec role
    ((link.codec role).establishSession (keys.outbound role) (keys.inbound role))

/-- The bytes that one side's stream takes for a packet. -/
def write (aead : Aead) (sender : Role) (packetType : PacketType) (flags : UInt8)
    (payload : Bytes) : Effect Link ProtocolError Bytes := fun link =>
  let ran := PacketCodec.writePacket aead packetType flags payload
    ⟨link.codec sender, PacketCodec.openStream, []⟩
  (ran.1 >>= fun _ => pure ran.2.writer.accepted, link.setCodec sender ran.2.codec)

def read (aead : Aead) (receiver : Role) (bytes : Bytes) :
    Effect Link ProtocolError RawPacket := fun link =>
  let ran := PacketCodec.readPacket aead ⟨link.codec receiver, ⟨bytes, .earlyEof⟩⟩
  (ran.1, link.setCodec receiver ran.2.codec)

/-- Validate a packet that was read, and advance. -/
def takeNote (receiver : Role) (packet : RawPacket) : Effect Link ProtocolError Unit := do
  let link ← .get
  let next ← .lift (do
    let packetType ← PacketType.fromU8 packet.header.packetType
    (link.state receiver).receive receiver packetType)
  .modify fun link => link.setState receiver next

/-- Write a packet on one side and receive it on the other. -/
def carry (aead : Aead) (sender : Role) (packetType : PacketType) (flags : UInt8)
    (payload : Bytes) : Effect Link ProtocolError RawPacket := do
  let bytes ← write aead sender packetType flags payload
  let packet ← read aead sender.peer bytes
  takeNote sender.peer packet
  pure packet

/-- The link after a packet got through. -/
def carried (link : Link) (sender : Role) (next : ConnectionState) : Link :=
  let number := (link.codec sender).nextSendSeq
  ((link.setCodec sender (link.codec sender).advanced).setCodec sender.peer
    ((link.codec sender.peer).received number)).setState sender.peer next

/-! ## One packet -/

section

variable {aead : Aead} {maxPlaintext : Nat} {link after : Link} {sender : Role}
  {packetType : PacketType} {flags : UInt8} {payload : Bytes}

theorem setCodec_peer (link : Link) (role : Role) (codec : PacketCodec) :
    (link.setCodec role codec).codec role.peer = link.codec role.peer :=
  Function.update_of_ne (Role.peer_ne role) ..

theorem carried_codec_sender (link : Link) (sender : Role) (next : ConnectionState) :
    (link.carried sender next).codec sender = (link.codec sender).advanced := by
  simp [carried, setState, setCodec, (Role.peer_ne sender).symm]

theorem carried_codec_peer (link : Link) (sender : Role) (next : ConnectionState) :
    (link.carried sender next).codec sender.peer =
      (link.codec sender.peer).received (link.codec sender).nextSendSeq := by
  simp [carried, setState, setCodec]

theorem carried_state_sender (link : Link) (sender : Role) (next : ConnectionState) :
    (link.carried sender next).state sender = link.state sender := by
  simp [carried, setState, setCodec, (Role.peer_ne sender).symm]

theorem carried_state_peer (link : Link) (sender : Role) (next : ConnectionState) :
    (link.carried sender next).state sender.peer = next := by
  simp [carried, setState]

theorem takeNote_eq_ok_iff {packet : RawPacket} {value : Unit} :
    takeNote sender packet link = (.ok value, after) ↔
      ∃ packetType next, PacketType.fromU8 packet.header.packetType = .ok packetType ∧
        (link.state sender).receive sender packetType = .ok next ∧
        after = link.setState sender next := by
  simp only [takeNote, Effect.bind_eq_ok_iff, Effect.get_apply, Effect.lift_apply,
    Effect.modify_apply, Prod.mk.injEq, Outcome.ok.injEq, Outcome.bind_eq_ok_iff]
  constructor
  · intro admitted
    rcases admitted with ⟨_, _, ⟨rfl, rfl⟩, next, _, ⟨⟨packetType, known, receives⟩, rfl⟩, _, rfl⟩
    exact ⟨packetType, next, known, receives, rfl⟩
  · intro admitted
    rcases admitted with ⟨packetType, next, known, receives, rfl⟩
    exact ⟨link, link, ⟨rfl, rfl⟩, next, link, ⟨⟨packetType, known, receives⟩, rfl⟩, trivial, rfl⟩

/-- A packet within its limits is written and read. -/
theorem write_read (correct : aead.Correct maxPlaintext) (large : 65536 ≤ maxPlaintext)
    (matching : (link.codec sender.peer).Matches (link.codec sender))
    (notLast : (link.codec sender).nextSendSeq ≠ u64Max)
    (within : (link.codec sender).WithinLimits packetType flags payload) :
    ∃ bytes, write aead sender packetType flags payload link =
        (.ok bytes, link.setCodec sender (link.codec sender).advanced) ∧
      read aead sender.peer bytes (link.setCodec sender (link.codec sender).advanced) =
        (.ok ((link.codec sender).deliveredPacket packetType flags payload),
          (link.setCodec sender (link.codec sender).advanced).setCodec sender.peer
            ((link.codec sender.peer).received (link.codec sender).nextSendSeq)) := by
  rcases PacketCodec.exists_sendsFrame correct large notLast within with ⟨frame, sends⟩
  have written := sends.written PacketCodec.openStream [] PacketCodec.openStream_unfailing
  have arrives := sends.read _ [] .earlyEof matching
  rw [List.append_nil] at arrives
  refine ⟨frame, ?_, ?_⟩
  · rw [write, written]
    rfl
  · rw [read, setCodec_peer, arrives]

/-- What is written and read was within its limits, unless it is too long for the
length field. -/
theorem within_of_write_read (correct : aead.Correct maxPlaintext)
    (matching : (link.codec sender.peer).Matches (link.codec sender))
    (short : payload.length + 16 < 2 ^ 32) {bytes : Bytes} {packet : RawPacket} {middle : Link}
    (writes : write aead sender packetType flags payload link = (.ok bytes, middle))
    (reads : (read aead sender.peer bytes middle).1 = .ok packet) :
    (link.codec sender).nextSendSeq ≠ u64Max ∧
      (link.codec sender).WithinLimits packetType flags payload := by
  simp only [write, Prod.mk.injEq] at writes
  rcases writes with ⟨outcome, rfl⟩
  rcases Outcome.bind_eq_ok_iff.mp outcome with ⟨_, succeeds, accepted⟩
  cases accepted
  have notLast : (link.codec sender).nextSendSeq ≠ u64Max := by
    intro last
    rw [PacketCodec.writePacket_of_exhausted last] at succeeds
    cases succeeds
  have sealable : ¬PacketCodec.Unsealable maxPlaintext (link.codec sender) payload := by
    intro unsealable
    rw [PacketCodec.writePacket_eq notLast,
      PacketCodec.outboundFrame_eq_none correct unsealable] at succeeds
    cases succeeds
  rcases PacketCodec.exists_outboundFrame correct packetType flags sealable with ⟨body, framed⟩
  have written : PacketCodec.writePacket aead packetType flags payload
      ⟨link.codec sender, PacketCodec.openStream, []⟩ = _ :=
    PacketCodec.writePacket_of_unfailing notLast PacketCodec.openStream_unfailing framed
  rw [written, read, setCodec_peer] at reads
  generalize read : PacketCodec.readPacket aead _ = result at reads
  rcases result with ⟨outcome, reached⟩
  cases (reads : outcome = .ok packet)
  have allowed := (PacketCodec.within_limits_of_read correct matching read).2
  rcases PacketCodec.exists_frame_of_readPacket read with ⟨header, payload', input, admitted, _⟩
  cases PacketCodec.header_eq_of_append input
  have announced := (PacketCodec.admitHeader_new.mp admitted).2
  have length := PacketCodec.length_outboundFrame correct allowed framed
  have tag := PacketHeader.tagLen_le ((link.codec sender).sessionFlags flags)
  rw [UInt32.toNat_ofNat_of_lt' (by unfold UInt32.size; omega)] at announced
  exact ⟨notLast, by omega, allowed⟩

/-- A packet gets through exactly if a number is left for it, it is within its limits
and the other side waits for it. -/
theorem carry_eq_ok_iff (correct : aead.Correct maxPlaintext) (large : 65536 ≤ maxPlaintext)
    (matching : (link.codec sender.peer).Matches (link.codec sender))
    (short : payload.length + 16 < 2 ^ 32) {packet : RawPacket} :
    carry aead sender packetType flags payload link = (.ok packet, after) ↔
      (link.codec sender).nextSendSeq ≠ u64Max ∧
        (link.codec sender).WithinLimits packetType flags payload ∧
        packet = (link.codec sender).deliveredPacket packetType flags payload ∧
        ∃ next, (link.state sender.peer).receive sender.peer packetType = .ok next ∧
          after = link.carried sender next := by
  simp only [carry, Effect.bind_eq_ok_iff, takeNote_eq_ok_iff, Effect.pure_apply, Prod.mk.injEq,
    Outcome.ok.injEq]
  have known : PacketType.fromU8 ((link.codec sender).deliveredPacket packetType flags
      payload).header.packetType = .ok packetType := PacketType.fromU8_asU8 packetType
  constructor
  · intro carried
    rcases carried with ⟨bytes, middle, writes, found, taken, reads, _, _,
      ⟨admittedType, next, ofType, receives, rfl⟩, rfl, rfl⟩
    rcases within_of_write_read correct matching short writes (congrArg Prod.fst reads) with
      ⟨notLast, within⟩
    rcases write_read correct large matching notLast within with ⟨bytes', writes', reads'⟩
    cases writes.symm.trans writes'
    cases reads.symm.trans reads'
    cases known.symm.trans ofType
    exact ⟨notLast, within, rfl, next, receives, rfl⟩
  · intro passes
    rcases passes with ⟨notLast, within, rfl, next, receives, rfl⟩
    rcases write_read correct large matching notLast within with ⟨bytes, writes, reads⟩
    exact ⟨bytes, _, writes, _, _, reads, (), _, ⟨packetType, next, known, receives, rfl⟩, rfl,
      rfl⟩

end

/-! ## Sides in step -/

/-- Each side opens with the key the other seals with, has seen no number the other has
yet to use, and can still send this many packets. -/
structure InStep (link : Link) (left : Nat) : Prop where
  matching : ∀ role : Role, (link.codec role.peer).Matches (link.codec role)
  left : ∀ role, (link.codec role).nextSendSeq.toNat + left ≤ u64Max.toNat

namespace InStep

variable {link : Link} {left : Nat}

theorem new : Link.new.InStep (2 ^ 64 - 2) where
  matching _ := ⟨rfl, PacketCodec.isFresh_of_none rfl⟩
  left role := by
    have top : u64Max.toNat = 2 ^ 64 - 1 := rfl
    have counter : (Link.new.codec role).nextSendSeq.toNat = 1 := rfl
    omega

theorem notLast (inStep : link.InStep (left + 1)) (role : Role) :
    (link.codec role).nextSendSeq ≠ u64Max := by
  intro last
  have room := inStep.left role
  rw [last] at room
  omega

theorem mono (inStep : link.InStep left) {fewer : Nat} (bound : fewer ≤ left) :
    link.InStep fewer where
  matching := inStep.matching
  left role := Nat.le_trans (Nat.add_le_add_left bound _) (inStep.left role)

/-- Both sides set the session of the same keys. -/
theorem establish (inStep : link.InStep left) (keys : SessionKeys) :
    ((link.establish .client keys).establish .server keys).InStep left where
  matching role := by
    cases role with
    | client => exact (inStep.matching .client).establish _ _ _
    | server => exact (inStep.matching .server).establish _ _ _
  left role := by
    cases role with
    | client => exact inStep.left .client
    | server => exact inStep.left .server

theorem carried (inStep : link.InStep (left + 1)) (sender : Role) (next : ConnectionState) :
    (link.carried sender next).InStep left where
  matching role := by
    rcases Role.eq_or_eq_peer sender role with rfl | rfl
    · rw [carried_codec_sender, carried_codec_peer]
      exact (inStep.matching role).delivered (inStep.notLast role)
    · rw [Role.peer_peer, carried_codec_sender, carried_codec_peer]
      have opposite := inStep.matching sender.peer
      rw [Role.peer_peer] at opposite
      exact ⟨opposite.keys, opposite.fresh⟩
  left role := by
    have room := inStep.left role
    rcases Role.eq_or_eq_peer sender role with rfl | rfl
    · rw [carried_codec_sender, PacketCodec.advanced_nextSendSeq,
        toNat_add_one (inStep.notLast role)]
      omega
    · rw [carried_codec_peer, PacketCodec.received_nextSendSeq]
      omega

end InStep

/-- A payload within its limit gets through to a side that waits for it. -/
theorem carry_of_within {aead : Aead} {maxPlaintext left : Nat} {link : Link} {sender : Role}
    {packetType : PacketType} {payload : Bytes} {next : ConnectionState}
    (correct : aead.Correct maxPlaintext) (large : 65536 ≤ maxPlaintext)
    (inStep : link.InStep (left + 1))
    (within : payload.length ≤ packetType.maxPayloadSize.toNat)
    (receives : (link.state sender.peer).receive sender.peer packetType = .ok next) :
    carry aead sender packetType 0 payload link =
      (.ok ((link.codec sender).deliveredPacket packetType 0 payload),
        link.carried sender next) := by
  have bound := packetType.maxPayloadSize_le
  have short : payload.length + 16 < 2 ^ 32 := by omega
  exact (carry_eq_ok_iff correct large (inStep.matching sender) short).mpr
    ⟨inStep.notLast sender, ⟨within, fun _ => rfl⟩, rfl, next, receives, rfl⟩

/-- The sides are in step, in these states and under this session. -/
structure Stands (link : Link) (left : Nat) (client server : ConnectionState)
    (session : Option SessionKeys) : Prop where
  inStep : link.InStep left
  client : link.state .client = client
  server : link.state .server = server
  session : ∀ role, (link.codec role).session = session.map (·.cipher role)

namespace Stands

variable {link : Link} {left : Nat} {client server : ConnectionState}
  {session : Option SessionKeys}

theorem new : Link.new.Stands (2 ^ 64 - 2) .awaitingServerHello .awaitingClientHello none where
  inStep := .new
  client := rfl
  server := rfl
  session _ := rfl

theorem carried_session (stands : link.Stands left client server session) (sender : Role)
    (next : ConnectionState) (role : Role) :
    ((link.carried sender next).codec role).session = session.map (·.cipher role) := by
  rcases sender.eq_or_eq_peer role with rfl | rfl
  · rw [carried_codec_sender]
    exact stands.session role
  · rw [carried_codec_peer]
    exact stands.session sender.peer

theorem carriedToServer (stands : link.Stands (left + 1) client server session)
    (next : ConnectionState) : (link.carried .client next).Stands left client next session where
  inStep := stands.inStep.carried .client next
  client := (link.carried_state_sender .client next).trans stands.client
  server := link.carried_state_peer .client next
  session := stands.carried_session .client next

theorem carriedToClient (stands : link.Stands (left + 1) client server session)
    (next : ConnectionState) : (link.carried .server next).Stands left next server session where
  inStep := stands.inStep.carried .server next
  client := link.carried_state_peer .server next
  server := (link.carried_state_sender .server next).trans stands.server
  session := stands.carried_session .server next

theorem clientCarries {aead : Aead} {maxPlaintext : Nat} {packetType : PacketType}
    {payload : Bytes} {next : ConnectionState} (correct : aead.Correct maxPlaintext)
    (large : 65536 ≤ maxPlaintext) (stands : link.Stands (left + 1) client server session)
    (within : payload.length ≤ packetType.maxPayloadSize.toNat)
    (receives : server.receive .server packetType = .ok next) :
    ∃ after : Link, carry aead .client packetType 0 payload link =
        (.ok ((link.codec .client).deliveredPacket packetType 0 payload), after) ∧
      after.Stands left client next session := by
  have waits : (link.state (Role.peer .client)).receive (Role.peer .client) packetType = .ok next :=
    stands.server ▸ receives
  exact ⟨_, carry_of_within correct large stands.inStep within waits, stands.carriedToServer next⟩

theorem serverCarries {aead : Aead} {maxPlaintext : Nat} {packetType : PacketType}
    {payload : Bytes} {next : ConnectionState} (correct : aead.Correct maxPlaintext)
    (large : 65536 ≤ maxPlaintext) (stands : link.Stands (left + 1) client server session)
    (within : payload.length ≤ packetType.maxPayloadSize.toNat)
    (receives : client.receive .client packetType = .ok next) :
    ∃ after : Link, carry aead .server packetType 0 payload link =
        (.ok ((link.codec .server).deliveredPacket packetType 0 payload), after) ∧
      after.Stands left next server session := by
  have waits : (link.state (Role.peer .server)).receive (Role.peer .server) packetType = .ok next :=
    stands.client ▸ receives
  exact ⟨_, carry_of_within correct large stands.inStep within waits, stands.carriedToClient next⟩

theorem establish (stands : link.Stands left client server session) (keys : SessionKeys) :
    ((link.establish .client keys).establish .server keys).Stands left client server
      (some keys) where
  inStep := stands.inStep.establish keys
  client := stands.client
  server := stands.server
  session role := by cases role <;> rfl

end Stands

/-- Both sides have finished the handshake. -/
structure Open (link : Link) (left : Nat) : Prop where
  inStep : link.InStep left
  established : ∀ role, link.state role = .established

theorem Stands.opened {link : Link} {left : Nat} {session : Option SessionKeys}
    (stands : link.Stands left .established .established session) : link.Open left where
  inStep := stands.inStep
  established role := by
    cases role with
    | client => exact stands.client
    | server => exact stands.server

theorem Open.mono {link : Link} {left fewer : Nat} (opened : link.Open left)
    (bound : fewer ≤ left) : link.Open fewer :=
  ⟨opened.inStep.mono bound, opened.established⟩

theorem Open.carried {link : Link} {left : Nat} (opened : link.Open (left + 1)) (sender : Role) :
    (link.carried sender .established).Open left where
  inStep := opened.inStep.carried sender .established
  established role := by
    rcases sender.eq_or_eq_peer role with rfl | rfl
    · rw [carried_state_sender]
      exact opened.established role
    · rw [carried_state_peer]

end Link

end ChatixProtocol
