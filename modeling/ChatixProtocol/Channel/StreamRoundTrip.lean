import ChatixProtocol.Codec.WriterLimits

/-! # A stream from one codec to another

A sender runs a script of writes and session changes. The network loses some of
the frames, and a receiver that changes its session at the same positions reads
the others.
-/

namespace ChatixProtocol

/-- One call of the sender, and whether the frame it sends arrives. -/
inductive ScriptStep where
  | write (packetType : PacketType) (flags : UInt8) (payload : Bytes) (arrives : Bool)
  | establish (outboundKey inboundKey peerOutboundKey : FixedBytes 32)
  deriving DecidableEq

abbrev Script := List ScriptStep

namespace Script

/-- The sender's calls. A write that fails ends them. -/
def send (aead : Aead) : Script → Effect PacketCodec.WriteState ProtocolError Unit
  | [] => pure ()
  | .write packetType flags payload _ :: script => do
      PacketCodec.writePacket aead packetType flags payload
      send aead script
  | .establish outboundKey inboundKey _ :: script => do
      .modify fun state =>
        { state with codec := state.codec.establishSession outboundKey inboundKey }
      send aead script

/-- What each write puts on the stream, and whether it arrives. -/
def frames (aead : Aead) : PacketCodec → Script → List (Bytes × Bool)
  | _, [] => []
  | codec, .write packetType flags payload arrives :: script =>
      let after := (PacketCodec.writePacket aead packetType flags payload
        ⟨codec, PacketCodec.openStream, []⟩).2
      (after.writer.accepted, arrives) :: frames aead after.codec script
  | codec, .establish outboundKey inboundKey _ :: script =>
      frames aead (codec.establishSession outboundKey inboundKey) script

/-- All bytes the sender puts on the stream. -/
def sentBytes (aead : Aead) (codec : PacketCodec) (script : Script) : Bytes :=
  ((script.frames aead codec).map Prod.fst).flatten

/-- The bytes of the frames that arrive. -/
def arrivingBytes (aead : Aead) (codec : PacketCodec) (script : Script) : Bytes :=
  (((script.frames aead codec).filter Prod.snd).map Prod.fst).flatten

/-- The receiver's calls: one read for each frame that arrives. -/
def receive (aead : Aead) : Script → Effect PacketCodec.ReadState ProtocolError (List RawPacket)
  | [] => pure []
  | .write _ _ _ true :: script => do
      let packet ← PacketCodec.readPacket aead
      let packets ← receive aead script
      pure (packet :: packets)
  | .write _ _ _ false :: script => receive aead script
  | .establish outboundKey _ peerOutboundKey :: script => do
      .modify fun state =>
        { state with codec := state.codec.establishSession peerOutboundKey outboundKey }
      receive aead script

/-- The packets that arrive, if the next write has the given number. -/
def packets : (number : Nat) → (secured : Bool) → Script → List RawPacket
  | _, _, [] => []
  | number, secured, .write packetType flags payload arrives :: script =>
      let packet : RawPacket := {
        header := .new packetType.asU8 (if secured then flags ||| Flags.encrypted else flags)
          (UInt32.ofNat payload.length) (UInt64.ofNat number)
        payload
      }
      (if arrives then [packet] else []) ++ packets (number + 1) secured script
  | number, _, .establish _ _ _ :: script => packets number true script

def writes : Script → Nat
  | [] => 0
  | .write _ _ _ _ :: script => writes script + 1
  | .establish _ _ _ :: script => writes script

/-- Every payload is within its type's ceiling, and no packet is marked as
encrypted before there is a session. -/
def Allowed : (secured : Bool) → Script → Prop
  | _, [] => True
  | secured, .write packetType flags payload _ :: script =>
      payload.length ≤ packetType.maxPayloadSize.toNat ∧
        (secured = false → PacketHeader.marksEncrypted flags = false) ∧ Allowed secured script
  | _, .establish _ _ _ :: script => Allowed true script

instance decidableAllowed : (secured : Bool) → (script : Script) →
    Decidable (script.Allowed secured)
  | _, [] => inferInstanceAs (Decidable True)
  | secured, .write packetType flags payload _ :: script =>
      have := decidableAllowed secured script
      inferInstanceAs (Decidable (payload.length ≤ packetType.maxPayloadSize.toNat ∧
        (secured = false → PacketHeader.marksEncrypted flags = false) ∧ Allowed secured script))
  | _, .establish _ _ _ :: script => decidableAllowed true script

end Script

/-! ## One step -/

namespace PacketCodec

section

variable {aead : Aead} {maxPlaintext : Nat} {codec peer : PacketCodec}
  {packetType : PacketType} {flags : UInt8} {payload : Bytes}

theorem Matches.delivered (matching : peer.Matches codec) (notLast : codec.nextSendSeq ≠ u64Max) :
    (peer.received codec.nextSendSeq).Matches codec.advanced where
  keys := matching.keys
  fresh := by
    intro last known
    cases known
    exact lt_add_one notLast

theorem Matches.dropped (matching : peer.Matches codec) (notLast : codec.nextSendSeq ≠ u64Max) :
    peer.Matches codec.advanced where
  keys := matching.keys
  fresh := by
    intro last known
    exact UInt64.lt_trans (matching.fresh last known) (lt_add_one notLast)

theorem Matches.establish (matching : peer.Matches codec)
    (outboundKey inboundKey peerOutboundKey : FixedBytes 32) :
    (peer.establishSession peerOutboundKey outboundKey).Matches
      (codec.establishSession outboundKey inboundKey) where
  keys := rfl
  fresh := matching.fresh

end

/-- The write adds this frame to any unfailing stream, and any matching peer reads
the frame back as the packet that was written. -/
structure SendsFrame (aead : Aead) (codec : PacketCodec) (packetType : PacketType)
    (flags : UInt8) (payload frame : Bytes) : Prop where
  written : ∀ (writer : Writer) (calls : List SealCall), writer.Unfailing →
    writePacket aead packetType flags payload ⟨codec, writer, calls⟩ =
      (.ok (), {
        codec := codec.advanced
        writer := { writer with accepted := writer.accepted ++ frame }
        calls := calls ++ codec.sealCalls aead packetType flags payload
      })
  read : ∀ (peer : PacketCodec) (rest : Bytes) (ending : IoError), peer.Matches codec →
    readPacket aead ⟨peer, ⟨frame ++ rest, ending⟩⟩ =
      (.ok (codec.deliveredPacket packetType flags payload),
        ⟨peer.received codec.nextSendSeq, ⟨rest, ending⟩⟩)
  numbered : ∃ (header : PacketHeader) (body : Bytes), frame = header.toBytes.bytes ++ body ∧
    header.sequence = codec.nextSendSeq

theorem exists_sendsFrame {aead : Aead} {maxPlaintext : Nat} {codec : PacketCodec}
    {packetType : PacketType} {flags : UInt8} {payload : Bytes}
    (correct : aead.Correct maxPlaintext) (large : 65536 ≤ maxPlaintext)
    (notLast : codec.nextSendSeq ≠ u64Max) (within : codec.WithinLimits packetType flags payload) :
    ∃ frame, SendsFrame aead codec packetType flags payload frame := by
  have sealable : ¬Unsealable maxPlaintext codec payload := by
    intro refused
    rcases refused with ⟨_, tooLarge⟩
    have bound := packetType.maxPayloadSize_le
    have fits := within.1
    omega
  rcases exists_outboundFrame correct packetType flags sealable with ⟨body, framed⟩
  refine ⟨_, fun writer calls unfailing => writePacket_of_unfailing notLast unfailing framed,
    ?_, ⟨_, body, rfl, rfl⟩⟩
  intro peer rest ending matching
  rw [List.append_assoc]
  exact readPacket_outboundFrame correct matching within.2 within.1 framed rest ending

end PacketCodec

/-! ## Whole scripts -/

namespace Script

/-- The codec gives the next packet the given number, and has a session or not. -/
structure Position (codec : PacketCodec) (number : Nat) (secured : Bool) : Prop where
  counter : codec.nextSendSeq = UInt64.ofNat number
  session : codec.session.isSome = secured

theorem Position.new : Position .new 1 false := ⟨rfl, rfl⟩

section

variable {aead : Aead} {maxPlaintext : Nat} {codec : PacketCodec} {number : Nat}
  {secured : Bool}

theorem Position.notLast (position : Position codec number secured)
    (small : number < 2 ^ 64 - 1) : codec.nextSendSeq ≠ u64Max := by
  intro last
  have value := congrArg UInt64.toNat (position.counter.symm.trans last)
  have top : u64Max.toNat = 2 ^ 64 - 1 := rfl
  rw [UInt64.toNat_ofNat_of_lt' (by unfold UInt64.size; omega)] at value
  omega

theorem Position.advanced (position : Position codec number secured) :
    Position codec.advanced (number + 1) secured where
  counter := by
    rw [PacketCodec.advanced_nextSendSeq, position.counter, UInt64.ofNat_add]
    rfl
  session := position.session

theorem Position.establish (position : Position codec number secured)
    (outboundKey inboundKey : FixedBytes 32) :
    Position (codec.establishSession outboundKey inboundKey) number true where
  counter := position.counter
  session := rfl

theorem Position.deliveredPacket (position : Position codec number secured)
    (packetType : PacketType) (flags : UInt8) (payload : Bytes) :
    codec.deliveredPacket packetType flags payload = {
      header := .new packetType.asU8 (if secured then flags ||| Flags.encrypted else flags)
        (UInt32.ofNat payload.length) (UInt64.ofNat number)
      payload
    } := by
  rw [PacketCodec.deliveredPacket, PacketCodec.outboundHeader, PacketCodec.sessionFlags,
    position.counter, position.session]

theorem Position.withinLimits (position : Position codec number secured)
    {packetType : PacketType} {flags : UInt8} {payload : Bytes} {arrives : Bool}
    {script : Script}
    (allowed : Allowed secured (.write packetType flags payload arrives :: script)) :
    codec.WithinLimits packetType flags payload := by
  refine ⟨allowed.1, ?_⟩
  intro plain
  apply allowed.2.1
  rw [← position.session, plain]
  rfl

theorem frames_write {packetType : PacketType} {flags : UInt8} {payload frame : Bytes}
    (sends : codec.SendsFrame aead packetType flags payload frame) (arrives : Bool)
    (script : Script) :
    frames aead codec (.write packetType flags payload arrives :: script) =
      (frame, arrives) :: frames aead codec.advanced script := by
  rw [frames, sends.written _ [] PacketCodec.openStream_unfailing]
  rfl

/-- Of a write, the bytes that arrive are its frame or nothing. -/
theorem arrivingBytes_write {packetType : PacketType} {flags : UInt8} {payload frame : Bytes}
    (sends : codec.SendsFrame aead packetType flags payload frame) (arrives : Bool)
    (script : Script) :
    arrivingBytes aead codec (.write packetType flags payload arrives :: script) =
      (if arrives then frame else []) ++ arrivingBytes aead codec.advanced script := by
  rw [arrivingBytes, frames_write sends]
  cases arrives with
  | false => rfl
  | true => rfl

/-- The first write of a script within the limits sends a frame, and there are numbers
for the writes after it. -/
theorem Position.exists_sendsFrame (position : Position codec number secured)
    (correct : aead.Correct maxPlaintext) (large : 65536 ≤ maxPlaintext)
    {packetType : PacketType} {flags : UInt8} {payload : Bytes} {arrives : Bool}
    {script : Script}
    (allowed : Allowed secured (.write packetType flags payload arrives :: script))
    (short : number + writes (.write packetType flags payload arrives :: script) < 2 ^ 64) :
    codec.nextSendSeq ≠ u64Max ∧ number + 1 + writes script < 2 ^ 64 ∧
      ∃ frame, codec.SendsFrame aead packetType flags payload frame := by
  have below : number + (writes script + 1) < 2 ^ 64 := short
  have notLast := position.notLast (by omega)
  exact ⟨notLast, by omega,
    PacketCodec.exists_sendsFrame correct large notLast (position.withinLimits allowed)⟩

/-- The last number received after a packet and what follows it. -/
theorem lastSequence_cons (packet : RawPacket) (packets : List RawPacket)
    (before : Option UInt64) :
    ((packet :: packets).getLast?.map (·.header.sequence)).or before =
      (packets.getLast?.map (·.header.sequence)).or (some packet.header.sequence) := by
  rw [List.getLast?_cons]
  cases packets.getLast? with
  | none => rfl
  | some last => rfl

/-- A script within the limits is sent to its end, frame by frame. -/
theorem send_eq (correct : aead.Correct maxPlaintext) (large : 65536 ≤ maxPlaintext)
    (script : Script) (position : Position codec number secured) (allowed : Allowed secured script)
    (short : number + writes script < 2 ^ 64) (writer : Writer) (unfailing : writer.Unfailing)
    (calls : List SealCall) :
    ∃ codec' calls', send aead script ⟨codec, writer, calls⟩ =
        (.ok (), {
          codec := codec'
          writer := { writer with accepted := writer.accepted ++ sentBytes aead codec script }
          calls := calls'
        }) ∧
      codec'.nextSendSeq = UInt64.ofNat (number + writes script) := by
  induction script generalizing codec number secured writer calls with
  | nil =>
      refine ⟨codec, calls, ?_, position.counter⟩
      simp [send, sentBytes, frames]
  | cons step script induction =>
      cases step with
      | write packetType flags payload arrives =>
          rcases position.exists_sendsFrame correct large allowed short with
            ⟨notLast, room, frame, sends⟩
          rcases induction position.advanced allowed.2.2 room
            { writer with accepted := writer.accepted ++ frame } unfailing
            (calls ++ codec.sealCalls aead packetType flags payload) with
            ⟨codec', calls', sent, counter⟩
          refine ⟨codec', calls', ?_, ?_⟩
          · rw [send, Effect.bind_of_ok (sends.written writer calls unfailing), sent]
            simp only [sentBytes, frames_write sends, List.map_cons, List.flatten_cons,
              List.append_assoc]
          · rw [counter, writes, Nat.add_right_comm, Nat.add_assoc]
      | establish outboundKey inboundKey peerOutboundKey =>
          rcases induction (position.establish outboundKey inboundKey) allowed short writer
            unfailing calls with ⟨codec', calls', sent, counter⟩
          refine ⟨codec', calls', ?_, counter⟩
          rw [send, Effect.bind_of_ok (Effect.modify_apply _ _), sent]
          rfl

/-- The frames carry consecutive numbers. -/
theorem sequence_of_frame (correct : aead.Correct maxPlaintext) (large : 65536 ≤ maxPlaintext)
    (script : Script) (position : Position codec number secured) (allowed : Allowed secured script)
    (short : number + writes script < 2 ^ 64) {index : Nat} {frame : Bytes × Bool}
    (found : (frames aead codec script)[index]? = some frame) :
    ∃ (header : PacketHeader) (body : Bytes), frame.1 = header.toBytes.bytes ++ body ∧
      header.sequence = UInt64.ofNat (number + index) := by
  induction script generalizing codec number secured index with
  | nil => cases found
  | cons step script induction =>
      cases step with
      | write packetType flags payload arrives =>
          rcases position.exists_sendsFrame correct large allowed short with
            ⟨notLast, room, sentFrame, sends⟩
          rw [frames_write sends] at found
          cases index with
          | zero =>
              cases found
              rw [Nat.add_zero, ← position.counter]
              exact sends.numbered
          | succ index =>
              have later := induction position.advanced allowed.2.2 room found
              rwa [Nat.add_right_comm] at later
      | establish outboundKey inboundKey peerOutboundKey =>
          exact induction (position.establish outboundKey inboundKey) allowed short found

/-- What arrives of a script within the limits is received packet by packet. -/
theorem receive_eq (correct : aead.Correct maxPlaintext) (large : 65536 ≤ maxPlaintext)
    (script : Script) (position : Position codec number secured) (allowed : Allowed secured script)
    (short : number + writes script < 2 ^ 64) {peer : PacketCodec} (matching : peer.Matches codec)
    (rest : Bytes) (ending : IoError) :
    ∃ peer', receive aead script ⟨peer, ⟨arrivingBytes aead codec script ++ rest, ending⟩⟩ =
        (.ok (packets number secured script), ⟨peer', ⟨rest, ending⟩⟩) ∧
      peer'.lastRecvSeq = ((packets number secured script).getLast?.map
        (·.header.sequence)).or peer.lastRecvSeq := by
  induction script generalizing codec number secured peer with
  | nil => exact ⟨peer, rfl, rfl⟩
  | cons step script induction =>
      cases step with
      | write packetType flags payload arrives =>
          rcases position.exists_sendsFrame correct large allowed short with
            ⟨notLast, room, frame, sends⟩
          rw [arrivingBytes_write sends]
          cases arrives with
          | false => exact induction position.advanced allowed.2.2 room (matching.dropped notLast)
          | true =>
              rcases induction position.advanced allowed.2.2 room (matching.delivered notLast) with
                ⟨peer', received, window⟩
              refine ⟨peer', ?_, ?_⟩
              · rw [receive, if_pos rfl, List.append_assoc,
                  Effect.bind_of_ok (sends.read peer _ ending matching),
                  Effect.bind_of_ok received, position.deliveredPacket]
                rfl
              · rw [window, packets, if_pos rfl, List.singleton_append, lastSequence_cons]
                exact congrArg _ (congrArg some position.counter)
      | establish outboundKey inboundKey peerOutboundKey =>
          rcases induction (position.establish outboundKey inboundKey) allowed short
            (matching.establish outboundKey inboundKey peerOutboundKey) with
            ⟨peer', received, window⟩
          refine ⟨peer', ?_, window⟩
          rw [receive, Effect.bind_of_ok (Effect.modify_apply _ _)]
          exact received

end

theorem payloadLen_of_mem_packets {script : Script} {number : Nat} {secured : Bool}
    (allowed : Allowed secured script) {packet : RawPacket}
    (member : packet ∈ packets number secured script) :
    packet.header.payloadLen.toNat = packet.payload.length := by
  induction script generalizing number secured with
  | nil => cases member
  | cons step script induction =>
      cases step with
      | write packetType flags payload arrives =>
          rcases List.mem_append.mp member with here | later
          · cases arrives with
            | false => cases here
            | true =>
                cases List.mem_singleton.mp here
                have bound := packetType.maxPayloadSize_le
                have fits := allowed.1
                exact UInt32.toNat_ofNat_of_lt' (by unfold UInt32.size; omega)
          · exact induction allowed.2.2 later
      | establish outboundKey inboundKey peerOutboundKey => exact induction allowed member

end Script

/-! ## The guarantee -/

/-- Every write of a script within the limits succeeds, in order from the first
number on. Whatever frames are lost, the receiver obtains the packets of the
others, reads every byte of them and none beyond, and its window stands at the
last one. -/
theorem stream_round_trip (aead : Aead) (maxPlaintext : Nat)
    (correct : aead.Correct maxPlaintext) (large : 65536 ≤ maxPlaintext) (script : Script)
    (allowed : script.Allowed false) (short : script.writes < 2 ^ 64 - 2) :
    (∀ writer : Writer, writer.Unfailing →
      ∃ codec calls, script.send aead ⟨.new, writer, []⟩ =
          (.ok (), {
            codec
            writer := { writer with accepted := writer.accepted ++ script.sentBytes aead .new }
            calls
          }) ∧
        codec.nextSendSeq = UInt64.ofNat (1 + script.writes)) ∧
    (∀ (index : Nat) (frame : Bytes × Bool),
      (script.frames aead .new)[index]? = some frame →
        ∃ (header : PacketHeader) (body : Bytes), frame.1 = header.toBytes.bytes ++ body ∧
          header.sequence = UInt64.ofNat (1 + index)) ∧
    (∀ (rest : Bytes) (ending : IoError),
      ∃ peer, script.receive aead ⟨.new, ⟨script.arrivingBytes aead .new ++ rest, ending⟩⟩ =
          (.ok (script.packets 1 false), ⟨peer, ⟨rest, ending⟩⟩) ∧
        peer.lastRecvSeq = (script.packets 1 false).getLast?.map (·.header.sequence)) ∧
    ∀ packet ∈ script.packets 1 false,
      packet.header.payloadLen.toNat = packet.payload.length := by
  refine ⟨?_, ?_, ?_, fun packet member => Script.payloadLen_of_mem_packets allowed member⟩
  · intro writer unfailing
    exact Script.send_eq correct large script .new allowed (by omega) writer unfailing []
  · intro index frame found
    exact Script.sequence_of_frame correct large script .new allowed (by omega) found
  · intro rest ending
    rcases Script.receive_eq correct large script .new allowed (by omega)
      PacketCodec.new.freshPeer_matches rest ending with ⟨peer, received, window⟩
    refine ⟨peer, received, ?_⟩
    rw [window]
    exact Option.or_none

/-! A ping in clear, one under the session that is lost, and an empty one. -/

def lossyPings : Script :=
  [.write .ping 4 (List.replicate 8 7) true,
    .establish (.replicate 32 1) (.replicate 32 2) (.replicate 32 3),
    .write .ping 0 (List.replicate 8 8) false,
    .write .ping 4 [] true]

theorem lossy_pings_received :
    ((lossyPings.packets 1 false).map (·.header.sequence) = [1, 3] ∧
      (lossyPings.packets 1 false).map (·.header.flags) = [4, 5]) ∧
    ∃ peer, lossyPings.receive (.transparent 65536)
        ⟨.new, ⟨lossyPings.arrivingBytes (.transparent 65536) .new ++ [], .earlyEof⟩⟩ =
          (.ok (lossyPings.packets 1 false), ⟨peer, ⟨[], .earlyEof⟩⟩) ∧
      peer.lastRecvSeq = (lossyPings.packets 1 false).getLast?.map (·.header.sequence) :=
  ⟨by decide, (stream_round_trip (.transparent 65536) 65536 (Aead.transparent_correct 65536)
    (by decide) lossyPings (by decide) (by decide)).2.2.1 [] .earlyEof⟩

end ChatixProtocol
