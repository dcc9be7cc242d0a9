import ChatixProtocol.Channel.StreamRoundTrip
import ChatixProtocol.Foundation.Blocks

/-! # A stream that breaks

The sender's stream may fail at any byte, and the network may lose the end of what
the stream took. The receiver obtains the packets whose frames arrived as a whole
and then the end of the stream, never a part of a packet.
-/

namespace ChatixProtocol

/-! ## Streams that take a part -/

namespace Writer

theorem writeAll_cases (writer : Writer) (bytes : Bytes) :
    (∃ room, writer.writeAll bytes =
      (.ok (), { writer with accepted := writer.accepted ++ bytes, room })) ∨
    ∃ part room, part <+: bytes ∧ part ≠ bytes ∧ writer.writeAll bytes =
      (.err writer.failure, { writer with accepted := writer.accepted ++ part, room }) := by
  rcases writer with ⟨accepted, room, flushes, failure⟩
  cases room with
  | none => exact .inl ⟨none, rfl⟩
  | some room =>
      by_cases fits : bytes.length ≤ room
      · exact .inl ⟨some (room - bytes.length), if_pos fits⟩
      · refine .inr ⟨bytes.take room, some 0, List.take_prefix _ _, ?_, if_neg fits⟩
        intro same
        have lengths := congrArg List.length same
        rw [List.length_take] at lengths
        omega

end Writer

namespace PacketCodec

/-- The stream took the whole frame and was flushed, or the write failed and the
stream took a part of the frame. It took all of it only if the flush failed. -/
inductive Sent (frame : Bytes) (before : Writer) : Outcome ProtocolError Unit → Writer → Prop
  | whole (room : Option Nat) (flushes : before.flushes = true) :
      Sent frame before (.ok ()) { before with accepted := before.accepted ++ frame, room }
  | part {part : Bytes} (room : Option Nat) (cut : part <+: frame)
      (unflushed : part = frame → before.flushes = false) :
      Sent frame before (.err (.io before.failure))
        { before with accepted := before.accepted ++ part, room }

theorem writeAll_of_taken {codec : PacketCodec} {writer writer' : Writer} {bytes : Bytes}
    {outcome : Outcome IoError Unit} (calls : List SealCall)
    (taken : writer.writeAll bytes = (outcome, writer')) :
    writeAll bytes ⟨codec, writer, calls⟩ = (outcome.mapError .io, ⟨codec, writer', calls⟩) := by
  rw [writeAll, taken]

theorem flush_sent (frame : Bytes) (room : Option Nat) (writer : Writer) (codec : PacketCodec)
    (calls : List SealCall) :
    ∃ outcome writer', flush ⟨codec, { writer with accepted := writer.accepted ++ frame, room },
        calls⟩ = (outcome, ⟨codec, writer', calls⟩) ∧ Sent frame writer outcome writer' := by
  cases flushed : writer.flushes with
  | true =>
      refine ⟨_, _, ?_, .whole room flushed⟩
      simp [flush, Writer.flush, flushed, Outcome.mapError]
  | false =>
      refine ⟨_, _, ?_, .part room (List.prefix_refl _) fun _ => flushed⟩
      simp [flush, Writer.flush, flushed, Outcome.mapError]

theorem sendFrame_sent (header : PacketHeader) (body : Bytes) (state : WriteState) :
    ∃ outcome writer, sendFrame header body state = (outcome, { state with writer }) ∧
      Sent (header.toBytes.bytes ++ body) state.writer outcome writer := by
  rcases state with ⟨codec, writer, calls⟩
  rcases writer.writeAll_cases header.toBytes.bytes with
    ⟨room, headerTaken⟩ | ⟨part, room, cut, proper, headerTaken⟩
  · rw [sendFrame, Effect.bind_of_ok (writeAll_of_taken calls headerTaken)]
    rcases Writer.writeAll_cases { writer with
        accepted := writer.accepted ++ header.toBytes.bytes, room } body with
      ⟨room', bodyTaken⟩ | ⟨part, room', cut, proper, bodyTaken⟩
    · rw [Effect.bind_of_ok (writeAll_of_taken calls bodyTaken)]
      simp only [List.append_assoc]
      exact flush_sent (header.toBytes.bytes ++ body) room' writer codec calls
    · rw [Effect.bind_of_err (writeAll_of_taken calls bodyTaken)]
      simp only [List.append_assoc]
      exact ⟨_, _, rfl, .part room' ((List.prefix_append_right_inj _).mpr cut)
        fun same => absurd (List.append_cancel_left same) proper⟩
  · rw [sendFrame, Effect.bind_of_err (writeAll_of_taken calls headerTaken)]
    refine ⟨_, _, rfl, .part room (cut.trans (List.prefix_append _ _)) ?_⟩
    rintro rfl
    have longer := (List.prefix_append header.toBytes.bytes body).length_le
    exact absurd (cut.eq_of_length (Nat.le_antisymm cut.length_le longer)) proper

/-- On an input that a read takes to its end for a packet, a read of a proper part
runs out of input. -/
theorem readPacket_of_part {aead : Aead} {codec codec' : PacketCodec} {part rest : Bytes}
    {ending : IoError} {packet : RawPacket}
    (ran : readPacket aead ⟨codec, ⟨part ++ rest, ending⟩⟩ = (.ok packet, ⟨codec', ⟨[], ending⟩⟩))
    (proper : rest ≠ []) :
    (readPacket aead ⟨codec, ⟨part, ending⟩⟩).1 = .err (.io ending) := by
  rcases ranPart : readPacket aead ⟨codec, ⟨part, ending⟩⟩ with ⟨result, codec'', left, ending'⟩
  cases readPacket_cases part ranPart with
  | shortHeader => rfl
  | shortPayload => rfl
  | refused refuses =>
      rw [List.append_assoc, readPacket_of_refused refuses] at ran
      cases ran
  | stale admitted known notNewer =>
      rw [List.append_assoc, readPacket_of_stale admitted known notNewer] at ran
      cases ran
  | frame admitted fresh complete =>
      -- The read of the whole input would have left the rest.
      rw [List.append_assoc, List.append_assoc,
        readPacket_of_frame _ admitted fresh complete] at ran
      have leftover := congrArg (fun outcome => outcome.2.reader.remaining) ran
      exact absurd (List.append_eq_nil_iff.mp leftover).2 proper

section

variable {aead : Aead} {codec : PacketCodec} {packetType : PacketType} {flags : UInt8}
  {payload frame : Bytes}

theorem SendsFrame.sent (sends : SendsFrame aead codec packetType flags payload frame)
    (notLast : codec.nextSendSeq ≠ u64Max) (writer : Writer) (calls : List SealCall) :
    ∃ outcome writer' calls', writePacket aead packetType flags payload ⟨codec, writer, calls⟩ =
        (outcome, ⟨codec.advanced, writer', calls'⟩) ∧ Sent frame writer outcome writer' := by
  have whole := sends.written openStream [] openStream_unfailing
  rw [writePacket_eq notLast]
  cases framed : codec.outboundFrame aead packetType flags payload with
  | none =>
      rw [writePacket_eq notLast, framed] at whole
      cases whole
  | some sentFrame =>
      rcases sentFrame with ⟨header, body⟩
      rw [writePacket_of_unfailing notLast openStream_unfailing framed] at whole
      have accepted := congrArg (fun outcome => outcome.2.writer.accepted) whole
      have same : header.toBytes.bytes ++ body = frame := accepted
      rcases sendFrame_sent header body ⟨codec.advanced, writer,
        calls ++ codec.sealCalls aead packetType flags payload⟩ with
        ⟨outcome, writer', ran, sent⟩
      rw [same] at sent
      exact ⟨outcome, writer', _, ran, sent⟩

theorem SendsFrame.read_part (sends : SendsFrame aead codec packetType flags payload frame)
    {peer : PacketCodec} (matching : peer.Matches codec) {limit : Nat}
    (cut : limit < frame.length) (ending : IoError) :
    (readPacket aead ⟨peer, ⟨frame.take limit, ending⟩⟩).1 = .err (.io ending) := by
  have whole := sends.read peer [] ending matching
  rw [List.append_nil, ← List.take_append_drop limit frame] at whole
  exact readPacket_of_part whole (List.drop_eq_nil_iff.not.mpr (Nat.not_le.mpr cut))

end

end PacketCodec

namespace Script

/-! ## Both sides -/

/-- The writes that succeed before the first one fails. -/
def completed (aead : Aead) : Script → PacketCodec.WriteState → Nat
  | [], _ => 0
  | .write packetType flags payload _ :: script, state =>
      match PacketCodec.writePacket aead packetType flags payload state with
      | (.ok _, reached) => completed aead script reached + 1
      | _ => 0
  | .establish outboundKey inboundKey _ :: script, state =>
      completed aead script
        { state with codec := state.codec.establishSession outboundKey inboundKey }

/-- The receiver's calls, one read for each write, up to the first that fails. -/
def drain (aead : Aead) :
    Script → PacketCodec.ReadState → List RawPacket × Outcome ProtocolError Unit
  | [], _ => ([], .ok ())
  | .write _ _ _ _ :: script, state =>
      match PacketCodec.readPacket aead state with
      | (.ok packet, reached) =>
          let later := drain aead script reached
          (packet :: later.1, later.2)
      | (.err error, _) => ([], .err error)
      | (.panic, _) => ([], .panic)
  | .establish outboundKey _ peerOutboundKey :: script, state =>
      drain aead script
        { state with codec := state.codec.establishSession peerOutboundKey outboundKey }

/-- The script on a network that loses nothing. -/
def lossless : Script → Script
  | [] => []
  | .write packetType flags payload _ :: script =>
      .write packetType flags payload true :: lossless script
  | .establish outboundKey inboundKey peerOutboundKey :: script =>
      .establish outboundKey inboundKey peerOutboundKey :: lossless script

section

variable {aead : Aead} {maxPlaintext : Nat} {codec : PacketCodec} {number : Nat}
  {secured : Bool}

/-- The frames of all writes. -/
abbrev allFrames (aead : Aead) (codec : PacketCodec) (script : Script) : List Bytes :=
  (script.frames aead codec).map Prod.fst

theorem allFrames_nonempty (correct : aead.Correct maxPlaintext) (large : 65536 ≤ maxPlaintext)
    (script : Script) (position : Position codec number secured) (allowed : Allowed secured script)
    (short : number + writes script < 2 ^ 64) :
    ∀ frame ∈ allFrames aead codec script, frame ≠ [] := by
  intro frame member
  rcases List.mem_map.mp member with ⟨sent, among, rfl⟩
  rcases List.mem_iff_getElem?.mp among with ⟨index, found⟩
  rcases sequence_of_frame correct large script position allowed short found with
    ⟨header, body, same, _⟩
  have size := header.toBytes.length_bytes
  intro empty
  have lengths := congrArg List.length same
  rw [empty, List.length_append, size, chatixHeaderSize, List.length_nil] at lengths
  omega

theorem allFrames_write {packetType : PacketType} {flags : UInt8} {payload frame : Bytes}
    (sends : codec.SendsFrame aead packetType flags payload frame) (arrives : Bool)
    (script : Script) :
    allFrames aead codec (.write packetType flags payload arrives :: script) =
      frame :: allFrames aead codec.advanced script := by
  rw [allFrames, frames_write sends]
  rfl

theorem sentBytes_write {packetType : PacketType} {flags : UInt8} {payload frame : Bytes}
    (sends : codec.SendsFrame aead packetType flags payload frame) (arrives : Bool)
    (script : Script) :
    sentBytes aead codec (.write packetType flags payload arrives :: script) =
      frame ++ sentBytes aead codec.advanced script := by
  rw [sentBytes, frames_write sends]
  rfl

/-- What a stream that may fail takes of a script. -/
structure SendsPart (aead : Aead) (codec : PacketCodec) (script : Script) (writer : Writer)
    (calls : List SealCall) (bytes : Bytes) : Prop where
  accepted : (script.send aead ⟨codec, writer, calls⟩).2.writer.accepted =
    writer.accepted ++ bytes
  cut : bytes <+: script.sentBytes aead codec
  outcome : (script.send aead ⟨codec, writer, calls⟩).1 =
    if script.completed aead ⟨codec, writer, calls⟩ = script.writes then .ok ()
    else .err (.io writer.failure)
  enough : script.completed aead ⟨codec, writer, calls⟩ ≤
    Blocks.whole (script.allFrames aead codec) bytes.length
  notMore : Blocks.whole (script.allFrames aead codec) bytes.length ≤
    script.completed aead ⟨codec, writer, calls⟩ + 1
  exact : writer.flushes = true → Blocks.whole (script.allFrames aead codec) bytes.length =
    script.completed aead ⟨codec, writer, calls⟩

namespace SendsPart

variable {script : Script} {packetType : PacketType} {flags : UInt8} {payload frame bytes : Bytes}
  {writer : Writer} {calls calls' : List SealCall} {room : Option Nat}

theorem of_whole (sends : codec.SendsFrame aead packetType flags payload frame)
    (ran : PacketCodec.writePacket aead packetType flags payload ⟨codec, writer, calls⟩ =
      (.ok (), ⟨codec.advanced, { writer with accepted := writer.accepted ++ frame, room },
        calls'⟩))
    (part : SendsPart aead codec.advanced script
      { writer with accepted := writer.accepted ++ frame, room } calls' bytes) (arrives : Bool) :
    SendsPart aead codec (.write packetType flags payload arrives :: script) writer calls
      (frame ++ bytes) := by
  have sendEq : send aead (.write packetType flags payload arrives :: script)
      ⟨codec, writer, calls⟩ = send aead script ⟨codec.advanced, { writer with
        accepted := writer.accepted ++ frame, room }, calls'⟩ :=
    Effect.bind_of_ok ran
  have completedEq : completed aead (.write packetType flags payload arrives :: script)
      ⟨codec, writer, calls⟩ = completed aead script ⟨codec.advanced, { writer with
        accepted := writer.accepted ++ frame, room }, calls'⟩ + 1 := by
    rw [completed, ran]
  have wholeEq : Blocks.whole (allFrames aead codec
      (.write packetType flags payload arrives :: script)) (frame ++ bytes).length =
        Blocks.whole (allFrames aead codec.advanced script) bytes.length + 1 := by
    rw [allFrames_write sends, List.length_append, Blocks.whole_cons_of_le (Nat.le_add_right _ _),
      Nat.add_sub_cancel_left]
  constructor
  · rw [sendEq, part.accepted, List.append_assoc]
  · rw [sentBytes_write sends]
    exact (List.prefix_append_right_inj _).mpr part.cut
  · rw [sendEq, part.outcome, completedEq, writes]
    simp only [Nat.add_right_cancel_iff]
  · rw [completedEq, wholeEq]
    exact Nat.succ_le_succ part.enough
  · rw [completedEq, wholeEq]
    exact Nat.succ_le_succ part.notMore
  · intro flushes
    rw [completedEq, wholeEq, part.exact flushes]

theorem of_part (sends : codec.SendsFrame aead packetType flags payload frame)
    (ran : PacketCodec.writePacket aead packetType flags payload ⟨codec, writer, calls⟩ =
      (.err (.io writer.failure), ⟨codec.advanced, { writer with
        accepted := writer.accepted ++ bytes, room }, calls'⟩))
    (cut : bytes <+: frame) (unflushed : bytes = frame → writer.flushes = false)
    (nonempty : ∀ later ∈ allFrames aead codec.advanced script, later ≠ []) (arrives : Bool) :
    SendsPart aead codec (.write packetType flags payload arrives :: script) writer calls
      bytes := by
  have sendEq : send aead (.write packetType flags payload arrives :: script)
      ⟨codec, writer, calls⟩ = (.err (.io writer.failure), ⟨codec.advanced, { writer with
        accepted := writer.accepted ++ bytes, room }, calls'⟩) :=
    Effect.bind_of_err ran
  have completedEq : completed aead (.write packetType flags payload arrives :: script)
      ⟨codec, writer, calls⟩ = 0 := by
    rw [completed, ran]
  have held := Blocks.whole_part cut nonempty
  constructor
  · rw [sendEq]
  · rw [sentBytes_write sends]
    exact cut.trans (List.prefix_append _ _)
  · rw [sendEq, completedEq, writes, if_neg (Nat.succ_ne_zero _).symm]
  · rw [completedEq]
    exact Nat.zero_le _
  · rw [completedEq, allFrames_write sends]
    exact held.1
  · intro flushes
    rw [completedEq, allFrames_write sends]
    apply held.2
    intro same
    rw [unflushed same] at flushes
    cases flushes

theorem establish {outboundKey inboundKey : FixedBytes 32}
    (part : SendsPart aead (codec.establishSession outboundKey inboundKey) script writer calls
      bytes) (peerOutboundKey : FixedBytes 32) :
    SendsPart aead codec (.establish outboundKey inboundKey peerOutboundKey :: script) writer calls
      bytes := by
  have sendEq : send aead (.establish outboundKey inboundKey peerOutboundKey :: script)
      ⟨codec, writer, calls⟩ =
        send aead script ⟨codec.establishSession outboundKey inboundKey, writer, calls⟩ :=
    Effect.bind_of_ok (Effect.modify_apply _ _)
  refine ⟨?_, part.cut, ?_, part.enough, part.notMore, part.exact⟩
  · rw [sendEq, part.accepted]
  · rw [sendEq]
    exact part.outcome

end SendsPart

/-- A stream takes a script up to its first failure. At most the packet whose write
failed is on the stream beside those whose writes succeeded. -/
theorem exists_sendsPart (correct : aead.Correct maxPlaintext) (large : 65536 ≤ maxPlaintext)
    (script : Script) (position : Position codec number secured) (allowed : Allowed secured script)
    (short : number + writes script < 2 ^ 64) (writer : Writer) (calls : List SealCall) :
    ∃ bytes, SendsPart aead codec script writer calls bytes := by
  induction script generalizing codec number secured writer calls with
  | nil =>
      refine ⟨[], ?_, List.nil_prefix, rfl, Nat.le_refl 0, Nat.zero_le 1, fun _ => rfl⟩
      exact (List.append_nil _).symm
  | cons step script induction =>
      cases step with
      | write packetType flags payload arrives =>
          rcases position.exists_sendsFrame correct large allowed short with
            ⟨notLast, room, frame, sends⟩
          rcases sends.sent notLast writer calls with ⟨outcome, writer', calls', ran, sent⟩
          cases sent with
          | whole room' flushes =>
              rcases induction position.advanced allowed.2.2 room
                { writer with accepted := writer.accepted ++ frame, room := room' } calls' with
                ⟨bytes, part⟩
              exact ⟨_, part.of_whole sends ran arrives⟩
          | part room' cut unflushed =>
              have nonempty :=
                allFrames_nonempty correct large script position.advanced allowed.2.2 room
              exact ⟨_, .of_part sends ran cut unflushed nonempty arrives⟩
      | establish outboundKey inboundKey peerOutboundKey =>
          rcases induction (position.establish outboundKey inboundKey) allowed short writer calls
            with ⟨bytes, part⟩
          exact ⟨bytes, part.establish peerOutboundKey⟩

/-- The receiver obtains the packets whose frames lie in the front of the stream. -/
theorem drain_take (correct : aead.Correct maxPlaintext) (large : 65536 ≤ maxPlaintext)
    (script : Script) (position : Position codec number secured) (allowed : Allowed secured script)
    (short : number + writes script < 2 ^ 64) {peer : PacketCodec} (matching : peer.Matches codec)
    (limit : Nat) (ending : IoError) :
    script.drain aead ⟨peer, ⟨(script.sentBytes aead codec).take limit, ending⟩⟩ =
      ((script.lossless.packets number secured).take
          (Blocks.whole (script.allFrames aead codec) limit),
        if Blocks.whole (script.allFrames aead codec) limit = script.writes then .ok ()
        else .err (.io ending)) := by
  induction script generalizing codec number secured peer limit with
  | nil => rfl
  | cons step script induction =>
      cases step with
      | write packetType flags payload arrives =>
          rcases position.exists_sendsFrame correct large allowed short with
            ⟨notLast, room, frame, sends⟩
          rw [sentBytes_write sends, allFrames_write sends, drain, List.take_append]
          by_cases fits : frame.length ≤ limit
          · have read := sends.read peer
              ((sentBytes aead codec.advanced script).take (limit - frame.length)) ending matching
            have later := induction position.advanced allowed.2.2 room (matching.delivered notLast)
              (limit - frame.length)
            rw [List.take_of_length_le fits, read]
            dsimp only
            rw [later, Blocks.whole_cons_of_le fits, position.deliveredPacket]
            simp only [lossless, packets, if_true, List.singleton_append, List.take_succ_cons,
              writes, Nat.add_right_cancel_iff]
          · have cut := Nat.not_le.mp fits
            have failed := sends.read_part matching cut ending
            rw [Nat.sub_eq_zero_of_le cut.le, List.take_zero, List.append_nil,
              Blocks.whole_cons_of_lt cut]
            rcases ran : PacketCodec.readPacket aead ⟨peer, ⟨frame.take limit, ending⟩⟩ with
              ⟨outcome, reached⟩
            rw [ran] at failed
            cases failed
            rw [writes, if_neg (Nat.succ_ne_zero _).symm, List.take_zero]
      | establish outboundKey inboundKey peerOutboundKey =>
          exact induction (position.establish outboundKey inboundKey) allowed short
            (matching.establish outboundKey inboundKey peerOutboundKey) limit

end

end Script

/-! ## The guarantee -/

/-- A script is sent to any stream, which may fail at any byte or refuse to flush, and
the network delivers any part of the bytes it took. The receiver obtains the first
packets of the script, unchanged and in order, and then the end of the stream: no
packet beyond the one whose write failed, none beyond the writes that succeeded if
the stream flushes, and all of these if no byte is lost. -/
theorem broken_stream_whole_packets (aead : Aead) (maxPlaintext : Nat)
    (correct : aead.Correct maxPlaintext) (large : 65536 ≤ maxPlaintext) (script : Script)
    (allowed : script.Allowed false) (short : script.writes < 2 ^ 64 - 2) (writer : Writer) :
    let sent := script.send aead ⟨.new, writer, []⟩
    let completed := script.completed aead ⟨.new, writer, []⟩
    ∃ bytes, sent.2.writer.accepted = writer.accepted ++ bytes ∧
      bytes <+: script.sentBytes aead .new ∧
      sent.1 = (if completed = script.writes then .ok () else .err (.io writer.failure)) ∧
      ∀ (delivered : Bytes) (ending : IoError), delivered <+: bytes →
        ∃ count, script.drain aead ⟨.new, ⟨delivered, ending⟩⟩ =
            ((script.lossless.packets 1 false).take count,
              if count = script.writes then .ok () else .err (.io ending)) ∧
          count ≤ completed + 1 ∧
          (writer.flushes = true → count ≤ completed) ∧
          (delivered = bytes → completed ≤ count) := by
  intro sent completed
  rcases Script.exists_sendsPart correct large script .new allowed (by omega) writer [] with
    ⟨bytes, part⟩
  refine ⟨bytes, part.accepted, part.cut, part.outcome, ?_⟩
  intro delivered ending front
  have shorter : Blocks.whole (script.allFrames aead .new) delivered.length ≤
      Blocks.whole (script.allFrames aead .new) bytes.length :=
    Blocks.whole_mono _ front.length_le
  refine ⟨Blocks.whole (script.allFrames aead .new) delivered.length, ?_, ?_, ?_, ?_⟩
  · have drained := Script.drain_take correct large script .new allowed (by omega)
      PacketCodec.new.freshPeer_matches delivered.length ending
    rwa [← List.prefix_iff_eq_take.mp (front.trans part.cut)] at drained
  · exact shorter.trans part.notMore
  · intro flushes
    exact shorter.trans (part.exact flushes).le
  · rintro rfl
    exact part.enough

/-! A stream that breaks within the frame of the second ping. -/

def brokenWriter : Writer where
  accepted := []
  room := some 40
  flushes := true
  failure := ⟨.other, ""⟩

theorem broken_pings_received :
    ∃ bytes, (lossyPings.send (.transparent 65536) ⟨.new, brokenWriter, []⟩).2.writer.accepted =
        brokenWriter.accepted ++ bytes ∧
      (lossyPings.drain (.transparent 65536) ⟨.new, ⟨bytes, .earlyEof⟩⟩).1 =
        (lossyPings.lossless.packets 1 false).take 1 := by
  have once : lossyPings.completed (.transparent 65536) ⟨.new, brokenWriter, []⟩ = 1 := by decide
  rcases broken_stream_whole_packets (.transparent 65536) 65536 (Aead.transparent_correct 65536)
    (by decide) lossyPings (by decide) (by decide) brokenWriter with
    ⟨bytes, accepted, _, _, delivers⟩
  rcases delivers bytes .earlyEof (List.prefix_refl _) with ⟨count, drained, _, upper, lower⟩
  rw [once] at upper lower
  have exactly : count = 1 := Nat.le_antisymm (upper rfl) (lower rfl)
  refine ⟨bytes, accepted, ?_⟩
  rw [drained, exactly]

end ChatixProtocol
