import ChatixProtocol.Channel.Endpoints
import ChatixProtocol.Channel.StreamRoundTrip

/-! # Both directions of one connection

Two codecs exchange packets over a network that loses nothing. Each side writes
at any time and reads when its peer has written something it has not read.
-/

namespace ChatixProtocol

/-- One direction: the bytes under way, the packets written, and what the reads
of the other side returned. -/
structure Lane where
  stream : Bytes
  written : List RawPacket
  returned : List (Outcome ProtocolError RawPacket)

/-- The codec of each side, and the lane it writes to. -/
structure Dialogue where
  codec : Role → PacketCodec
  lane : Role → Lane

inductive DialogueEvent where
  | write (role : Role) (packetType : PacketType) (flags : UInt8) (payload : Bytes)
  | read (role : Role)

/-- Payloads are within the limit of their type. -/
def DialogueEvent.Fits : DialogueEvent → Prop
  | .write _ packetType _ payload => payload.length ≤ packetType.maxPayloadSize.toNat
  | .read _ => True

namespace Dialogue

/-- Nothing is under way. -/
def idle (codec : Role → PacketCodec) : Dialogue where
  codec := codec
  lane _ := { stream := [], written := [], returned := [] }

/-- Both sides have just set their sessions, each from its own keys. -/
def start (keys : Role → SessionKeys) (codec : Role → PacketCodec) : Dialogue :=
  idle fun role => (codec role).establishSession ((keys role).outbound role)
    ((keys role).inbound role)

/-- Payloads are within the limit of their type, and no side marks a frame as
encrypted before its session exists. -/
def Allows (dialogue : Dialogue) : DialogueEvent → Prop
  | .write role packetType flags payload =>
      (dialogue.codec role).WithinLimits packetType flags payload
  | .read _ => True

def write (aead : Aead) (dialogue : Dialogue) (role : Role) (packetType : PacketType)
    (flags : UInt8) (payload : Bytes) : Dialogue :=
  let ran := PacketCodec.writePacket aead packetType flags payload
    ⟨dialogue.codec role, PacketCodec.openStream, []⟩
  let lane := dialogue.lane role
  {
    codec := Function.update dialogue.codec role ran.2.codec
    lane := Function.update dialogue.lane role { lane with
      stream := lane.stream ++ ran.2.writer.accepted
      written :=
        if ran.1 = .ok () then
          lane.written ++ [(dialogue.codec role).deliveredPacket packetType flags payload]
        else
          lane.written
    }
  }

/-- A side that has read everything its peer wrote waits. -/
def read (aead : Aead) (dialogue : Dialogue) (role : Role) : Dialogue :=
  let lane := dialogue.lane role.peer
  if lane.returned.length < lane.written.length then
    let ran := PacketCodec.readPacket aead ⟨dialogue.codec role, ⟨lane.stream, .earlyEof⟩⟩
    {
      codec := Function.update dialogue.codec role ran.2.codec
      lane := Function.update dialogue.lane role.peer { lane with
        stream := ran.2.reader.remaining
        returned := lane.returned ++ [ran.1]
      }
    }
  else
    dialogue

def step (aead : Aead) (dialogue : Dialogue) : DialogueEvent → Dialogue
  | .write role packetType flags payload => dialogue.write aead role packetType flags payload
  | .read role => dialogue.read aead role

def after (aead : Aead) (start : Dialogue) (events : List DialogueEvent) : Dialogue :=
  Execution.run (step aead) start events

end Dialogue

/-! ## One lane -/

/-- A packet under way, with the state its writer was in. -/
structure Flight where
  codec : PacketCodec
  packetType : PacketType
  flags : UInt8
  payload : Bytes
  frame : Bytes

namespace Flight

def packet (flight : Flight) : RawPacket :=
  flight.codec.deliveredPacket flight.packetType flight.flags flight.payload

def number (flight : Flight) : UInt64 :=
  flight.codec.nextSendSeq

end Flight

/-- The lane from a sender carries the frames of the packets that were written and
not read, each of which the receiver can read once it has read those before. -/
structure Lane.Carries (aead : Aead) (lane : Lane) (sender receiver : PacketCodec)
    (flights : List Flight) : Prop where
  stream : lane.stream = (flights.map Flight.frame).flatten
  written : lane.written.map .ok = lane.returned ++ flights.map fun flight => .ok flight.packet
  sends : ∀ flight ∈ flights, flight.codec.SendsFrame aead flight.packetType flight.flags
    flight.payload flight.frame
  keys : ∀ flight ∈ flights, flight.codec.session.map (·.outboundKey) =
    sender.session.map (·.outboundKey)
  ordered : Execution.Increasing (·.number.toNat) flights
  older : ∀ flight ∈ flights, flight.number < sender.nextSendSeq
  unread : ∀ flight ∈ flights, receiver.IsFresh flight.number
  matching : receiver.Matches sender

namespace Lane.Carries

variable {aead : Aead} {lane : Lane} {sender receiver : PacketCodec} {flights : List Flight}

/-- What a side does in its other lane leaves this one alone. -/
theorem of_same (carries : lane.Carries aead sender receiver flights)
    {sender' receiver' : PacketCodec} (senderSession : sender'.session = sender.session)
    (senderCounter : sender'.nextSendSeq = sender.nextSendSeq)
    (receiverSession : receiver'.session = receiver.session)
    (receiverWindow : receiver'.lastRecvSeq = receiver.lastRecvSeq) :
    lane.Carries aead sender' receiver' flights where
  stream := carries.stream
  written := carries.written
  sends := carries.sends
  keys := by
    rw [senderSession]
    exact carries.keys
  ordered := carries.ordered
  older := by
    rw [senderCounter]
    exact carries.older
  unread := by
    intro flight member last known
    rw [receiverWindow] at known
    exact carries.unread flight member last known
  matching := {
    keys := by
      rw [senderSession, receiverSession]
      exact carries.matching.keys
    fresh := by
      intro last known
      rw [receiverWindow] at known
      rw [senderCounter]
      exact carries.matching.fresh last known
  }

theorem send (carries : lane.Carries aead sender receiver flights)
    (notLast : sender.nextSendSeq ≠ u64Max) {packetType : PacketType} {flags : UInt8}
    {payload frame : Bytes} (sends : sender.SendsFrame aead packetType flags payload frame) :
    Carries aead { lane with
      stream := lane.stream ++ frame
      written := lane.written ++ [sender.deliveredPacket packetType flags payload]
    } sender.advanced receiver (flights ++ [⟨sender, packetType, flags, payload, frame⟩]) where
  stream := by simp [carries.stream]
  written := by simp [carries.written, Flight.packet]
  sends := by
    intro flight member
    rcases List.mem_append.mp member with earlier | now
    · exact carries.sends flight earlier
    · cases List.mem_singleton.mp now
      exact sends
  keys := by
    intro flight member
    rcases List.mem_append.mp member with earlier | now
    · exact carries.keys flight earlier
    · cases List.mem_singleton.mp now
      rfl
  ordered := carries.ordered.concat fun flight member =>
    UInt64.lt_iff_toNat_lt.mp (carries.older flight member)
  older := by
    intro flight member
    rcases List.mem_append.mp member with earlier | now
    · exact UInt64.lt_trans (carries.older flight earlier) (lt_add_one notLast)
    · cases List.mem_singleton.mp now
      exact lt_add_one notLast
  unread := by
    intro flight member
    rcases List.mem_append.mp member with earlier | now
    · exact carries.unread flight earlier
    · cases List.mem_singleton.mp now
      exact carries.matching.fresh
  matching := carries.matching.dropped notLast

theorem receive {flight : Flight}
    (carries : lane.Carries aead sender receiver (flight :: flights)) :
    PacketCodec.readPacket aead ⟨receiver, ⟨lane.stream, .earlyEof⟩⟩ =
        (.ok flight.packet, ⟨receiver.received flight.number,
          ⟨(flights.map Flight.frame).flatten, .earlyEof⟩⟩) ∧
      Carries aead { lane with
        stream := (flights.map Flight.frame).flatten
        returned := lane.returned ++ [.ok flight.packet]
      } sender (receiver.received flight.number) flights := by
  have here : flight ∈ flight :: flights := List.mem_cons_self
  have later {other : Flight} (member : other ∈ flights) : other ∈ flight :: flights :=
    List.mem_cons_of_mem _ member
  constructor
  · rw [carries.stream, List.map_cons, List.flatten_cons]
    exact (carries.sends flight here).read receiver _ _
      ⟨carries.matching.keys.trans (carries.keys flight here).symm, carries.unread flight here⟩
  · exact {
      stream := rfl
      written := by
        rw [carries.written]
        simp
      sends := fun other member => carries.sends other (later member)
      keys := fun other member => carries.keys other (later member)
      ordered := (List.pairwise_cons.mp carries.ordered).2
      older := fun other member => carries.older other (later member)
      unread := by
        intro other member last known
        cases known
        exact UInt64.lt_iff_toNat_lt.mpr ((List.pairwise_cons.mp carries.ordered).1 other member)
      matching := {
        keys := carries.matching.keys
        fresh := by
          intro last known
          cases known
          exact carries.older flight here
      }
    }

end Lane.Carries

/-! ## Whole runs -/

theorem Role.peer_ne (role : Role) : role.peer ≠ role := by
  cases role <;> decide

theorem Role.eq_or_eq_peer (role other : Role) : other = role ∨ other = role.peer := by
  cases role <;> cases other <;> decide

namespace Dialogue

/-- Both lanes carry what was written. -/
def Sound (aead : Aead) (dialogue : Dialogue) : Prop :=
  ∀ role, ∃ flights, (dialogue.lane role).Carries aead (dialogue.codec role)
    (dialogue.codec role.peer) flights

section

variable {aead : Aead} {maxPlaintext : Nat} {dialogue : Dialogue}

theorem idle_sound {codec : Role → PacketCodec}
    (matching : ∀ role, (codec role.peer).Matches (codec role)) : (idle codec).Sound aead := by
  intro role
  exact ⟨[], {
    stream := rfl
    written := rfl
    sends := by simp
    keys := by simp
    ordered := List.Pairwise.nil
    older := by simp
    unread := by simp
    matching := matching role
  }⟩

theorem write_of_sends {role : Role} {packetType : PacketType} {flags : UInt8}
    {payload frame : Bytes}
    (sends : (dialogue.codec role).SendsFrame aead packetType flags payload frame) :
    dialogue.write aead role packetType flags payload = {
      codec := Function.update dialogue.codec role (dialogue.codec role).advanced
      lane := Function.update dialogue.lane role { dialogue.lane role with
        stream := (dialogue.lane role).stream ++ frame
        written := (dialogue.lane role).written ++
          [(dialogue.codec role).deliveredPacket packetType flags payload]
      }
    } := by
  rw [Dialogue.write, sends.written _ [] PacketCodec.openStream_unfailing]
  rfl

theorem write_of_exhausted {role : Role} (last : (dialogue.codec role).nextSendSeq = u64Max)
    (packetType : PacketType) (flags : UInt8) (payload : Bytes) :
    dialogue.write aead role packetType flags payload = dialogue := by
  simp [Dialogue.write, PacketCodec.writePacket_of_exhausted last, PacketCodec.openStream]

theorem read_of_carries {role : Role} {flight : Flight} {flights : List Flight}
    (carries : (dialogue.lane role.peer).Carries aead (dialogue.codec role.peer)
      (dialogue.codec role) (flight :: flights)) :
    dialogue.read aead role = {
      codec := Function.update dialogue.codec role
        ((dialogue.codec role).received flight.number)
      lane := Function.update dialogue.lane role.peer { dialogue.lane role.peer with
        stream := (flights.map Flight.frame).flatten
        returned := (dialogue.lane role.peer).returned ++ [.ok flight.packet]
      }
    } := by
  have waiting : (dialogue.lane role.peer).returned.length <
      (dialogue.lane role.peer).written.length := by
    have lengths := congrArg List.length carries.written
    simp only [List.length_map, List.length_append, List.length_cons] at lengths
    omega
  simp only [Dialogue.read, if_pos waiting, carries.receive.1]

theorem read_of_nothing {role : Role}
    (carries : (dialogue.lane role.peer).Carries aead (dialogue.codec role.peer)
      (dialogue.codec role) []) : dialogue.read aead role = dialogue := by
  have nothing : ¬(dialogue.lane role.peer).returned.length <
      (dialogue.lane role.peer).written.length := by
    have lengths := congrArg List.length carries.written
    simp only [List.length_map, List.map_nil, List.append_nil] at lengths
    omega
  simp only [Dialogue.read, if_neg nothing]

theorem write_session (role : Role) (packetType : PacketType) (flags : UInt8) (payload : Bytes)
    (other : Role) :
    ((dialogue.write aead role packetType flags payload).codec other).session =
      (dialogue.codec other).session := by
  rcases role.eq_or_eq_peer other with rfl | rfl
  · simp [Dialogue.write, PacketCodec.writePacket_session]
  · simp [Dialogue.write, role.peer_ne]

theorem read_session (role other : Role) :
    ((dialogue.read aead role).codec other).session = (dialogue.codec other).session := by
  by_cases waiting : (dialogue.lane role.peer).returned.length <
      (dialogue.lane role.peer).written.length
  · simp only [Dialogue.read, if_pos waiting]
    rcases role.eq_or_eq_peer other with rfl | rfl
    · simp [(PacketCodec.readPacket_session aead _).1]
    · simp [role.peer_ne]
  · simp only [Dialogue.read, if_neg waiting]

theorem step_session (event : DialogueEvent) (other : Role) :
    ((dialogue.step aead event).codec other).session = (dialogue.codec other).session := by
  cases event with
  | write role packetType flags payload => exact write_session role packetType flags payload other
  | read role => exact read_session role other

theorem Allows.step {event : DialogueEvent} (allows : dialogue.Allows event)
    (now : DialogueEvent) : (dialogue.step aead now).Allows event := by
  cases event with
  | write role packetType flags payload =>
      refine ⟨allows.1, fun plain => allows.2 ?_⟩
      rwa [step_session] at plain
  | read role => trivial

theorem Sound.write (correct : aead.Correct maxPlaintext) (large : 65536 ≤ maxPlaintext)
    (sound : dialogue.Sound aead) {role : Role} {packetType : PacketType} {flags : UInt8}
    {payload : Bytes}
    (within : (dialogue.codec role).WithinLimits packetType flags payload) :
    (dialogue.write aead role packetType flags payload).Sound aead := by
  by_cases last : (dialogue.codec role).nextSendSeq = u64Max
  · rwa [write_of_exhausted last]
  rcases PacketCodec.exists_sendsFrame correct large last within with ⟨frame, sends⟩
  rcases sound role with ⟨flights, carries⟩
  rcases sound role.peer with ⟨back, carriesBack⟩
  rw [write_of_sends sends]
  intro other
  rcases role.eq_or_eq_peer other with rfl | rfl
  · refine ⟨flights ++ [⟨dialogue.codec other, packetType, flags, payload, frame⟩], ?_⟩
    simp only [Function.update_self, Function.update_of_ne other.peer_ne]
    exact carries.send last sends
  · refine ⟨back, ?_⟩
    simp only [Function.update_of_ne role.peer_ne, Role.peer_peer, Function.update_self]
    rw [Role.peer_peer] at carriesBack
    exact carriesBack.of_same rfl rfl rfl rfl

theorem Sound.read (sound : dialogue.Sound aead) (role : Role) :
    (dialogue.read aead role).Sound aead := by
  rcases sound role.peer with ⟨flights, carries⟩
  rcases sound role with ⟨back, carriesBack⟩
  rw [Role.peer_peer] at carries
  cases flights with
  | nil => rwa [read_of_nothing carries]
  | cons flight flights =>
      rw [read_of_carries carries]
      intro other
      rcases role.eq_or_eq_peer other with rfl | rfl
      · refine ⟨back, ?_⟩
        simp only [Function.update_of_ne other.peer_ne.symm, Function.update_self,
          Function.update_of_ne other.peer_ne]
        exact carriesBack.of_same rfl rfl rfl rfl
      · refine ⟨flights, ?_⟩
        simp only [Function.update_self, Function.update_of_ne role.peer_ne, Role.peer_peer]
        exact carries.receive.2

theorem Sound.step (correct : aead.Correct maxPlaintext) (large : 65536 ≤ maxPlaintext)
    (sound : dialogue.Sound aead) {event : DialogueEvent} (allows : dialogue.Allows event) :
    (dialogue.step aead event).Sound aead := by
  cases event with
  | write role packetType flags payload => exact sound.write correct large allows
  | read role => exact sound.read role

/-- Every packet is delivered as it was written over the whole run, and no session
changes. -/
theorem Sound.after (correct : aead.Correct maxPlaintext) (large : 65536 ≤ maxPlaintext)
    (sound : dialogue.Sound aead) (events : List DialogueEvent)
    (allowed : ∀ event ∈ events, dialogue.Allows event) :
    (after aead dialogue events).Sound aead := by
  induction events generalizing dialogue with
  | nil => exact sound
  | cons event events induction =>
      refine induction (sound.step correct large (allowed _ List.mem_cons_self)) ?_
      intro later member
      exact (allowed later (List.mem_cons_of_mem _ member)).step event

theorem after_session (events : List DialogueEvent) (role : Role) :
    ((after aead dialogue events).codec role).session = (dialogue.codec role).session :=
  Execution.run_invariant (fun reached : Dialogue =>
    (reached.codec role).session = (dialogue.codec role).session)
    (fun _ event same => (step_session event role).trans same) rfl events

/-- With the same keys on both sides, each opens what the other seals. -/
theorem start_sound {keys : Role → SessionKeys} (shared : keys .client = keys .server)
    {codec : Role → PacketCodec}
    (unseen : ∀ role, (codec role.peer).IsFresh (codec role).nextSendSeq) :
    (start keys codec).Sound aead := by
  apply idle_sound
  intro role
  have same : keys role.peer = keys role := by
    cases role with
    | client => exact shared.symm
    | server => exact shared
  refine ⟨?_, unseen role⟩
  have sealedKey : (keys role.peer).inbound role.peer = (keys role).outbound role := by
    rw [same, SessionKeys.inbound, Role.peer_peer]
  exact congrArg some sealedKey

theorem start_allows (keys : Role → SessionKeys) (codec : Role → PacketCodec)
    {event : DialogueEvent} (fits : event.Fits) : (start keys codec).Allows event := by
  cases event with
  | write role packetType flags payload => exact ⟨fits, fun plain => nomatch plain⟩
  | read role => trivial

theorem write_succeeds (correct : aead.Correct maxPlaintext) (large : 65536 ≤ maxPlaintext)
    {role : Role} {packetType : PacketType} {flags : UInt8} {payload : Bytes}
    (within : (dialogue.codec role).WithinLimits packetType flags payload)
    (notLast : (dialogue.codec role).nextSendSeq ≠ u64Max) :
    (PacketCodec.writePacket aead packetType flags payload
      ⟨dialogue.codec role, PacketCodec.openStream, []⟩).1 = .ok () := by
  rcases PacketCodec.exists_sendsFrame correct large notLast within with ⟨frame, sends⟩
  rw [sends.written _ [] PacketCodec.openStream_unfailing]

theorem Sound.returned_prefix (sound : dialogue.Sound aead) (role : Role) :
    (dialogue.lane role).returned <+: (dialogue.lane role).written.map .ok := by
  rcases sound role with ⟨flights, carries⟩
  exact ⟨_, carries.written.symm⟩

/-- The next read returns the oldest packet that was written and not read. -/
theorem Sound.read_succeeds (sound : dialogue.Sound aead) (role : Role) {packet : RawPacket}
    (next : (dialogue.lane role).written[(dialogue.lane role).returned.length]? = some packet) :
    (PacketCodec.readPacket aead
      ⟨dialogue.codec role.peer, ⟨(dialogue.lane role).stream, .earlyEof⟩⟩).1 = .ok packet := by
  rcases sound role with ⟨flights, carries⟩
  have oldest : flights.head?.map Flight.packet = some packet := by
    have entry := congrArg (·[(dialogue.lane role).returned.length]?) carries.written
    simp only [List.getElem?_map, next, List.getElem?_append_right le_rfl, Nat.sub_self] at entry
    cases flights with
    | nil => cases entry
    | cons flight flights => exact congrArg some (Outcome.ok.inj (Option.some.inj entry)).symm
  cases flights with
  | nil => cases oldest
  | cons flight flights =>
      cases oldest
      rw [carries.receive.1]

theorem Sound.unseen (sound : dialogue.Sound aead) (role : Role) :
    (dialogue.codec role.peer).IsFresh (dialogue.codec role).nextSendSeq := by
  rcases sound role with ⟨flights, carries⟩
  exact carries.matching.fresh

/-- Two new codecs that exchanged packets without a session are ready for one. -/
theorem unseen_of_new (correct : aead.Correct maxPlaintext) (large : 65536 ≤ maxPlaintext)
    (events : List DialogueEvent)
    (allowed : ∀ event ∈ events, (idle fun _ => PacketCodec.new).Allows event) (role : Role) :
    ((after aead (idle fun _ => .new) events).codec role.peer).IsFresh
      ((after aead (idle fun _ => .new) events).codec role).nextSendSeq := by
  apply Sound.unseen
  refine Sound.after correct large (idle_sound ?_) events allowed
  intro _
  exact ⟨rfl, fun _ known => nomatch known⟩

end

end Dialogue

end ChatixProtocol
