import ChatixProtocol.Channel.Link
import ChatixProtocol.Channel.StreamRoundTrip

/-! # Whole conversations

Either side sends packets of any type, in any order, and both set their sessions at any
points in between. The two directions do not depend on each other: what gets through is
what each side's own state machine accepts, one side at a time.
-/

namespace ChatixProtocol

open ConnectionState

inductive LinkEvent where
  | packet (sender : Role) (packetType : PacketType) (flags : UInt8) (payload : Bytes)
  | establish (keys : SessionKeys)

namespace LinkEvent

/-- The types of the packets sent to one side. -/
def incoming (receiver : Role) : List LinkEvent → List PacketType
  | [] => []
  | .packet sender packetType _ _ :: events =>
      if sender.peer = receiver then packetType :: incoming receiver events
      else incoming receiver events
  | .establish _ :: events => incoming receiver events

/-- Every payload is within its type's ceiling, and no packet is marked as encrypted
before the sessions are set. -/
def Allowed : (secured : Bool) → List LinkEvent → Prop
  | _, [] => True
  | secured, .packet _ packetType flags payload :: events =>
      payload.length ≤ packetType.maxPayloadSize.toNat ∧
        (secured = false → PacketHeader.marksEncrypted flags = false) ∧ Allowed secured events
  | _, .establish _ :: events => Allowed true events

/-- The packets as they were sent, if the sides' next packets have the given numbers. -/
def packets : (number : Role → Nat) → (secured : Bool) → List LinkEvent → List RawPacket
  | _, _, [] => []
  | number, secured, .packet sender packetType flags payload :: events =>
      let packet : RawPacket := {
        header := .new packetType.asU8 (if secured then flags ||| Flags.encrypted else flags)
          (UInt32.ofNat payload.length) (UInt64.ofNat (number sender))
        payload
      }
      packet :: packets (Function.update number sender (number sender + 1)) secured events
  | number, _, .establish _ :: events => packets number true events

/-- The payload leaves room for a tag below the length field's bound. -/
def Measured : LinkEvent → Prop
  | .packet _ _ _ payload => payload.length + 16 < 2 ^ 32
  | .establish _ => True

end LinkEvent

namespace Link

open LinkEvent

/-- Play the events. A packet that does not get through ends them. -/
def play (aead : Aead) : List LinkEvent → Effect Link ProtocolError (List RawPacket)
  | [] => pure []
  | .packet sender packetType flags payload :: events => do
      let packet ← carry aead sender packetType flags payload
      let packets ← play aead events
      pure (packet :: packets)
  | .establish keys :: events => do
      .modify fun link => (link.establish .client keys).establish .server keys
      play aead events

/-! ## One event -/

/-- Each side gives its next packet the given number, and both have sessions or neither. -/
def Counts (link : Link) (number : Role → Nat) (secured : Bool) : Prop :=
  ∀ role, Script.Position (link.codec role) (number role) secured

section

variable {aead : Aead} {maxPlaintext left : Nat} {link after : Link} {number : Role → Nat}
  {secured : Bool} {events : List LinkEvent}

theorem Counts.new : Link.new.Counts (fun _ => 1) false :=
  fun _ => .new

theorem Counts.carried (counts : link.Counts number secured) (sender : Role)
    (next : ConnectionState) :
    (link.carried sender next).Counts (Function.update number sender (number sender + 1))
      secured := by
  intro role
  rcases sender.eq_or_eq_peer role with rfl | rfl
  · rw [carried_codec_sender, Function.update_self]
    exact (counts role).advanced
  · rw [carried_codec_peer, Function.update_of_ne (Role.peer_ne sender)]
    exact ⟨(counts sender.peer).counter, (counts sender.peer).session⟩

theorem Counts.establish (counts : link.Counts number secured) (keys : SessionKeys) :
    ((link.establish .client keys).establish .server keys).Counts number true := by
  intro role
  cases role with
  | client => exact (counts .client).establish _ _
  | server => exact (counts .server).establish _ _

theorem play_packet_eq_ok_iff {sender : Role} {packetType : PacketType} {flags : UInt8}
    {payload : Bytes} {packets : List RawPacket} :
    play aead (.packet sender packetType flags payload :: events) link = (.ok packets, after) ↔
      ∃ packet middle, carry aead sender packetType flags payload link = (.ok packet, middle) ∧
        ∃ rest, play aead events middle = (.ok rest, after) ∧ packets = packet :: rest := by
  simp only [play, Effect.bind_eq_ok_iff, Effect.pure_apply, Prod.mk.injEq, Outcome.ok.injEq]
  constructor
  · intro played
    rcases played with ⟨packet, middle, carried, rest, _, plays, rfl, rfl⟩
    exact ⟨packet, middle, carried, rest, plays, rfl⟩
  · intro played
    rcases played with ⟨packet, middle, carried, rest, plays, rfl⟩
    exact ⟨packet, middle, carried, rest, after, plays, rfl, rfl⟩

/-- A packet that got through is what its receiver accepts next, and concerns only it. -/
theorem receiveAll_packet {sender : Role} {packetType : PacketType} {flags : UInt8}
    {payload : Bytes} {next : ConnectionState}
    (receives : (link.state sender.peer).receive sender.peer packetType = .ok next)
    (role : Role) :
    receiveAll role (link.state role)
        (incoming role (.packet sender packetType flags payload :: events)) =
      receiveAll role ((link.carried sender next).state role) (incoming role events) := by
  rcases sender.eq_or_eq_peer role with rfl | rfl
  · rw [incoming, if_neg (Role.peer_ne role), carried_state_sender]
  · rw [incoming, if_pos rfl, receiveAll, receives, Outcome.ok_bind, carried_state_peer]

/-! ## Whole lists of events -/

/-- What got through was allowed, was read as it was sent, and was accepted by each
side's state machine. -/
theorem accepts_of_play (correct : aead.Correct maxPlaintext) (large : 65536 ≤ maxPlaintext)
    (measured : ∀ event ∈ events, event.Measured) (inStep : link.InStep (left + events.length))
    (counts : link.Counts number secured) {packets : List RawPacket}
    (played : play aead events link = (.ok packets, after)) :
    Allowed secured events ∧ packets = LinkEvent.packets number secured events ∧
      ∀ role, receiveAll role (link.state role) (incoming role events) =
        .ok (after.state role) := by
  induction events generalizing link number secured packets with
  | nil =>
      cases played
      exact ⟨trivial, rfl, fun _ => rfl⟩
  | cons event events induction =>
      have laterMeasured : ∀ event ∈ events, event.Measured :=
        fun later member => measured later (List.mem_cons_of_mem _ member)
      cases event with
      | establish keys =>
          have played' : play aead events
              ((link.establish .client keys).establish .server keys) = (.ok packets, after) :=
            played
          rcases induction laterMeasured
            ((inStep.establish keys).mono (Nat.add_le_add_left (Nat.le_succ _) _))
            (counts.establish keys) played' with ⟨allowed, same, accepted⟩
          refine ⟨allowed, same, fun role => ?_⟩
          have states : link.state role =
              ((link.establish .client keys).establish .server keys).state role := rfl
          rw [states]
          exact accepted role
      | packet sender packetType flags payload =>
          rcases play_packet_eq_ok_iff.mp played with ⟨packet, middle, carried, rest, plays, rfl⟩
          have short : payload.length + 16 < 2 ^ 32 := measured _ List.mem_cons_self
          rcases (carry_eq_ok_iff correct large (inStep.matching sender) short).mp carried with
            ⟨_, within, rfl, next, receives, rfl⟩
          rcases induction laterMeasured (inStep.carried sender next) (counts.carried sender next)
            plays with ⟨allowed, rfl, accepted⟩
          refine ⟨⟨within.1, ?_, allowed⟩, ?_, fun role => ?_⟩
          · intro plain
            apply within.2
            have session := (counts sender).session
            rw [plain] at session
            simpa using session
          · rw [(counts sender).deliveredPacket]
            rfl
          · rw [receiveAll_packet receives role]
            exact accepted role

/-- What is allowed and accepted by each side's state machine gets through. -/
theorem play_of_accepts (correct : aead.Correct maxPlaintext) (large : 65536 ≤ maxPlaintext)
    (measured : ∀ event ∈ events, event.Measured) (inStep : link.InStep (left + events.length))
    (counts : link.Counts number secured) (allowed : Allowed secured events)
    (accepted : ∀ role, ∃ final,
      receiveAll role (link.state role) (incoming role events) = .ok final) :
    ∃ packets after, play aead events link = (.ok packets, after) := by
  induction events generalizing link number secured with
  | nil => exact ⟨[], link, rfl⟩
  | cons event events induction =>
      have laterMeasured : ∀ event ∈ events, event.Measured :=
        fun later member => measured later (List.mem_cons_of_mem _ member)
      cases event with
      | establish keys =>
          exact induction laterMeasured
            ((inStep.establish keys).mono (Nat.add_le_add_left (Nat.le_succ _) _))
            (counts.establish keys) allowed accepted
      | packet sender packetType flags payload =>
          rcases accepted sender.peer with ⟨final, whole⟩
          rw [incoming, if_pos rfl] at whole
          rcases Outcome.bind_eq_ok_iff.mp whole with ⟨next, receives, _⟩
          have short : payload.length + 16 < 2 ^ 32 := measured _ List.mem_cons_self
          have within : (link.codec sender).WithinLimits packetType flags payload := by
            refine ⟨allowed.1, ?_⟩
            intro plain
            apply allowed.2.1
            rw [← (counts sender).session, plain]
            rfl
          have carried := (carry_eq_ok_iff correct large (inStep.matching sender) short).mpr
            ⟨inStep.notLast sender, within, rfl, next, receives, rfl⟩
          have laterAccepted : ∀ role, ∃ final, receiveAll role
              ((link.carried sender next).state role) (incoming role events) = .ok final := by
            intro role
            rw [← receiveAll_packet receives role]
            exact accepted role
          rcases induction laterMeasured (inStep.carried sender next)
            (counts.carried sender next) allowed.2.2 laterAccepted with ⟨rest, after, plays⟩
          exact ⟨_, after, play_packet_eq_ok_iff.mpr ⟨_, _, carried, rest, plays, rfl⟩⟩

end

/-- From a new connection, any interleaving of the two directions completes exactly if each
side's state machine accepts the types sent to it, every payload is within its limit and
no packet is marked as encrypted before the sessions are set. Every packet is then read
as it was sent, and each side ends in the state its own packets lead to. -/
theorem conversation_completes_iff (aead : Aead) (maxPlaintext : Nat)
    (correct : aead.Correct maxPlaintext) (large : 65536 ≤ maxPlaintext)
    (events : List LinkEvent) (measured : ∀ event ∈ events, event.Measured)
    (fewer : events.length ≤ 2 ^ 64 - 2) :
    ((∃ packets after, play aead events .new = (.ok packets, after)) ↔
      (∀ role, ∃ final, receiveAll role (.initial role) (incoming role events) = .ok final) ∧
        Allowed false events) ∧
    ∀ packets after, play aead events .new = (.ok packets, after) →
      packets = LinkEvent.packets (fun _ => 1) false events ∧
        ∀ role, receiveAll role (.initial role) (incoming role events) =
          .ok (after.state role) := by
  have inStep : Link.new.InStep (0 + events.length) :=
    InStep.new.mono (by rw [Nat.zero_add]; exact fewer)
  constructor
  · constructor
    · intro completes
      rcases completes with ⟨packets, after, played⟩
      rcases accepts_of_play correct large measured inStep .new played with
        ⟨allowed, _, accepted⟩
      exact ⟨fun role => ⟨_, accepted role⟩, allowed⟩
    · intro accepts
      exact play_of_accepts correct large measured inStep .new accepts.2 accepts.1
  · intro packets after played
    exact (accepts_of_play correct large measured inStep .new played).2

/-! Both hellos cross, the sides set their sessions, and both confirmations cross. -/

def greeting : List LinkEvent :=
  [.packet .client .clientHello 0 [1], .packet .server .serverHello 0 [2],
    .establish ⟨.replicate 32 1, .replicate 32 2⟩,
    .packet .server .serverAccept 0 [1], .packet .client .clientFinish 0 [1]]

theorem greeting_completes :
    ∃ packets after, play (.transparent 65536) greeting .new = (.ok packets, after) ∧
      packets.map (·.payload) = [[1], [2], [1], [1]] ∧
      after.state .client = .awaitingAuthChallenge ∧ after.state .server = .awaitingAuth := by
  have measured : ∀ event ∈ greeting, event.Measured := by
    simp [greeting, LinkEvent.Measured]
  have completes := conversation_completes_iff (.transparent 65536) 65536
    (Aead.transparent_correct 65536) (Nat.le_refl _) greeting measured (by decide)
  have client : receiveAll .client (.initial .client) (incoming .client greeting) =
      .ok .awaitingAuthChallenge := by decide
  have server : receiveAll .server (.initial .server) (incoming .server greeting) =
      .ok .awaitingAuth := by decide
  have accepted : ∀ role, ∃ final,
      receiveAll role (.initial role) (incoming role greeting) = .ok final := by
    intro role
    cases role with
    | client => exact ⟨_, client⟩
    | server => exact ⟨_, server⟩
  have allowed : Allowed false greeting := by
    refine ⟨by decide, fun _ => rfl, by decide, fun _ => rfl, by decide, ?_, by decide, ?_, trivial⟩
    · intro plain
      cases plain
    · intro plain
      cases plain
  rcases completes.1.mpr ⟨accepted, allowed⟩ with ⟨packets, after, played⟩
  rcases completes.2 packets after played with ⟨rfl, ends⟩
  refine ⟨_, after, played, rfl, ?_, ?_⟩
  · exact (Outcome.ok.inj (client.symm.trans (ends .client))).symm
  · exact (Outcome.ok.inj (server.symm.trans (ends .server))).symm

end Link

end ChatixProtocol
