import ChatixProtocol.Codec.Reading
import ChatixProtocol.Codec.Writing
import ChatixProtocol.ConnectionState
import ChatixProtocol.Crypto.Session
import ChatixProtocol.Foundation.Execution
import Mathlib.Logic.Function.Basic

/-! # Two endpoints over an untrusted network

A client and a server codec share one pair of direction keys. The callers on
both sides establish the session, write packets and read whatever bytes the
network chooses to deliver. What each side sent and received under the session
is recorded beside its codec, and so is every call of the sealing operation.
-/

namespace ChatixProtocol

namespace Role

def peer : Role → Role
  | .client => .server
  | .server => .client

@[simp] theorem peer_peer (role : Role) : role.peer.peer = role := by
  cases role <;> rfl

end Role

namespace SessionKeys

/-- The key a side seals with. -/
def outbound (keys : SessionKeys) : Role → FixedBytes 32
  | .client => keys.clientToServer
  | .server => keys.serverToClient

/-- The key a side opens with, which its peer seals with. -/
def inbound (keys : SessionKeys) (role : Role) : FixedBytes 32 :=
  keys.outbound role.peer

def cipher (keys : SessionKeys) (role : Role) : SessionCipher where
  outboundKey := keys.outbound role
  inboundKey := keys.inbound role

theorem outbound_injective {keys : SessionKeys}
    (distinct : keys.clientToServer ≠ keys.serverToClient) :
    Function.Injective keys.outbound := by
  intro left right equal
  cases left <;> cases right
  · rfl
  · exact absurd equal distinct
  · exact absurd equal.symm distinct
  · rfl

end SessionKeys

/-- A packet handed to a write under a session, and the sequence number it got. -/
structure SentPacket where
  packetType : PacketType
  flags : UInt8
  payload : Bytes
  sequence : UInt64
  deriving DecidableEq

/-- The packet a reader should obtain for it. -/
def SentPacket.packet (sent : SentPacket) : RawPacket where
  header := .new sent.packetType.asU8 (sent.flags ||| Flags.encrypted)
    (UInt32.ofNat sent.payload.length) sent.sequence
  payload := sent.payload

structure Endpoint where
  codec : PacketCodec
  sent : List SentPacket
  received : List RawPacket

structure Channel where
  endpoint : Role → Endpoint
  calls : List SealCall

/-- One call made by either side's caller. Writes may meet any stream and a
cipher that refuses; reads are served whatever bytes the network chooses. -/
inductive ChannelEvent where
  | establish (role : Role)
  | write (role : Role) (sealing : Aead) (writer : Writer) (packetType : PacketType)
      (flags : UInt8) (payload : Bytes)
  | read (role : Role) (reader : Reader)

namespace Endpoint

def new : Endpoint where
  codec := .new
  sent := []
  received := []

def establish (keys : SessionKeys) (role : Role) (endpoint : Endpoint) : Endpoint :=
  { endpoint with
    codec := endpoint.codec.establishSession (keys.outbound role) (keys.inbound role) }

/-- Record a packet once the write sealed it, also when the stream failed later. -/
def write (sealing : Aead) (packetType : PacketType) (flags : UInt8) (payload : Bytes)
    (writer : Writer) (calls : List SealCall) (endpoint : Endpoint) : Endpoint × List SealCall :=
  let after := (PacketCodec.writePacket sealing packetType flags payload
    ⟨endpoint.codec, writer, calls⟩).2
  let sealedNow := (after.calls.drop calls.length).any (·.sealed.isSome)
  let packet : SentPacket :=
    { packetType, flags, payload, sequence := endpoint.codec.nextSendSeq }
  ({ endpoint with
      codec := after.codec
      sent := if sealedNow then endpoint.sent ++ [packet] else endpoint.sent },
    after.calls)

/-- Record a packet returned while a session is set. -/
def read (opening : Aead) (reader : Reader) (endpoint : Endpoint) : Endpoint :=
  let ran := PacketCodec.readPacket opening ⟨endpoint.codec, reader⟩
  { endpoint with
    codec := ran.2.codec
    received :=
      match ran.1, endpoint.codec.session with
      | .ok packet, some _ => endpoint.received ++ [packet]
      | _, _ => endpoint.received }

end Endpoint

namespace Channel

def new : Channel where
  endpoint := fun _ => .new
  calls := []

def set (channel : Channel) (role : Role) (endpoint : Endpoint) : Channel :=
  { channel with endpoint := Function.update channel.endpoint role endpoint }

@[simp] theorem set_same (channel : Channel) (role : Role) (endpoint : Endpoint) :
    (channel.set role endpoint).endpoint role = endpoint := by
  simp [set]

theorem set_other {channel : Channel} {role other : Role} {endpoint : Endpoint}
    (different : other ≠ role) :
    (channel.set role endpoint).endpoint other = channel.endpoint other := by
  simp [set, different]

def step (opening : Aead) (keys : SessionKeys) (channel : Channel) :
    ChannelEvent → Channel
  | .establish role => channel.set role ((channel.endpoint role).establish keys role)
  | .write role sealing writer packetType flags payload =>
      let written := (channel.endpoint role).write sealing packetType flags payload writer
        channel.calls
      { channel.set role written.1 with calls := written.2 }
  | .read role reader => channel.set role ((channel.endpoint role).read opening reader)

/-- The state after the given calls, from two fresh codecs. -/
def after (opening : Aead) (keys : SessionKeys) (events : List ChannelEvent) : Channel :=
  Execution.run (step opening keys) new events

end Channel

/-! ## What one call does to an endpoint -/

/-- The cases of a write, with the record of what was sent. -/
inductive Endpoint.WriteStep (sealing : Aead) (packetType : PacketType) (flags : UInt8)
    (payload : Bytes) (endpoint : Endpoint) (calls : List SealCall) :
    Endpoint × List SealCall → Prop
  | exhausted : WriteStep sealing packetType flags payload endpoint calls (endpoint, calls)
  | plain (notLast : endpoint.codec.nextSendSeq ≠ u64Max)
      (plain : endpoint.codec.session = none) :
      WriteStep sealing packetType flags payload endpoint calls
        ({ endpoint with codec := endpoint.codec.advanced }, calls)
  | refused {cipher : SessionCipher} (notLast : endpoint.codec.nextSendSeq ≠ u64Max)
      (secured : endpoint.codec.session = some cipher)
      (refused : (endpoint.codec.sealCall sealing cipher packetType flags payload).sealed =
        none) :
      WriteStep sealing packetType flags payload endpoint calls
        ({ endpoint with codec := endpoint.codec.advanced },
          calls ++ [endpoint.codec.sealCall sealing cipher packetType flags payload])
  | sent {cipher : SessionCipher} {ciphertext : Bytes}
      (notLast : endpoint.codec.nextSendSeq ≠ u64Max)
      (secured : endpoint.codec.session = some cipher)
      (sealed : (endpoint.codec.sealCall sealing cipher packetType flags payload).sealed =
        some ciphertext) :
      WriteStep sealing packetType flags payload endpoint calls
        ({ endpoint with
            codec := endpoint.codec.advanced
            sent := endpoint.sent ++
              [{ packetType, flags, payload, sequence := endpoint.codec.nextSendSeq }] },
          calls ++ [endpoint.codec.sealCall sealing cipher packetType flags payload])

theorem Endpoint.write_step (sealing : Aead) (packetType : PacketType) (flags : UInt8)
    (payload : Bytes) (writer : Writer) (calls : List SealCall) (endpoint : Endpoint) :
    endpoint.WriteStep sealing packetType flags payload calls
      (endpoint.write sealing packetType flags payload writer calls) := by
  have step := PacketCodec.writePacket_step sealing packetType flags payload
    ⟨endpoint.codec, writer, calls⟩
  rw [Endpoint.write]
  generalize (PacketCodec.writePacket sealing packetType flags payload
    ⟨endpoint.codec, writer, calls⟩).2 = after at step
  rcases after with ⟨codec, writer', calls'⟩
  cases step with
  | exhausted last => simpa using .exhausted
  | plain notLast plain => simpa using .plain notLast plain
  | secured notLast secured =>
      simp only [List.append_eq, List.drop_left', List.any_cons, List.any_nil, Bool.or_false]
      cases result : (endpoint.codec.sealCall sealing _ packetType flags payload).sealed with
      | none => exact .refused notLast secured result
      | some ciphertext => exact .sent notLast secured result

/-- The cases of a read, with the record of what was returned. -/
inductive Endpoint.ReadStep (opening : Aead) (endpoint : Endpoint) : Endpoint → Prop
  | silent (codec : PacketCodec) (session : codec.session = endpoint.codec.session)
      (counter : codec.nextSendSeq = endpoint.codec.nextSendSeq)
      (window : codec.lastRecvSeq = endpoint.codec.lastRecvSeq ∨
        ∃ seq, endpoint.codec.IsFresh seq ∧ codec.lastRecvSeq = some seq) :
      ReadStep opening endpoint { endpoint with codec }
  | returned {header : PacketHeader} {payload : Bytes} {packet : RawPacket}
      {cipher : SessionCipher} (secured : endpoint.codec.session = some cipher)
      (admitted : PacketCodec.admitHeader endpoint.codec.session header = .ok ())
      (fresh : endpoint.codec.IsFresh header.sequence)
      (complete : payload.length = header.payloadLen.toNat)
      (opened : PacketCodec.openFrame opening endpoint.codec.session header payload =
        .ok packet) :
      ReadStep opening endpoint { endpoint with
        codec := endpoint.codec.received header.sequence
        received := endpoint.received ++ [packet] }

theorem Endpoint.read_step (opening : Aead) (reader : Reader) (endpoint : Endpoint) :
    endpoint.ReadStep opening (endpoint.read opening reader) := by
  rcases reader with ⟨input, ending⟩
  rw [Endpoint.read]
  rcases ran : PacketCodec.readPacket opening ⟨endpoint.codec, input, ending⟩ with
    ⟨result, codec', rest, ending'⟩
  cases PacketCodec.readPacket_cases input ran with
  | shortHeader => exact .silent _ rfl rfl (.inl rfl)
  | refused => exact .silent _ rfl rfl (.inl rfl)
  | stale => exact .silent _ rfl rfl (.inl rfl)
  | shortPayload _ fresh => exact .silent _ rfl rfl (.inr ⟨_, fresh, rfl⟩)
  | @frame header payload _ admitted fresh complete =>
      cases opened : PacketCodec.openFrame opening endpoint.codec.session header payload with
      | panic => exact .silent _ rfl rfl (.inr ⟨_, fresh, rfl⟩)
      | err error => exact .silent _ rfl rfl (.inr ⟨_, fresh, rfl⟩)
      | ok packet =>
          cases secured : endpoint.codec.session with
          | none => exact .silent _ rfl rfl (.inr ⟨_, fresh, rfl⟩)
          | some cipher =>
              rw [secured] at admitted opened
              exact .returned secured (by rwa [secured]) fresh complete (by rwa [secured])

/-! ## Sessions

A side's session, once set, is its half of the shared keys. -/

namespace Channel

def SessionsShared (keys : SessionKeys) (channel : Channel) : Prop :=
  ∀ role cipher, (channel.endpoint role).codec.session = some cipher → cipher = keys.cipher role

theorem new_sessionsShared (keys : SessionKeys) : Channel.new.SessionsShared keys := by
  intro role cipher secured
  cases secured

theorem sessionsShared_set {keys : SessionKeys} {channel : Channel}
    (shared : channel.SessionsShared keys) {acting : Role} {endpoint : Endpoint}
    (here : ∀ cipher, endpoint.codec.session = some cipher → cipher = keys.cipher acting) :
    (channel.set acting endpoint).SessionsShared keys := by
  intro role cipher secured
  by_cases same : role = acting
  · subst same
    rw [set_same] at secured
    exact here cipher secured
  · rw [set_other same] at secured
    exact shared role cipher secured

theorem sessionsShared_step {opening : Aead} {keys : SessionKeys} {channel : Channel}
    (shared : channel.SessionsShared keys) (event : ChannelEvent) :
    (channel.step opening keys event).SessionsShared keys := by
  cases event with
  | establish acting =>
      refine sessionsShared_set shared ?_
      rintro cipher ⟨⟩
      rfl
  | write acting sealing writer packetType flags payload =>
      refine sessionsShared_set shared ?_
      have written := Endpoint.write_step sealing packetType flags payload writer channel.calls
        (channel.endpoint acting)
      generalize (channel.endpoint acting).write sealing packetType flags payload writer
        channel.calls = result at written
      cases written <;> exact shared acting
  | read acting reader =>
      refine sessionsShared_set shared ?_
      have taken := Endpoint.read_step opening reader (channel.endpoint acting)
      generalize (channel.endpoint acting).read opening reader = result at taken
      cases taken with
      | silent codec session => exact session ▸ shared acting
      | returned => exact shared acting

theorem session_set_of_kept {channel : Channel} {acting : Role} {endpoint : Endpoint}
    (kept : endpoint.codec.session = (channel.endpoint acting).codec.session) (role : Role) :
    ((channel.set acting endpoint).endpoint role).codec.session =
      (channel.endpoint role).codec.session := by
  by_cases same : role = acting
  · subst same
    rw [set_same, kept]
  · rw [set_other same]

theorem session_step (opening : Aead) (keys : SessionKeys) (role : Role) (channel : Channel)
    (event : ChannelEvent) :
    ((channel.step opening keys event).endpoint role).codec.session.isSome = true ↔
      (channel.endpoint role).codec.session.isSome = true ∨ event = .establish role := by
  cases event with
  | establish acting =>
      by_cases same : role = acting
      · subst same
        simp [step, Endpoint.establish, PacketCodec.establishSession]
      · simp [step, set_other same, Ne.symm same]
  | write acting sealing writer packetType flags payload =>
      have kept : ((channel.endpoint acting).write sealing packetType flags payload writer
          channel.calls).1.codec.session = (channel.endpoint acting).codec.session :=
        PacketCodec.writePacket_session sealing packetType flags payload
          ⟨(channel.endpoint acting).codec, writer, channel.calls⟩
      simpa [step] using congrArg (·.isSome = true) (session_set_of_kept kept role)
  | read acting reader =>
      have kept : ((channel.endpoint acting).read opening reader).codec.session =
          (channel.endpoint acting).codec.session :=
        (PacketCodec.readPacket_session opening ⟨(channel.endpoint acting).codec, reader⟩).1
      simpa [step] using congrArg (·.isSome = true) (session_set_of_kept kept role)

theorem after_sessionsShared (opening : Aead) (keys : SessionKeys) (events : List ChannelEvent) :
    (after opening keys events).SessionsShared keys :=
  Execution.run_invariant (SessionsShared keys)
    (fun _ event shared => sessionsShared_step shared event) (new_sessionsShared keys) events

/-- A side has a session exactly once it called `establish_session`, and the session is its
half of the shared keys. -/
theorem session_after_iff (opening : Aead) (keys : SessionKeys) (events : List ChannelEvent)
    (role : Role) {cipher : SessionCipher} :
    ((after opening keys events).endpoint role).codec.session = some cipher ↔
      ChannelEvent.establish role ∈ events ∧ cipher = keys.cipher role := by
  have shared := after_sessionsShared opening keys events role
  have set : ((after opening keys events).endpoint role).codec.session.isSome = true ↔
      ChannelEvent.establish role ∈ events := by
    have run : ((after opening keys events).endpoint role).codec.session.isSome = true ↔
        (new.endpoint role).codec.session.isSome = true ∨
          ∃ event ∈ events, event = .establish role :=
      Execution.run_iff (fun channel => (channel.endpoint role).codec.session.isSome = true)
        (· = .establish role) (session_step opening keys role) new events
    rw [run]
    simp [new, Endpoint.new, PacketCodec.new]
  constructor
  · intro secured
    exact ⟨set.mp (Option.isSome_of_eq_some secured), shared cipher secured⟩
  · intro established
    rcases established with ⟨member, rfl⟩
    rcases Option.isSome_iff_exists.mp (set.mpr member) with ⟨cipher, secured⟩
    rw [secured, shared cipher secured]

/-- What a read returns is on record exactly if the reader had called `establish_session`. -/
theorem received_after_read_iff (opening : Aead) (keys : SessionKeys)
    (events : List ChannelEvent) (role : Role) (reader : Reader) {packet : RawPacket}
    (returned : (PacketCodec.readPacket opening
      ⟨((after opening keys events).endpoint role).codec, reader⟩).1 = .ok packet) :
    ((after opening keys (events ++ [.read role reader])).endpoint role).received =
        ((after opening keys events).endpoint role).received ++ [packet] ↔
      ChannelEvent.establish role ∈ events := by
  have reached : after opening keys (events ++ [.read role reader]) =
      (after opening keys events).step opening keys (.read role reader) :=
    Execution.run_append _ _ _ _
  rw [reached, step, set_same, Endpoint.read]
  dsimp only
  rw [returned]
  cases secured : ((after opening keys events).endpoint role).codec.session with
  | none =>
      have unset : ChannelEvent.establish role ∉ events := by
        intro member
        have set := (session_after_iff opening keys events role).mpr ⟨member, rfl⟩
        rw [secured] at set
        cases set
      simp [unset]
  | some cipher =>
      have member := ((session_after_iff opening keys events role).mp secured).1
      simp [member]

/-- What a write sends is on record only if the writer had called `establish_session`. -/
theorem establish_of_sent_after_write (opening : Aead) (keys : SessionKeys)
    (events : List ChannelEvent) (role : Role) (sealing : Aead) (writer : Writer)
    (packetType : PacketType) (flags : UInt8) (payload : Bytes)
    (recorded : ((after opening keys
        (events ++ [.write role sealing writer packetType flags payload])).endpoint role).sent ≠
      ((after opening keys events).endpoint role).sent) :
    ChannelEvent.establish role ∈ events := by
  have reached : after opening keys (events ++
      [.write role sealing writer packetType flags payload]) =
        (after opening keys events).step opening keys
          (.write role sealing writer packetType flags payload) :=
    Execution.run_append _ _ _ _
  have written := Endpoint.write_step sealing packetType flags payload writer
    (after opening keys events).calls ((after opening keys events).endpoint role)
  rw [reached, step] at recorded
  dsimp only at recorded
  rw [set_same] at recorded
  generalize ((after opening keys events).endpoint role).write sealing packetType flags payload
    writer (after opening keys events).calls = result at written recorded
  cases written with
  | sent _ secured => exact ((session_after_iff opening keys events role).mp secured).1
  | exhausted => exact absurd rfl recorded
  | plain => exact absurd rfl recorded
  | refused => exact absurd rfl recorded

end Channel

/-! ## A sample frame

The client's first packet under a session, as the cipher and the wire saw it. -/

def pingCall : SealCall where
  key := .replicate 32 1
  nonce := seqNonce 1
  aad := [20, 1]
  plaintext := List.replicate 8 7
  sealed := some (List.replicate 8 7 ++ List.replicate 16 0)

def pingFrame : Bytes :=
  (PacketHeader.new 20 1 24 1).toBytes.bytes ++ (List.replicate 8 7 ++ List.replicate 16 0)

end ChatixProtocol
