import ChatixProtocol.Channel.Endpoints
import Mathlib.Order.Nat

/-! # The secure channel

Whatever the network delivers, the packets one side's reads return under the
session are packets its peer wrote under the session, in order and without
repetition. The header travels in clear: its type and flags are bound by the
associated data, its sequence number by the nonce, and its remaining fields by
validation and by the length of the opened payload.
-/

namespace ChatixProtocol

open Execution

/-! ## What is known about one endpoint -/

/-- The packet came out of a frame that opened under the given key. -/
def RawPacket.OpenedUnder (opening : Aead) (key : FixedBytes 32) (packet : RawPacket) : Prop :=
  packet.payload.length < 2 ^ 32 ∧
    packet.header = .new packet.header.packetType packet.header.flags
      (UInt32.ofNat packet.payload.length) packet.header.sequence ∧
    ∃ ciphertext, opening.openInPlace key (seqNonce packet.header.sequence)
      (headerAad packet.header.packetType packet.header.flags).bytes ciphertext =
        some packet.payload

/-- Sent and received sequence numbers grow, below the counter and up to the
window. -/
structure Endpoint.Ordered (endpoint : Endpoint) : Prop where
  sentIncreasing : Increasing (·.sequence.toNat) endpoint.sent
  sentBelow : ∀ sent ∈ endpoint.sent, sent.sequence < endpoint.codec.nextSendSeq
  receivedIncreasing : Increasing (·.header.sequence.toNat) endpoint.received
  receivedWithin : ∀ packet ∈ endpoint.received, ∃ last,
    endpoint.codec.lastRecvSeq = some last ∧ packet.header.sequence ≤ last

namespace Endpoint.Ordered

theorem new : Endpoint.new.Ordered where
  sentIncreasing := List.Pairwise.nil
  sentBelow := by simp [Endpoint.new]
  receivedIncreasing := List.Pairwise.nil
  receivedWithin := by simp [Endpoint.new]

theorem establish {endpoint : Endpoint} (ordered : endpoint.Ordered) (keys : SessionKeys)
    (role : Role) : (endpoint.establish keys role).Ordered where
  sentIncreasing := ordered.sentIncreasing
  sentBelow := ordered.sentBelow
  receivedIncreasing := ordered.receivedIncreasing
  receivedWithin := ordered.receivedWithin

theorem advanced {endpoint : Endpoint} (ordered : endpoint.Ordered)
    (notLast : endpoint.codec.nextSendSeq ≠ u64Max) :
    Endpoint.Ordered { endpoint with codec := endpoint.codec.advanced } where
  sentIncreasing := ordered.sentIncreasing
  sentBelow sent member := UInt64.lt_trans (ordered.sentBelow sent member) (lt_add_one notLast)
  receivedIncreasing := ordered.receivedIncreasing
  receivedWithin := ordered.receivedWithin

theorem write {sealing : Aead} {packetType : PacketType} {flags : UInt8} {payload : Bytes}
    {endpoint : Endpoint} {calls : List SealCall} {result : Endpoint × List SealCall}
    (ordered : endpoint.Ordered)
    (step : endpoint.WriteStep sealing packetType flags payload calls result) :
    result.1.Ordered := by
  cases step with
  | exhausted => exact ordered
  | plain notLast plain => exact ordered.advanced notLast
  | refused notLast secured refused => exact ordered.advanced notLast
  | sent notLast secured sealed =>
      exact {
        sentIncreasing := ordered.sentIncreasing.concat fun sent member =>
          ordered.sentBelow sent member
        sentBelow := by
          intro sent member
          rcases List.mem_append.mp member with earlier | newest
          · exact (ordered.advanced notLast).sentBelow sent earlier
          · rw [List.mem_singleton.mp newest]
            exact lt_add_one notLast
        receivedIncreasing := ordered.receivedIncreasing
        receivedWithin := ordered.receivedWithin
      }

/-- A fresh sequence number lies above every packet received before. -/
theorem received_lt {endpoint : Endpoint} (ordered : endpoint.Ordered) {seq : UInt64}
    (fresh : endpoint.codec.IsFresh seq) {packet : RawPacket}
    (member : packet ∈ endpoint.received) : packet.header.sequence < seq := by
  rcases ordered.receivedWithin packet member with ⟨last, known, within⟩
  exact UInt64.lt_of_le_of_lt within (fresh last known)

theorem read {opening : Aead} {endpoint endpoint' : Endpoint} (ordered : endpoint.Ordered)
    (step : endpoint.ReadStep opening endpoint') : endpoint'.Ordered := by
  cases step with
  | silent codec session counter window =>
      refine ⟨ordered.sentIncreasing, counter ▸ ordered.sentBelow, ordered.receivedIncreasing, ?_⟩
      intro packet member
      rcases window with same | ⟨seq, fresh, moved⟩
      · rw [same]
        exact ordered.receivedWithin packet member
      · exact ⟨seq, moved, UInt64.le_of_lt (ordered.received_lt fresh member)⟩
  | @returned header _ packet cipher secured admitted fresh complete opened =>
      have sameSequence := PacketCodec.openFrame_sequence opened
      refine ⟨ordered.sentIncreasing, ordered.sentBelow, ?_, ?_⟩
      · refine ordered.receivedIncreasing.concat fun earlier member => ?_
        rw [sameSequence]
        exact ordered.received_lt fresh member
      · intro found member
        refine ⟨header.sequence, rfl, ?_⟩
        rcases List.mem_append.mp member with earlier | newest
        · exact UInt64.le_of_lt (ordered.received_lt fresh earlier)
        · rw [List.mem_singleton.mp newest, sameSequence]
          exact UInt64.le_refl _

end Endpoint.Ordered

/-- What a read under a session returns was opened under its inbound key. -/
theorem RawPacket.openedUnder_of_openFrame {opening : Aead} {cipher : SessionCipher}
    {header : PacketHeader} {payload : Bytes} {packet : RawPacket}
    (admitted : PacketCodec.admitHeader (some cipher) header = .ok ())
    (complete : payload.length = header.payloadLen.toNat)
    (opened : PacketCodec.openFrame opening (some cipher) header payload = .ok packet) :
    packet.OpenedUnder opening cipher.inboundKey := by
  rcases PacketCodec.admitHeader_eq_ok_iff.mp admitted with ⟨valid, encrypted, _⟩
  have encrypted := encrypted rfl
  rcases PacketCodec.openFrame_eq_ok_iff.mp opened with ⟨plain, _⟩ | ⟨_, plaintext,
    opens, rfl⟩
  · rw [encrypted] at plain
    cases plain
  · have length := opening.length_openInPlace opens
    have bound := header.payloadLen.toNat_lt
    have shape := (PacketHeader.validate_eq_ok_iff.mp valid).2
    refine ⟨by dsimp only; omega, ?_, payload, opens⟩
    dsimp only
    rw [shape]
    rfl

/-! ## What is known about the whole channel -/

/-- Every call of the cipher that succeeded sealed a packet on record. -/
def Channel.SealedOnRecord (keys : SessionKeys) (channel : Channel) : Prop :=
  ∀ call ∈ channel.calls, ∀ ciphertext, call.sealed = some ciphertext →
    ∃ role, ∃ sent ∈ (channel.endpoint role).sent,
      call.key = keys.outbound role ∧ call.nonce = seqNonce sent.sequence ∧
      call.aad = (headerAad sent.packetType.asU8 (sent.flags ||| Flags.encrypted)).bytes ∧
      call.plaintext = sent.payload

structure Channel.Sound (opening : Aead) (keys : SessionKeys) (channel : Channel) : Prop where
  shared : channel.SessionsShared keys
  ordered : ∀ role, (channel.endpoint role).Ordered
  onRecord : channel.SealedOnRecord keys
  opened : ∀ role, ∀ packet ∈ (channel.endpoint role).received,
    packet.OpenedUnder opening (keys.inbound role)

namespace Channel.Sound

variable {opening : Aead} {keys : SessionKeys} {channel : Channel}

theorem new (opening : Aead) (keys : SessionKeys) : Channel.new.Sound opening keys where
  shared := Channel.new_sessionsShared keys
  ordered _ := Endpoint.Ordered.new
  onRecord := by simp [Channel.SealedOnRecord, Channel.new]
  opened := by simp [Channel.new, Endpoint.new]

theorem ordered_set (sound : channel.Sound opening keys) {acting : Role} {endpoint : Endpoint}
    (here : endpoint.Ordered) (role : Role) :
    ((channel.set acting endpoint).endpoint role).Ordered := by
  by_cases same : role = acting
  · subst same
    rwa [set_same]
  · rw [set_other same]
    exact sound.ordered role

/-- Packets stay on record when a side's record only grows. -/
theorem onRecord_set (sound : channel.Sound opening keys) {acting : Role} {endpoint : Endpoint}
    (grows : (channel.endpoint acting).sent ⊆ endpoint.sent) :
    (channel.set acting endpoint).SealedOnRecord keys := by
  intro call member ciphertext sealed
  rcases sound.onRecord call member ciphertext sealed with ⟨role, sent, recorded, bound⟩
  refine ⟨role, sent, ?_, bound⟩
  by_cases same : role = acting
  · subst same
    rw [set_same]
    exact grows recorded
  · rwa [set_other same]

theorem opened_set (sound : channel.Sound opening keys) {acting : Role} {endpoint : Endpoint}
    (here : ∀ packet ∈ endpoint.received, packet.OpenedUnder opening (keys.inbound acting))
    (role : Role) :
    ∀ packet ∈ ((channel.set acting endpoint).endpoint role).received,
      packet.OpenedUnder opening (keys.inbound role) := by
  by_cases same : role = acting
  · subst same
    rwa [set_same]
  · rw [set_other same]
    exact sound.opened role

theorem onRecord_write (sound : channel.Sound opening keys) {acting : Role} {sealing : Aead}
    {packetType : PacketType} {flags : UInt8} {payload : Bytes}
    {result : Endpoint × List SealCall}
    (step : (channel.endpoint acting).WriteStep sealing packetType flags payload channel.calls
      result) :
    Channel.SealedOnRecord keys { channel.set acting result.1 with calls := result.2 } := by
  cases step with
  | exhausted => exact sound.onRecord_set (List.Subset.refl _)
  | plain notLast plain => exact sound.onRecord_set (List.Subset.refl _)
  | refused notLast secured refused =>
      have kept : (channel.set acting { channel.endpoint acting with
          codec := (channel.endpoint acting).codec.advanced }).SealedOnRecord keys :=
        sound.onRecord_set (List.Subset.refl _)
      intro call member ciphertext sealed
      rcases List.mem_append.mp member with earlier | newest
      · exact kept call earlier ciphertext sealed
      · rw [List.mem_singleton.mp newest, refused] at sealed
        cases sealed
  | sent notLast secured sealedNow =>
      intro call member ciphertext sealed
      rcases List.mem_append.mp member with earlier | newest
      · exact sound.onRecord_set (List.subset_append_left _ _) call earlier ciphertext sealed
      · let sent : SentPacket :=
          { packetType, flags, payload, sequence := (channel.endpoint acting).codec.nextSendSeq }
        refine ⟨acting, sent, ?_, ?_⟩
        · change _ ∈ ((channel.set acting _).endpoint acting).sent
          rw [set_same]
          exact List.mem_append_right _ (List.mem_singleton.mpr rfl)
        · rw [List.mem_singleton.mp newest, sound.shared acting _ secured]
          exact ⟨rfl, rfl, rfl, rfl⟩

theorem step (sound : channel.Sound opening keys) (event : ChannelEvent) :
    (channel.step opening keys event).Sound opening keys := by
  have shared : (channel.step opening keys event).SessionsShared keys :=
    sessionsShared_step sound.shared event
  cases event with
  | establish acting =>
      exact ⟨shared, sound.ordered_set ((sound.ordered acting).establish keys acting),
        sound.onRecord_set (List.Subset.refl _), sound.opened_set (sound.opened acting)⟩
  | write acting sealing writer packetType flags payload =>
      have written := Endpoint.write_step sealing packetType flags payload writer channel.calls
        (channel.endpoint acting)
      refine ⟨shared, sound.ordered_set ((sound.ordered acting).write written),
        sound.onRecord_write written, sound.opened_set ?_⟩
      generalize (channel.endpoint acting).write sealing packetType flags payload writer
        channel.calls = result at written
      cases written <;> exact sound.opened acting
  | read acting reader =>
      have taken := Endpoint.read_step opening reader (channel.endpoint acting)
      refine ⟨shared, sound.ordered_set ((sound.ordered acting).read taken),
        sound.onRecord_set ?_, sound.opened_set ?_⟩
      · generalize (channel.endpoint acting).read opening reader = result at taken
        cases taken <;> exact List.Subset.refl _
      · generalize (channel.endpoint acting).read opening reader = result at taken
        cases taken with
        | silent => exact sound.opened acting
        | returned secured admitted fresh complete opened =>
            intro packet member
            rcases List.mem_append.mp member with earlier | newest
            · exact sound.opened acting packet earlier
            · rw [List.mem_singleton.mp newest]
              rw [secured] at admitted opened
              have here := RawPacket.openedUnder_of_openFrame admitted complete opened
              rwa [sound.shared acting _ secured] at here

theorem after (opening : Aead) (keys : SessionKeys) (events : List ChannelEvent) :
    (Channel.after opening keys events).Sound opening keys :=
  run_invariant (Channel.Sound opening keys) (fun _ event sound => sound.step event)
    (new opening keys) events

end Channel.Sound

/-! ## The guarantee -/

/-- A ciphertext opens under one of the session's keys only when an endpoint sealed
it with that key, nonce and associated data, and then to the sealed plaintext. -/
def Aead.OpensOnlySealed (opening : Aead) (keys : SessionKeys) (calls : List SealCall) : Prop :=
  ∀ role nonce aad ciphertext plaintext,
    opening.openInPlace (keys.outbound role) nonce aad ciphertext = some plaintext →
      { key := keys.outbound role, nonce, aad, plaintext, sealed := some ciphertext } ∈ calls

theorem Aead.ofCalls_opensOnlySealed (keys : SessionKeys) (calls : List SealCall) :
    (Aead.ofCalls calls).OpensOnlySealed keys calls := by
  intro role nonce aad ciphertext plaintext opens
  exact Aead.mem_of_openInPlace_ofCalls opens

/-- A received packet is one of the packets its peer sent. -/
theorem Channel.Sound.exists_sent {opening : Aead} {keys : SessionKeys} {channel : Channel}
    (sound : channel.Sound opening keys)
    (distinct : keys.clientToServer ≠ keys.serverToClient)
    (opensOnlySealed : opening.OpensOnlySealed keys channel.calls) {role : Role}
    {packet : RawPacket} (member : packet ∈ (channel.endpoint role).received) :
    ∃ sent ∈ (channel.endpoint role.peer).sent, sent.packet = packet := by
  rcases sound.opened role packet member with ⟨_, shape, ciphertext, opens⟩
  have sealedCall := opensOnlySealed role.peer _ _ _ _ opens
  rcases sound.onRecord _ sealedCall _ rfl with ⟨owner, sent, recorded, key, nonce, aad, same⟩
  have ownedByPeer : owner = role.peer :=
    (SessionKeys.outbound_injective distinct key).symm
  have sequence := seqNonce_injective nonce
  have clear := headerAad_inj.mp (FixedBytes.ext aad)
  rw [ownedByPeer] at recorded
  refine ⟨sent, recorded, ?_⟩
  rcases packet with ⟨header, payload⟩
  dsimp only at *
  rw [SentPacket.packet, ← same, ← sequence, ← clear.1, ← clear.2, ← shape]

/-- Over every run from fresh codecs, and whatever the network delivers, the packets
a side's reads returned under the session are a subsequence without repetition of
those its peer wrote under the session, as written, and each announces the length
of its plaintext. -/
theorem received_sublist_of_sent (opening : Aead) (keys : SessionKeys)
    (distinct : keys.clientToServer ≠ keys.serverToClient) (events : List ChannelEvent)
    (opensOnlySealed :
      opening.OpensOnlySealed keys (Channel.after opening keys events).calls) (role : Role) :
    let channel := Channel.after opening keys events
    (channel.endpoint role).received.Sublist
        ((channel.endpoint role.peer).sent.map SentPacket.packet) ∧
      (channel.endpoint role).received.Nodup ∧
      ∀ packet ∈ (channel.endpoint role).received,
        packet.header.payloadLen.toNat = packet.payload.length := by
  intro channel
  have sound : channel.Sound opening keys := Channel.Sound.after opening keys events
  have received := (sound.ordered role).receivedIncreasing
  refine ⟨?_, received.nodup, ?_⟩
  · refine received.sublist ?_ ?_
    · exact List.pairwise_map.mpr (sound.ordered role.peer).sentIncreasing
    · intro packet member
      exact List.mem_map.mpr (sound.exists_sent distinct opensOnlySealed member)
  · intro packet member
    rcases sound.opened role packet member with ⟨short, shape, _⟩
    rw [shape]
    exact UInt32.toNat_ofNat_of_lt' short

/-! A client's ping, delivered to the server and then replayed. -/

def replayedPing : List ChannelEvent :=
  let cipher := Aead.ofCalls [pingCall]
  [.establish .client, .establish .server,
    .write .client cipher ⟨[], none, true, ⟨.other, ""⟩⟩ .ping 0 (List.replicate 8 7),
    .read .server ⟨pingFrame, .earlyEof⟩,
    .read .server ⟨pingFrame, .earlyEof⟩]

def afterReplayedPing : Channel :=
  .after (.ofCalls [pingCall]) ⟨.replicate 32 1, .replicate 32 2⟩ replayedPing

theorem replayed_ping_received_once :
    (afterReplayedPing.endpoint .server).received.length = 1 ∧
      (afterReplayedPing.endpoint .server).received.Sublist
        ((afterReplayedPing.endpoint .client).sent.map SentPacket.packet) := by
  refine ⟨by decide, (received_sublist_of_sent (.ofCalls [pingCall])
    ⟨.replicate 32 1, .replicate 32 2⟩ (by decide) replayedPing ?_ .server).1⟩
  have recorded : (Channel.after (.ofCalls [pingCall]) ⟨.replicate 32 1, .replicate 32 2⟩
      replayedPing).calls = [pingCall] := by decide
  rw [recorded]
  exact Aead.ofCalls_opensOnlySealed _ _

end ChatixProtocol
