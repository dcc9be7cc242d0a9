import ChatixProtocol.Channel.Endpoints
import Mathlib.Order.Nat

/-! # Nonces are never reused

The nonce of a sealed frame is its sequence number, and sequence numbers are
taken from a counter that only moves forward. Sessions may be set again at any
time, sealing and streams may fail, and the counter may reach its end.
-/

namespace ChatixProtocol

open Execution

/-- One call made by the caller of a codec that sends. -/
inductive SendEvent where
  | establish (outboundKey inboundKey : FixedBytes 32)
  | write (sealing : Aead) (writer : Writer) (packetType : PacketType) (flags : UInt8)
      (payload : Bytes)

/-- A codec with every call of the sealing operation it has made. -/
structure Sender where
  codec : PacketCodec
  calls : List SealCall

namespace Sender

def step (sender : Sender) : SendEvent → Sender
  | .establish outboundKey inboundKey =>
      { sender with codec := sender.codec.establishSession outboundKey inboundKey }
  | .write sealing writer packetType flags payload =>
      let written := (PacketCodec.writePacket sealing packetType flags payload
        ⟨sender.codec, writer, sender.calls⟩).2
      { codec := written.codec, calls := written.calls }

def after (codec : PacketCodec) (events : List SendEvent) : Sender :=
  run step { codec, calls := [] } events

/-! ## One codec -/

/-- The nonces used so far come from growing sequence numbers below the counter. -/
def Ordered (sender : Sender) : Prop :=
  ∃ sequences : List UInt64, Increasing UInt64.toNat sequences ∧
    (∀ seq ∈ sequences, seq < sender.codec.nextSendSeq) ∧
    sender.calls.map (·.nonce) = sequences.map seqNonce

theorem ordered_step {sender : Sender} (event : SendEvent) (ordered : sender.Ordered) :
    (sender.step event).Ordered := by
  rcases ordered with ⟨sequences, increasing, below, nonces⟩
  cases event with
  | establish outboundKey inboundKey => exact ⟨sequences, increasing, below, nonces⟩
  | write sealing writer packetType flags payload =>
      have written := PacketCodec.writePacket_step sealing packetType flags payload
        ⟨sender.codec, writer, sender.calls⟩
      unfold step
      dsimp only
      generalize (PacketCodec.writePacket sealing packetType flags payload
        ⟨sender.codec, writer, sender.calls⟩).2 = reached at written
      rcases reached with ⟨codec', writer', calls'⟩
      have belowNext (notLast : sender.codec.nextSendSeq ≠ u64Max) :
          ∀ seq ∈ sequences, seq < sender.codec.nextSendSeq + 1 :=
        fun seq member => UInt64.lt_trans (below seq member) (lt_add_one notLast)
      cases written with
      | exhausted last => exact ⟨sequences, increasing, below, nonces⟩
      | plain notLast plain => exact ⟨sequences, increasing, belowNext notLast, nonces⟩
      | secured notLast secured =>
          refine ⟨sequences ++ [sender.codec.nextSendSeq],
            increasing.concat fun seq member => below seq member, ?_, ?_⟩
          · intro seq member
            rcases List.mem_append.mp member with earlier | newest
            · exact belowNext notLast seq earlier
            · rw [List.mem_singleton.mp newest]
              exact lt_add_one notLast
          · rw [List.append_eq, List.map_append, nonces, List.map_append]
            rfl

theorem after_ordered (codec : PacketCodec) (events : List SendEvent) :
    (after codec events).Ordered :=
  run_invariant Ordered (fun _ event => ordered_step event)
    ⟨[], List.Pairwise.nil, by simp, rfl⟩ events

/-- What every call leaves in place: the counter never moves back, and at its
end nothing is sealed. -/
def Progresses (before after : Sender) : Prop :=
  before.codec.nextSendSeq ≤ after.codec.nextSendSeq ∧
    (before.codec.nextSendSeq = u64Max → after.calls = before.calls)

theorem le_u64Max (seq : UInt64) : seq ≤ u64Max := by
  have bound := seq.toNat_lt
  have top : u64Max.toNat = 2 ^ 64 - 1 := rfl
  rw [UInt64.le_iff_toNat_le]
  omega

theorem progresses_trans (first second third : Sender) (earlier : Progresses first second)
    (later : Progresses second third) : Progresses first third := by
  refine ⟨UInt64.le_trans earlier.1 later.1, fun last => ?_⟩
  have still : second.codec.nextSendSeq = u64Max :=
    UInt64.le_antisymm (le_u64Max _) (last ▸ earlier.1)
  rw [later.2 still, earlier.2 last]

theorem step_progresses (sender : Sender) (event : SendEvent) :
    Progresses sender (sender.step event) := by
  cases event with
  | establish outboundKey inboundKey => exact ⟨UInt64.le_refl _, fun _ => rfl⟩
  | write sealing writer packetType flags payload =>
      have written := PacketCodec.writePacket_step sealing packetType flags payload
        ⟨sender.codec, writer, sender.calls⟩
      unfold step
      dsimp only
      generalize (PacketCodec.writePacket sealing packetType flags payload
        ⟨sender.codec, writer, sender.calls⟩).2 = reached at written
      rcases reached with ⟨codec', writer', calls'⟩
      cases written with
      | exhausted last => exact ⟨UInt64.le_refl _, fun _ => rfl⟩
      | plain notLast plain => exact ⟨UInt64.le_of_lt (lt_add_one notLast), fun _ => rfl⟩
      | secured notLast secured =>
          exact ⟨UInt64.le_of_lt (lt_add_one notLast), fun last => absurd last notLast⟩

theorem run_progresses (sender : Sender) (events : List SendEvent) :
    Progresses sender (run step sender events) :=
  run_relates Progresses (fun _ => ⟨UInt64.le_refl _, fun _ => rfl⟩) progresses_trans
    step_progresses sender events

end Sender

/-! ## Two codecs of one session -/

/-- Every seal call used its side's key and a sequence number below that side's
counter, and no two used the same key and nonce. -/
structure Channel.NoncesDistinct (keys : SessionKeys) (channel : Channel) : Prop where
  owned : ∀ call ∈ channel.calls, ∃ role seq,
    seq < (channel.endpoint role).codec.nextSendSeq ∧ call.key = keys.outbound role ∧
      call.nonce = seqNonce seq
  distinct : (channel.calls.map fun call => (call.key, call.nonce)).Nodup

namespace Channel.NoncesDistinct

theorem set_counter {channel : Channel} {acting : Role} {endpoint : Endpoint}
    (forward : (channel.endpoint acting).codec.nextSendSeq ≤ endpoint.codec.nextSendSeq)
    (role : Role) :
    (channel.endpoint role).codec.nextSendSeq ≤
      ((channel.set acting endpoint).endpoint role).codec.nextSendSeq := by
  by_cases same : role = acting
  · subst same
    rwa [set_same]
  · rw [set_other same]
    exact UInt64.le_refl _

/-- Moving a counter forward keeps the recorded nonces below it. -/
theorem set_forward {keys : SessionKeys} {channel : Channel}
    (holds : channel.NoncesDistinct keys) {acting : Role} {endpoint : Endpoint}
    (forward : (channel.endpoint acting).codec.nextSendSeq ≤ endpoint.codec.nextSendSeq) :
    (channel.set acting endpoint).NoncesDistinct keys where
  owned := by
    intro call member
    rcases holds.owned call member with ⟨role, seq, below, key, nonce⟩
    exact ⟨role, seq, UInt64.lt_of_lt_of_le below (set_counter forward role), key, nonce⟩
  distinct := holds.distinct

/-- A side that seals under its counter's value and then moves it uses a new nonce. -/
theorem set_sealed {keys : SessionKeys}
    (distinctKeys : keys.clientToServer ≠ keys.serverToClient) {channel : Channel}
    (holds : channel.NoncesDistinct keys) {acting : Role} {endpoint : Endpoint}
    {call : SealCall} (key : call.key = keys.outbound acting)
    (nonce : call.nonce = seqNonce (channel.endpoint acting).codec.nextSendSeq)
    (forward : (channel.endpoint acting).codec.nextSendSeq < endpoint.codec.nextSendSeq) :
    Channel.NoncesDistinct keys
      { channel.set acting endpoint with calls := channel.calls ++ [call] } where
  owned := by
    intro other member
    rcases List.mem_append.mp member with earlier | newest
    · exact (holds.set_forward (UInt64.le_of_lt forward)).owned other earlier
    · rw [List.mem_singleton.mp newest]
      refine ⟨acting, _, ?_, key, nonce⟩
      change _ < ((channel.set acting endpoint).endpoint acting).codec.nextSendSeq
      rwa [set_same]
  distinct := by
    rw [List.map_append, List.nodup_append]
    refine ⟨holds.distinct, List.nodup_singleton _, ?_⟩
    rintro _ used _ new rfl
    rcases List.mem_map.mp used with ⟨other, member, equal⟩
    rw [List.map_singleton, List.mem_singleton] at new
    rw [new, Prod.mk.injEq, key, nonce] at equal
    rcases holds.owned other member with ⟨role, seq, below, otherKey, otherNonce⟩
    have sameRole : role = acting :=
      SessionKeys.outbound_injective distinctKeys (otherKey.symm.trans equal.1)
    have sameSeq := seqNonce_injective (otherNonce.symm.trans equal.2)
    rw [sameRole, sameSeq] at below
    exact UInt64.lt_irrefl _ below

end Channel.NoncesDistinct

theorem Channel.noncesDistinct_step {opening : Aead} {keys : SessionKeys}
    (distinctKeys : keys.clientToServer ≠ keys.serverToClient) {channel : Channel}
    (shared : channel.SessionsShared keys) (event : ChannelEvent)
    (holds : channel.NoncesDistinct keys) :
    (channel.step opening keys event).NoncesDistinct keys := by
  cases event with
  | establish acting => exact holds.set_forward (UInt64.le_refl _)
  | write acting sealing writer packetType flags payload =>
      have written := Endpoint.write_step sealing packetType flags payload writer channel.calls
        (channel.endpoint acting)
      unfold step
      dsimp only
      generalize (channel.endpoint acting).write sealing packetType flags payload writer
        channel.calls = result at written
      cases written with
      | exhausted => exact holds.set_forward (UInt64.le_refl _)
      | plain notLast plain => exact holds.set_forward (UInt64.le_of_lt (lt_add_one notLast))
      | refused notLast secured refused =>
          refine holds.set_sealed distinctKeys ?_ rfl (lt_add_one notLast)
          rw [shared acting _ secured]
          rfl
      | sent notLast secured sealed =>
          refine holds.set_sealed distinctKeys ?_ rfl (lt_add_one notLast)
          rw [shared acting _ secured]
          rfl
  | read acting reader =>
      have taken := Endpoint.read_step opening reader (channel.endpoint acting)
      unfold step
      dsimp only
      generalize (channel.endpoint acting).read opening reader = result at taken
      cases taken with
      | silent codec session counter => exact holds.set_forward (counter ▸ UInt64.le_refl _)
      | returned => exact holds.set_forward (UInt64.le_refl _)

theorem Channel.after_noncesDistinct (opening : Aead) {keys : SessionKeys}
    (distinctKeys : keys.clientToServer ≠ keys.serverToClient) (events : List ChannelEvent) :
    (Channel.after opening keys events).NoncesDistinct keys := by
  have start : Channel.new.SessionsShared keys ∧ Channel.new.NoncesDistinct keys :=
    ⟨Channel.new_sessionsShared keys, by simp [Channel.new], List.nodup_nil⟩
  refine (run_invariant (fun channel : Channel => channel.SessionsShared keys ∧
    channel.NoncesDistinct keys) ?_ start events).2
  rintro channel event ⟨shared, holds⟩
  exact ⟨sessionsShared_step shared event, noncesDistinct_step distinctKeys shared event holds⟩

/-! ## The guarantee -/

/-- Along every run of one codec the sealing nonces come from strictly growing
sequence numbers, so no key and nonce repeat; at the last sequence number every
write fails without sealing or writing anything, for good. Two codecs that share
a session with distinct direction keys never use one key and nonce twice. -/
theorem sealing_nonces_never_repeat :
    (∀ (codec : PacketCodec) (events : List SendEvent),
      (∃ sequences : List UInt64, Increasing UInt64.toNat sequences ∧
        (Sender.after codec events).calls.map (·.nonce) = sequences.map seqNonce) ∧
      ((Sender.after codec events).calls.map fun call => (call.key, call.nonce)).Nodup ∧
      codec.nextSendSeq ≤ (Sender.after codec events).codec.nextSendSeq ∧
      ((Sender.after codec events).codec.nextSendSeq = u64Max →
        ∀ later : List SendEvent,
          (Sender.after codec (events ++ later)).codec.nextSendSeq = u64Max ∧
          (Sender.after codec (events ++ later)).calls = (Sender.after codec events).calls ∧
          ∀ sealing packetType flags payload writer calls,
            PacketCodec.writePacket sealing packetType flags payload
                ⟨(Sender.after codec (events ++ later)).codec, writer, calls⟩ =
              (.err .cryptoError,
                ⟨(Sender.after codec (events ++ later)).codec, writer, calls⟩))) ∧
    ∀ (opening : Aead) (keys : SessionKeys) (events : List ChannelEvent),
      keys.clientToServer ≠ keys.serverToClient →
      ((Channel.after opening keys events).calls.map fun call =>
        (call.key, call.nonce)).Nodup := by
  constructor
  · intro codec events
    rcases Sender.after_ordered codec events with ⟨sequences, increasing, _, nonces⟩
    refine ⟨⟨sequences, increasing, nonces⟩, ?_, (Sender.run_progresses ⟨codec, []⟩ events).1, ?_⟩
    · have noncesNodup : ((Sender.after codec events).calls.map (·.nonce)).Nodup := by
        rw [nonces]
        exact increasing.nodup.map seqNonce_injective
      apply List.Nodup.of_map Prod.snd
      rwa [List.map_map]
    · intro last later
      have split : Sender.after codec (events ++ later) =
          run Sender.step (Sender.after codec events) later := run_append _ _ _ _
      have progress := Sender.run_progresses (Sender.after codec events) later
      rw [← split] at progress
      have still : (Sender.after codec (events ++ later)).codec.nextSendSeq = u64Max :=
        UInt64.le_antisymm (Sender.le_u64Max _) (last ▸ progress.1)
      refine ⟨still, progress.2 last, ?_⟩
      intro sealing packetType flags payload writer calls
      exact PacketCodec.writePacket_of_exhausted still
  · intro opening keys events distinctKeys
    exact (Channel.after_noncesDistinct opening distinctKeys events).distinct

/-! A packet from each side, both with the first sequence number. -/

def pingsBothWays : List ChannelEvent :=
  [.establish .client, .establish .server,
    .write .client (.transparent 8) ⟨[], none, true, .earlyEof⟩ .ping 0 [],
    .write .server (.transparent 8) ⟨[], none, true, .earlyEof⟩ .ping 0 []]

def afterPingsBothWays : Channel :=
  .after (.transparent 8) ⟨.replicate 32 1, .replicate 32 2⟩ pingsBothWays

theorem crossing_pings_use_distinct_nonces :
    afterPingsBothWays.calls.length = 2 ∧
      (afterPingsBothWays.calls.map fun call => (call.key, call.nonce)).Nodup :=
  ⟨by decide, sealing_nonces_never_repeat.2 (.transparent 8)
    ⟨.replicate 32 1, .replicate 32 2⟩ pingsBothWays (by decide)⟩

end ChatixProtocol
