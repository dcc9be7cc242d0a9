import ChatixProtocol.Channel.Endpoints
import ChatixProtocol.Codec.WriterLimits
import Mathlib.Order.Nat

/-! # Any number of codecs and any keys

Parties set sessions under keys of their choice, as often as they like, write
packets and read whatever bytes the network chooses. Under keys that only one
party seals with, everyone else opens what that party sealed, in order, without
repetition and bit for bit.
-/

namespace ChatixProtocol

open Execution

/-! ## Sequence numbers of one codec

The numbers outlive the sessions: setting one resets neither the counter nor the
window. -/

/-- The numbers of the packets a codec has sent and returned so far. -/
structure PacketCodec.Numbered (codec : PacketCodec) (sent received : List UInt64) : Prop where
  sentIncreasing : Increasing UInt64.toNat sent
  sentBelow : ∀ number ∈ sent, number < codec.nextSendSeq
  receivedIncreasing : Increasing UInt64.toNat received
  receivedWithin : ∀ number ∈ received, ∃ last, codec.lastRecvSeq = some last ∧ number ≤ last

namespace PacketCodec.Numbered

variable {codec codec' : PacketCodec} {sent received : List UInt64}

theorem new : PacketCodec.new.Numbered [] [] where
  sentIncreasing := List.Pairwise.nil
  sentBelow := by simp
  receivedIncreasing := List.Pairwise.nil
  receivedWithin := by simp

/-- A fresh number lies above every number received before. -/
theorem received_lt (numbered : codec.Numbered sent received) {seq : UInt64}
    (fresh : codec.IsFresh seq) {number : UInt64} (member : number ∈ received) : number < seq := by
  rcases numbered.receivedWithin number member with ⟨last, known, within⟩
  exact UInt64.lt_of_le_of_lt within (fresh last known)

/-- The counter and the window may move on without a packet. -/
theorem moved (numbered : codec.Numbered sent received)
    (counter : codec.nextSendSeq ≤ codec'.nextSendSeq)
    (window : codec'.lastRecvSeq = codec.lastRecvSeq ∨
      ∃ seq, codec.IsFresh seq ∧ codec'.lastRecvSeq = some seq) :
    codec'.Numbered sent received where
  sentIncreasing := numbered.sentIncreasing
  sentBelow number member := UInt64.lt_of_lt_of_le (numbered.sentBelow number member) counter
  receivedIncreasing := numbered.receivedIncreasing
  receivedWithin := by
    intro number member
    rcases window with same | ⟨seq, fresh, last⟩
    · rw [same]
      exact numbered.receivedWithin number member
    · exact ⟨seq, last, UInt64.le_of_lt (numbered.received_lt fresh member)⟩

theorem send (numbered : codec.Numbered sent received) (notLast : codec.nextSendSeq ≠ u64Max) :
    codec.advanced.Numbered (sent ++ [codec.nextSendSeq]) received where
  sentIncreasing := numbered.sentIncreasing.concat numbered.sentBelow
  sentBelow := by
    intro number member
    rcases List.mem_append.mp member with earlier | newest
    · exact UInt64.lt_trans (numbered.sentBelow number earlier) (lt_add_one notLast)
    · rw [List.mem_singleton.mp newest]
      exact lt_add_one notLast
  receivedIncreasing := numbered.receivedIncreasing
  receivedWithin := numbered.receivedWithin

theorem receive (numbered : codec.Numbered sent received) {seq : UInt64}
    (fresh : codec.IsFresh seq) : (codec.received seq).Numbered sent (received ++ [seq]) where
  sentIncreasing := numbered.sentIncreasing
  sentBelow := numbered.sentBelow
  receivedIncreasing :=
    numbered.receivedIncreasing.concat fun _ member => numbered.received_lt fresh member
  receivedWithin := by
    intro number member
    refine ⟨seq, rfl, ?_⟩
    rcases List.mem_append.mp member with earlier | newest
    · exact UInt64.le_of_lt (numbered.received_lt fresh earlier)
    · rw [List.mem_singleton.mp newest]
      exact UInt64.le_refl _

end PacketCodec.Numbered

/-! ## Transfers -/

/-- A packet under a session: its key, the packet in clear, and its frame's bytes. -/
structure Transfer where
  key : FixedBytes 32
  packet : RawPacket
  frame : Bytes
  deriving DecidableEq

namespace Transfer

def sequence (transfer : Transfer) : UInt64 :=
  transfer.packet.header.sequence

/-- The frame carries the ciphertext, and both headers are built from the packet. -/
structure Carries (transfer : Transfer) (ciphertext : Bytes) : Prop where
  header : transfer.packet.header = .new transfer.packet.header.packetType
    transfer.packet.header.flags (UInt32.ofNat transfer.packet.payload.length) transfer.sequence
  frame : transfer.frame = (PacketHeader.new transfer.packet.header.packetType
    transfer.packet.header.flags (UInt32.ofNat ciphertext.length)
      transfer.sequence).toBytes.bytes ++ ciphertext

/-- The call of the cipher that seals the packet into the ciphertext. -/
def sealCall (transfer : Transfer) (ciphertext : Bytes) : SealCall where
  key := transfer.key
  nonce := seqNonce transfer.sequence
  aad := (headerAad transfer.packet.header.packetType transfer.packet.header.flags).bytes
  plaintext := transfer.packet.payload
  sealed := some ciphertext

/-- The call determines the transfer. -/
theorem eq_of_sealCall {left right : Transfer} {ciphertext ciphertext' : Bytes}
    (leftCarries : left.Carries ciphertext) (rightCarries : right.Carries ciphertext')
    (same : left.sealCall ciphertext = right.sealCall ciphertext') : left = right := by
  rcases left with ⟨key, ⟨header, payload⟩, frame⟩
  rcases right with ⟨key', ⟨header', payload'⟩, frame'⟩
  simp only [sealCall, SealCall.mk.injEq, Option.some.injEq] at same
  rcases same with ⟨rfl, sameNonce, sameAad, rfl, rfl⟩
  have sameSequence := seqNonce_injective sameNonce
  have clear := headerAad_inj.mp (FixedBytes.ext sameAad)
  have sameHeader : header = header' := by
    have built := leftCarries.header
    rw [sameSequence, clear.1, clear.2] at built
    exact built.trans rightCarries.header.symm
  have sameFrame : frame = frame' := by
    have built := leftCarries.frame
    rw [sameSequence, clear.1, clear.2] at built
    exact built.trans rightCarries.frame.symm
  rw [sameHeader, sameFrame]

end Transfer

/-! ## Parties -/

structure Party where
  codec : PacketCodec
  sent : List Transfer
  received : List Transfer

namespace Party

def new : Party where
  codec := .new
  sent := []
  received := []

def establish (outboundKey inboundKey : FixedBytes 32) (party : Party) : Party :=
  { party with codec := party.codec.establishSession outboundKey inboundKey }

/-- Record what the write sealed, with the frame that an unfailing stream takes. -/
def write (sealing : Aead) (packetType : PacketType) (flags : UInt8) (payload : Bytes)
    (writer : Writer) (calls : List SealCall) (party : Party) : Party × List SealCall :=
  let after := (PacketCodec.writePacket sealing packetType flags payload
    ⟨party.codec, writer, calls⟩).2
  let frame := (PacketCodec.writePacket sealing packetType flags payload
    ⟨party.codec, PacketCodec.openStream, []⟩).2.writer.accepted
  let packet := SentPacket.packet
    { packetType, flags, payload, sequence := party.codec.nextSendSeq }
  let sealed := (after.calls.drop calls.length).filter (·.sealed.isSome)
  ({ party with
      codec := after.codec
      sent := party.sent ++ sealed.map fun call => { key := call.key, packet, frame } },
    after.calls)

/-- Record a packet returned under a session, with the bytes the read took. -/
def read (opening : Aead) (reader : Reader) (party : Party) : Party :=
  let ran := PacketCodec.readPacket opening ⟨party.codec, reader⟩
  let frame := reader.remaining.take
    (reader.remaining.length - ran.2.reader.remaining.length)
  { party with
    codec := ran.2.codec
    received :=
      match ran.1, party.codec.session with
      | .ok packet, some cipher =>
          party.received ++ [{ key := cipher.inboundKey, packet, frame }]
      | _, _ => party.received }

/-- A write seals nothing and may use up a number, or seals one transfer. -/
inductive WriteStep (sealing : Aead) (packetType : PacketType) (flags : UInt8) (payload : Bytes)
    (party : Party) (calls : List SealCall) : Party × List SealCall → Prop
  | silent {codec : PacketCodec} {failed : List SealCall}
      (session : codec.session = party.codec.session)
      (counter : party.codec.nextSendSeq ≤ codec.nextSendSeq)
      (window : codec.lastRecvSeq = party.codec.lastRecvSeq)
      (unsealed : ∀ call ∈ failed, call.sealed = none) :
      WriteStep sealing packetType flags payload party calls
        ({ party with codec }, calls ++ failed)
  | sent {cipher : SessionCipher} {transfer : Transfer} {ciphertext : Bytes}
      (notLast : party.codec.nextSendSeq ≠ u64Max)
      (secured : party.codec.session = some cipher)
      (key : transfer.key = cipher.outboundKey)
      (packet : transfer.packet = SentPacket.packet
        { packetType, flags, payload, sequence := party.codec.nextSendSeq })
      (carries : transfer.Carries ciphertext)
      (sealed : sealing.sealInPlaceAppendTag transfer.key (seqNonce transfer.sequence)
        (headerAad transfer.packet.header.packetType transfer.packet.header.flags).bytes payload =
          some ciphertext) :
      WriteStep sealing packetType flags payload party calls
        ({ party with codec := party.codec.advanced, sent := party.sent ++ [transfer] },
          calls ++ [transfer.sealCall ciphertext])

/-- What a write does to the codec and the record of calls. -/
theorem writePacket_effect (sealing : Aead) (packetType : PacketType) (flags : UInt8)
    (payload : Bytes) (codec : PacketCodec) (writer : Writer) (calls : List SealCall) :
    let after := (PacketCodec.writePacket sealing packetType flags payload
      ⟨codec, writer, calls⟩).2
    (after.codec = codec ∧ after.calls = calls) ∨
      (codec.nextSendSeq ≠ u64Max ∧ after.codec = codec.advanced ∧ after.calls = calls) ∨
      ∃ cipher, codec.nextSendSeq ≠ u64Max ∧ codec.session = some cipher ∧
        after.codec = codec.advanced ∧
        after.calls = calls ++ [codec.sealCall sealing cipher packetType flags payload] := by
  intro after
  have step : PacketCodec.WriteStep sealing packetType flags payload codec calls after.codec
    after.calls := PacketCodec.writePacket_step sealing packetType flags payload
      ⟨codec, writer, calls⟩
  generalize after.codec = codec', after.calls = calls' at step
  cases step with
  | exhausted last => exact .inl ⟨rfl, rfl⟩
  | plain notLast plain => exact .inr (.inl ⟨notLast, rfl, rfl⟩)
  | @secured cipher notLast secured => exact .inr (.inr ⟨cipher, notLast, secured, rfl, rfl⟩)

/-- The frame of a packet that gets sealed, as an unfailing stream takes it. -/
theorem accepted_of_sealed {sealing : Aead} {packetType : PacketType} {flags : UInt8}
    {payload ciphertext : Bytes} {codec : PacketCodec} {cipher : SessionCipher}
    (notLast : codec.nextSendSeq ≠ u64Max) (secured : codec.session = some cipher)
    (sealed : (codec.sealCall sealing cipher packetType flags payload).sealed =
      some ciphertext) :
    (PacketCodec.writePacket sealing packetType flags payload
      ⟨codec, PacketCodec.openStream, []⟩).2.writer.accepted =
        (codec.outboundHeader packetType (flags ||| Flags.encrypted) ciphertext).toBytes.bytes ++
          ciphertext := by
  rw [PacketCodec.writePacket_of_session notLast secured, sealed]
  dsimp only
  rw [PacketCodec.sendFrame_of_unfailing PacketCodec.openStream_unfailing]
  rfl

theorem write_step (sealing : Aead) (packetType : PacketType) (flags : UInt8) (payload : Bytes)
    (writer : Writer) (calls : List SealCall) (party : Party) :
    party.WriteStep sealing packetType flags payload calls
      (party.write sealing packetType flags payload writer calls) := by
  rw [write]
  rcases writePacket_effect sealing packetType flags payload party.codec writer calls with
    ⟨codec, after⟩ | ⟨notLast, codec, after⟩ | ⟨cipher, notLast, secured, codec, after⟩
  · rw [codec, after]
    have silent : party.WriteStep sealing packetType flags payload calls
        ({ party with codec := party.codec }, calls ++ []) :=
      .silent rfl (UInt64.le_refl _) rfl (by simp)
    simpa using silent
  · rw [codec, after]
    have silent : party.WriteStep sealing packetType flags payload calls
        ({ party with codec := party.codec.advanced }, calls ++ []) :=
      .silent rfl (UInt64.le_of_lt (lt_add_one notLast)) rfl (by simp)
    simpa using silent
  · rw [codec, after, List.drop_left' rfl]
    cases result : (party.codec.sealCall sealing cipher packetType flags payload).sealed with
    | none =>
        have silent : party.WriteStep sealing packetType flags payload calls
            ({ party with codec := party.codec.advanced },
              calls ++ [party.codec.sealCall sealing cipher packetType flags payload]) :=
          .silent rfl (UInt64.le_of_lt (lt_add_one notLast)) rfl (by simpa using result)
        simpa [result] using silent
    | some ciphertext =>
        let transfer : Transfer := {
          key := cipher.outboundKey
          packet := SentPacket.packet
            { packetType, flags, payload, sequence := party.codec.nextSendSeq }
          frame := (party.codec.outboundHeader packetType (flags ||| Flags.encrypted)
            ciphertext).toBytes.bytes ++ ciphertext
        }
        have carries : transfer.Carries ciphertext := ⟨rfl, rfl⟩
        have call : party.codec.sealCall sealing cipher packetType flags payload =
            transfer.sealCall ciphertext := by
          simp only [PacketCodec.sealCall] at result ⊢
          rw [result]
          rfl
        have sent : party.WriteStep sealing packetType flags payload calls ({ party with
            codec := party.codec.advanced
            sent := party.sent ++ [transfer]
          }, calls ++ [transfer.sealCall ciphertext]) :=
          .sent notLast secured rfl rfl carries result
        rw [accepted_of_sealed notLast secured result, call]
        exact sent

/-- A read may move the window, or returns one transfer that it opened. -/
inductive ReadStep (opening : Aead) (party : Party) : Party → Prop
  | silent (codec : PacketCodec) (session : codec.session = party.codec.session)
      (counter : codec.nextSendSeq = party.codec.nextSendSeq)
      (window : codec.lastRecvSeq = party.codec.lastRecvSeq ∨
        ∃ seq, party.codec.IsFresh seq ∧ codec.lastRecvSeq = some seq) :
      ReadStep opening party { party with codec }
  | returned {cipher : SessionCipher} {transfer : Transfer} {ciphertext : Bytes}
      (secured : party.codec.session = some cipher)
      (key : transfer.key = cipher.inboundKey)
      (fresh : party.codec.IsFresh transfer.sequence)
      (carries : transfer.Carries ciphertext)
      (opens : opening.openInPlace transfer.key (seqNonce transfer.sequence)
        (headerAad transfer.packet.header.packetType transfer.packet.header.flags).bytes
          ciphertext = some transfer.packet.payload) :
      ReadStep opening party { party with
        codec := party.codec.received transfer.sequence
        received := party.received ++ [transfer] }

/-- A frame that opens under a session carries the packet it opens to. -/
theorem carries_of_openFrame {opening : Aead} {cipher : SessionCipher} {header : PacketHeader}
    {body : Bytes} {packet : RawPacket}
    (admitted : PacketCodec.admitHeader (some cipher) header = .ok ())
    (complete : body.length = header.payloadLen.toNat)
    (opened : PacketCodec.openFrame opening (some cipher) header body = .ok packet) :
    let transfer : Transfer :=
      { key := cipher.inboundKey, packet, frame := header.toBytes.bytes ++ body }
    transfer.Carries body ∧ transfer.sequence = header.sequence ∧
      opening.openInPlace transfer.key (seqNonce transfer.sequence)
        (headerAad packet.header.packetType packet.header.flags).bytes body =
          some packet.payload := by
  rcases PacketCodec.admitHeader_eq_ok_iff.mp admitted with ⟨valid, encrypted, _⟩
  have built := (PacketHeader.validate_eq_ok_iff.mp valid).2
  have announced : UInt32.ofNat body.length = header.payloadLen := by
    rw [complete]
    exact UInt32.ofNat_toNat
  rcases PacketCodec.openFrame_eq_ok_iff.mp opened with ⟨plain, _⟩ | ⟨_, plaintext, opens, rfl⟩
  · rw [encrypted rfl] at plain
    cases plain
  · refine ⟨⟨?_, ?_⟩, rfl, opens⟩
    · dsimp only [Transfer.sequence]
      rw [built]
      rfl
    · dsimp only [Transfer.sequence]
      rw [announced, ← built]

theorem read_step (opening : Aead) (reader : Reader) (party : Party) :
    party.ReadStep opening (party.read opening reader) := by
  rcases reader with ⟨input, ending⟩
  rw [read]
  rcases ran : PacketCodec.readPacket opening ⟨party.codec, input, ending⟩ with
    ⟨result, codec', rest, ending'⟩
  cases PacketCodec.readPacket_cases input ran with
  | shortHeader => exact .silent _ rfl rfl (.inl rfl)
  | refused => exact .silent _ rfl rfl (.inl rfl)
  | stale => exact .silent _ rfl rfl (.inl rfl)
  | shortPayload _ fresh => exact .silent _ rfl rfl (.inr ⟨_, fresh, rfl⟩)
  | @frame header body _ admitted fresh complete =>
      cases opened : PacketCodec.openFrame opening party.codec.session header body with
      | panic => exact .silent _ rfl rfl (.inr ⟨_, fresh, rfl⟩)
      | err error => exact .silent _ rfl rfl (.inr ⟨_, fresh, rfl⟩)
      | ok packet =>
          cases secured : party.codec.session with
          | none => exact .silent _ rfl rfl (.inr ⟨_, fresh, rfl⟩)
          | some cipher =>
              rw [secured] at admitted opened
              rcases carries_of_openFrame admitted complete opened with ⟨carries, number, opens⟩
              have taken : (header.toBytes.bytes ++ (body ++ rest)).take
                  ((header.toBytes.bytes ++ (body ++ rest)).length - rest.length) =
                    header.toBytes.bytes ++ body := by
                rw [← List.append_assoc, List.length_append, Nat.add_sub_cancel]
                exact List.take_left' rfl
              have step := ReadStep.returned secured rfl (number ▸ fresh) carries opens
              rw [number] at step
              rw [taken]
              exact step

end Party

/-! ## The network -/

structure Network (ι : Type) where
  party : ι → Party
  calls : List SealCall

/-- One call made by a party's caller. Writes may meet any stream and a cipher that
refuses; reads are served whatever bytes the network chooses. -/
inductive NetworkEvent (ι : Type) where
  | establish (party : ι) (outboundKey inboundKey : FixedBytes 32)
  | write (party : ι) (sealing : Aead) (writer : Writer) (packetType : PacketType)
      (flags : UInt8) (payload : Bytes)
  | read (party : ι) (reader : Reader)

namespace Network

variable {ι : Type}

def new : Network ι where
  party := fun _ => .new
  calls := []

variable [DecidableEq ι]

def set (network : Network ι) (acting : ι) (party : Party) : Network ι :=
  { network with party := Function.update network.party acting party }

@[simp] theorem set_same (network : Network ι) (acting : ι) (party : Party) :
    (network.set acting party).party acting = party := by
  simp [set]

theorem set_other {network : Network ι} {acting other : ι} {party : Party}
    (different : other ≠ acting) :
    (network.set acting party).party other = network.party other := by
  simp [set, different]

def step (opening : Aead) (network : Network ι) : NetworkEvent ι → Network ι
  | .establish acting outboundKey inboundKey =>
      network.set acting ((network.party acting).establish outboundKey inboundKey)
  | .write acting sealing writer packetType flags payload =>
      let written := (network.party acting).write sealing packetType flags payload writer
        network.calls
      { network.set acting written.1 with calls := written.2 }
  | .read acting reader => network.set acting ((network.party acting).read opening reader)

/-- The state after the given calls, from fresh codecs. -/
def after (opening : Aead) (events : List (NetworkEvent ι)) : Network ι :=
  run (step opening) new events

end Network

/-! ## What is known about the whole network -/

/-- The sessions a party may set, as pairs of an outbound and an inbound key. -/
abbrev KeySchedule (ι : Type) := ι → SessionCipher → Prop

/-- The keys a list of events lets each party set. -/
def NetworkEvent.schedule {ι : Type} (events : List (NetworkEvent ι)) : KeySchedule ι :=
  fun party cipher => .establish party cipher.outboundKey cipher.inboundKey ∈ events

structure Party.Sound (opening : Aead) (mayUse : SessionCipher → Prop) (party : Party) :
    Prop where
  session : ∀ cipher, party.codec.session = some cipher → mayUse cipher
  numbered : party.codec.Numbered (party.sent.map Transfer.sequence)
    (party.received.map Transfer.sequence)
  opened : ∀ transfer ∈ party.received, ∃ cipher, mayUse cipher ∧
    transfer.key = cipher.inboundKey ∧ ∃ ciphertext, transfer.Carries ciphertext ∧
      opening.openInPlace transfer.key (seqNonce transfer.sequence)
        (headerAad transfer.packet.header.packetType transfer.packet.header.flags).bytes
          ciphertext = some transfer.packet.payload

namespace Party.Sound

variable {opening : Aead} {mayUse : SessionCipher → Prop} {party : Party}

theorem new (opening : Aead) (mayUse : SessionCipher → Prop) :
    Party.new.Sound opening mayUse where
  session := by
    intro cipher secured
    cases secured
  numbered := .new
  opened := by simp [Party.new]

theorem establish (sound : party.Sound opening mayUse) {outboundKey inboundKey : FixedBytes 32}
    (allowed : mayUse ⟨outboundKey, inboundKey⟩) :
    (party.establish outboundKey inboundKey).Sound opening mayUse where
  session := by
    rintro cipher ⟨⟩
    exact allowed
  numbered := sound.numbered.moved (UInt64.le_refl _) (.inl rfl)
  opened := sound.opened

theorem write (sound : party.Sound opening mayUse) {sealing : Aead} {packetType : PacketType}
    {flags : UInt8} {payload : Bytes} {calls : List SealCall} {result : Party × List SealCall}
    (step : party.WriteStep sealing packetType flags payload calls result) :
    result.1.Sound opening mayUse := by
  cases step with
  | silent session counter window unsealed =>
      exact ⟨session ▸ sound.session, sound.numbered.moved counter (.inl window), sound.opened⟩
  | @sent cipher transfer ciphertext notLast secured key packet carries sealed =>
      refine ⟨sound.session, ?_, sound.opened⟩
      rw [List.map_append, List.map_singleton, Transfer.sequence, packet]
      exact sound.numbered.send notLast

theorem read (sound : party.Sound opening mayUse) {party' : Party}
    (step : party.ReadStep opening party') : party'.Sound opening mayUse := by
  cases step with
  | silent codec session counter window =>
      exact ⟨session ▸ sound.session,
        sound.numbered.moved (counter ▸ UInt64.le_refl _) window, sound.opened⟩
  | @returned cipher transfer ciphertext secured key fresh carries opens =>
      refine ⟨sound.session, ?_, ?_⟩
      · rw [List.map_append, List.map_singleton]
        exact sound.numbered.receive fresh
      · intro other member
        rcases List.mem_append.mp member with earlier | newest
        · exact sound.opened other earlier
        · rw [List.mem_singleton.mp newest]
          exact ⟨cipher, sound.session cipher secured, key, ciphertext, carries, opens⟩

end Party.Sound

namespace Network

variable {ι : Type}

/-- Every call of the cipher that succeeded sealed a transfer on record. -/
def SealedOnRecord (schedule : KeySchedule ι) (network : Network ι) : Prop :=
  ∀ call ∈ network.calls, ∀ ciphertext, call.sealed = some ciphertext →
    ∃ party cipher, schedule party cipher ∧ ∃ transfer ∈ (network.party party).sent,
      transfer.key = cipher.outboundKey ∧ transfer.Carries ciphertext ∧
      call = transfer.sealCall ciphertext

structure Sound (opening : Aead) (schedule : KeySchedule ι) (network : Network ι) : Prop where
  parties : ∀ party, (network.party party).Sound opening (schedule party)
  onRecord : network.SealedOnRecord schedule

namespace Sound

variable {opening : Aead} {schedule : KeySchedule ι} {network : Network ι}

theorem new (opening : Aead) (schedule : KeySchedule ι) : new.Sound opening schedule where
  parties party := Party.Sound.new opening (schedule party)
  onRecord := by simp [SealedOnRecord, Network.new]

variable [DecidableEq ι] {acting : ι}

theorem parties_set (sound : network.Sound opening schedule) {party : Party}
    (here : party.Sound opening (schedule acting)) (other : ι) :
    ((network.set acting party).party other).Sound opening (schedule other) := by
  by_cases same : other = acting
  · subst same
    rwa [set_same]
  · rw [set_other same]
    exact sound.parties other

/-- Transfers stay on record when a party's record only grows. -/
theorem onRecord_set (sound : network.Sound opening schedule) {party : Party}
    (grows : (network.party acting).sent ⊆ party.sent) :
    (network.set acting party).SealedOnRecord schedule := by
  intro call member ciphertext sealed
  rcases sound.onRecord call member ciphertext sealed with
    ⟨owner, cipher, allowed, transfer, recorded, bound⟩
  refine ⟨owner, cipher, allowed, transfer, ?_, bound⟩
  by_cases same : owner = acting
  · subst same
    rw [set_same]
    exact grows recorded
  · rwa [set_other same]

theorem onRecord_write (sound : network.Sound opening schedule) {sealing : Aead}
    {packetType : PacketType} {flags : UInt8} {payload : Bytes}
    {result : Party × List SealCall}
    (step : (network.party acting).WriteStep sealing packetType flags payload network.calls
      result) :
    SealedOnRecord schedule { network.set acting result.1 with calls := result.2 } := by
  cases step with
  | @silent codec failed session counter window unsealed =>
      have kept : (network.set acting { network.party acting with codec }).SealedOnRecord
          schedule := sound.onRecord_set (List.Subset.refl _)
      intro call member ciphertext sealed
      rcases List.mem_append.mp member with earlier | failed
      · exact kept call earlier ciphertext sealed
      · rw [unsealed call failed] at sealed
        cases sealed
  | @sent cipher transfer ciphertext notLast secured key packet carries =>
      intro call member ciphertext' sealed
      rcases List.mem_append.mp member with earlier | newest
      · exact sound.onRecord_set (List.subset_append_left _ _) call earlier ciphertext' sealed
      · rw [List.mem_singleton.mp newest] at sealed ⊢
        cases sealed
        refine ⟨acting, cipher, (sound.parties acting).session cipher secured, transfer, ?_, key,
          carries, rfl⟩
        change transfer ∈ ((network.set acting _).party acting).sent
        rw [set_same]
        exact List.mem_append_right _ (List.mem_singleton.mpr rfl)

theorem step (sound : network.Sound opening schedule) (event : NetworkEvent ι)
    (scheduled : ∀ party outboundKey inboundKey,
      event = .establish party outboundKey inboundKey → schedule party ⟨outboundKey, inboundKey⟩) :
    (network.step opening event).Sound opening schedule := by
  cases event with
  | establish acting outboundKey inboundKey =>
      have allowed := scheduled acting outboundKey inboundKey rfl
      exact ⟨sound.parties_set ((sound.parties acting).establish allowed),
        sound.onRecord_set (List.Subset.refl _)⟩
  | write acting sealing writer packetType flags payload =>
      have written := Party.write_step sealing packetType flags payload writer network.calls
        (network.party acting)
      exact ⟨sound.parties_set ((sound.parties acting).write written),
        sound.onRecord_write written⟩
  | read acting reader =>
      have taken := Party.read_step opening reader (network.party acting)
      refine ⟨sound.parties_set ((sound.parties acting).read taken), sound.onRecord_set ?_⟩
      generalize (network.party acting).read opening reader = result at taken
      cases taken <;> exact List.Subset.refl _

theorem after (opening : Aead) (events : List (NetworkEvent ι)) :
    (Network.after opening events).Sound opening (NetworkEvent.schedule events) := by
  refine run_invariant_of_mem _ (fun network event member sound => sound.step event ?_)
    (new opening _)
  rintro party outboundKey inboundKey rfl
  exact member

end Sound

end Network

/-! ## The guarantee -/

/-- Under this key a ciphertext opens only when it was sealed with the key, the nonce
and the associated data, and then to the sealed plaintext. -/
def Aead.OpensOnlySealedUnder (opening : Aead) (key : FixedBytes 32) (calls : List SealCall) :
    Prop :=
  ∀ nonce aad ciphertext plaintext,
    opening.openInPlace key nonce aad ciphertext = some plaintext →
      { key, nonce, aad, plaintext, sealed := some ciphertext } ∈ calls

/-- A received transfer was sent by a party that may seal with its key. -/
theorem Network.Sound.exists_sent {ι : Type} {opening : Aead} {schedule : KeySchedule ι}
    {network : Network ι} (sound : network.Sound opening schedule) {party : ι}
    {transfer : Transfer} (member : transfer ∈ (network.party party).received)
    (opensOnly : opening.OpensOnlySealedUnder transfer.key network.calls) :
    ∃ owner cipher, schedule owner cipher ∧ cipher.outboundKey = transfer.key ∧
      transfer ∈ (network.party owner).sent := by
  rcases (sound.parties party).opened transfer member with
    ⟨_, _, _, ciphertext, carries, opens⟩
  have sealedCall := opensOnly _ _ _ _ opens
  rcases sound.onRecord _ sealedCall ciphertext rfl with
    ⟨owner, cipher, allowed, sent, recorded, key, sentCarries, same⟩
  have equal : transfer = sent := Transfer.eq_of_sealCall carries sentCarries same
  rw [equal]
  exact ⟨owner, cipher, allowed, key.symm, recorded⟩

/-- What is received under keys that one party owns is a subsequence of what it sent
under them. -/
theorem Network.Sound.sublist_of_owned {ι : Type} {opening : Aead} {schedule : KeySchedule ι}
    {network : Network ι} (sound : network.Sound opening schedule) (receiver : ι) {owner : ι}
    {keys : FixedBytes 32 → Bool}
    (owned : ∀ party cipher, schedule party cipher → keys cipher.outboundKey = true →
      party = owner)
    (opensOnly : ∀ key, keys key = true → opening.OpensOnlySealedUnder key network.calls) :
    ((network.party receiver).received.filter fun transfer => keys transfer.key).Sublist
      ((network.party owner).sent.filter fun transfer => keys transfer.key) := by
  have numbered (party : ι) := (sound.parties party).numbered
  have receivedIncreasing : Increasing (·.sequence.toNat) (network.party receiver).received :=
    increasing_map_iff.mp (numbered receiver).receivedIncreasing
  have sentIncreasing : Increasing (·.sequence.toNat) (network.party owner).sent :=
    increasing_map_iff.mp (numbered owner).sentIncreasing
  refine Increasing.sublist (receivedIncreasing.filter _) (sentIncreasing.filter _) ?_
  intro transfer member
  rcases List.mem_filter.mp member with ⟨received, covered⟩
  rcases sound.exists_sent received (opensOnly _ covered) with
    ⟨party, cipher, allowed, key, sent⟩
  have acting : party = owner := owned party cipher allowed (key ▸ covered)
  rw [acting] at sent
  exact List.mem_filter.mpr ⟨sent, covered⟩

/-- A party that opens under one key receives what the only party that seals with it
sent. -/
theorem Network.Sound.sublist_of_partner {ι : Type} {opening : Aead} {schedule : KeySchedule ι}
    {network : Network ι} (sound : network.Sound opening schedule) {receiver partner : ι}
    {inbound : FixedBytes 32}
    (receives : ∀ cipher, schedule receiver cipher → cipher.inboundKey = inbound)
    (owned : ∀ party cipher, schedule party cipher → cipher.outboundKey = inbound →
      party = partner)
    (opensOnly : opening.OpensOnlySealedUnder inbound network.calls) :
    (network.party receiver).received.Sublist (network.party partner).sent := by
  have ownedKeys : ∀ party cipher, schedule party cipher →
      decide (cipher.outboundKey = inbound) = true → party = partner :=
    fun party cipher allowed same => owned party cipher allowed (of_decide_eq_true same)
  have opensInbound : ∀ key, decide (key = inbound) = true →
      opening.OpensOnlySealedUnder key network.calls := by
    intro key same
    rw [of_decide_eq_true same]
    exact opensOnly
  have underInbound : (network.party receiver).received.filter
      (fun transfer => decide (transfer.key = inbound)) = (network.party receiver).received := by
    rw [List.filter_eq_self]
    intro transfer member
    rcases (sound.parties receiver).opened transfer member with ⟨cipher, allowed, key, _⟩
    rw [decide_eq_true_eq, key]
    exact receives cipher allowed
  have contained := sound.sublist_of_owned receiver ownedKeys opensInbound
  rw [underInbound] at contained
  exact contained.trans List.filter_sublist

/-- Over every run of any number of codecs, whatever keys they set and whatever the
network delivers: the packets a party returned under keys that only one party ever
seals with are a subsequence of those that party sealed under them, with the same key,
header, payload and frame, bit for bit. Across all its sessions a party never returns
two packets with one sequence number. -/
theorem transfers_sublist {ι : Type} [DecidableEq ι] (opening : Aead)
    (events : List (NetworkEvent ι)) (receiver owner : ι) (keys : FixedBytes 32 → Bool)
    (owned : ∀ party outboundKey inboundKey,
      NetworkEvent.establish party outboundKey inboundKey ∈ events → keys outboundKey = true →
        party = owner)
    (opensOnly : ∀ key, keys key = true →
      opening.OpensOnlySealedUnder key (Network.after opening events).calls) :
    let network := Network.after opening events
    ((network.party receiver).received.filter fun transfer => keys transfer.key).Sublist
        ((network.party owner).sent.filter fun transfer => keys transfer.key) ∧
      Increasing UInt64.toNat ((network.party receiver).received.map Transfer.sequence) := by
  intro network
  have sound : network.Sound opening (NetworkEvent.schedule events) :=
    Network.Sound.after opening events
  refine ⟨sound.sublist_of_owned receiver ?_ opensOnly,
    (sound.parties receiver).numbered.receivedIncreasing⟩
  intro party cipher scheduled covered
  exact owned party cipher.outboundKey cipher.inboundKey scheduled covered

/-! A client's ping, and another one after both sides set new keys and the first was
replayed. -/

def laterPingCall : SealCall where
  key := .replicate 32 3
  nonce := seqNonce 2
  aad := [20, 1]
  plaintext := List.replicate 8 9
  sealed := some (List.replicate 8 9 ++ List.replicate 16 0)

def laterPingFrame : Bytes :=
  (PacketHeader.new 20 1 24 2).toBytes.bytes ++ (List.replicate 8 9 ++ List.replicate 16 0)

def rekeyedPings : List (NetworkEvent Role) :=
  let cipher := Aead.ofCalls [pingCall, laterPingCall]
  [.establish .client (.replicate 32 1) (.replicate 32 2),
    .establish .server (.replicate 32 2) (.replicate 32 1),
    .write .client cipher PacketCodec.openStream .ping 0 (List.replicate 8 7),
    .read .server ⟨pingFrame, .earlyEof⟩,
    .establish .client (.replicate 32 3) (.replicate 32 4),
    .establish .server (.replicate 32 4) (.replicate 32 3),
    .read .server ⟨pingFrame, .earlyEof⟩,
    .write .client cipher PacketCodec.openStream .ping 0 (List.replicate 8 9),
    .read .server ⟨laterPingFrame, .earlyEof⟩]

def afterRekeyedPings : Network Role :=
  .after (.ofCalls [pingCall, laterPingCall]) rekeyedPings

def clientKeys (key : FixedBytes 32) : Bool :=
  key = .replicate 32 1 || key = .replicate 32 3

theorem rekeyed_pings_received :
    (afterRekeyedPings.party .server).received.map (·.frame) = [pingFrame, laterPingFrame] ∧
      ((afterRekeyedPings.party .server).received.filter
        fun transfer => clientKeys transfer.key).Sublist
          ((afterRekeyedPings.party .client).sent.filter
            fun transfer => clientKeys transfer.key) := by
  refine ⟨by decide, (transfers_sublist (.ofCalls [pingCall, laterPingCall]) rekeyedPings .server
    .client clientKeys ?_ ?_).1⟩
  · intro party outboundKey inboundKey member covered
    cases party with
    | client => rfl
    | server =>
        simp only [rekeyedPings, List.mem_cons, NetworkEvent.establish.injEq, reduceCtorEq,
          false_and, true_and, false_or, or_false, List.not_mem_nil] at member
        rcases member with ⟨rfl, _⟩ | ⟨rfl, _⟩
        · exact absurd covered (by decide)
        · exact absurd covered (by decide)
  · intro key _ nonce aad ciphertext plaintext opens
    have recorded : (Network.after (.ofCalls [pingCall, laterPingCall]) rekeyedPings).calls =
        [pingCall, laterPingCall] := by decide
    rw [recorded]
    exact Aead.mem_of_openInPlace_ofCalls opens

end ChatixProtocol
