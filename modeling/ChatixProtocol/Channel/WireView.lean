import ChatixProtocol.Channel.StreamRoundTrip

/-! # What the wire shows

Someone without keys sees the headers and the lengths of sealed frames, and all of the
frames before the session. This file proves that this view tells exactly the types, the
flags and the payload lengths, and the payloads that were sent in the clear.
-/

namespace ChatixProtocol

/-- What a frame shows to someone without keys. -/
def visibleFrame (frame : Bytes) : Bytes × Nat :=
  let header := PacketHeader.fromBytes (.ofPrefix chatixHeaderSize frame)
  (if header.isEncrypted then frame.take chatixHeaderSize else frame, frame.length)

/-- What a packet reveals. -/
inductive VisiblePacket where
  | plain (packetType : PacketType) (flags : UInt8) (payload : Bytes)
  | sealed (packetType : PacketType) (flags : UInt8) (length : Nat)
  deriving DecidableEq

namespace VisiblePacket

/-- What one write reveals, under a session or not. -/
def ofWrite (secured : Bool) (packetType : PacketType) (flags : UInt8) (payload : Bytes) :
    VisiblePacket :=
  if secured then .sealed packetType (flags ||| Flags.encrypted) payload.length
  else .plain packetType flags payload

/-- The view of the packet's frame, if it has the given number. -/
def view (number : Nat) : VisiblePacket → Bytes × Nat
  | .plain packetType flags payload =>
      ((PacketHeader.new packetType.asU8 flags (UInt32.ofNat payload.length)
        (UInt64.ofNat number)).toBytes.bytes ++ payload, chatixHeaderSize + payload.length)
  | .sealed packetType flags length =>
      ((PacketHeader.new packetType.asU8 flags (UInt32.ofNat (length + gcmTagLen))
        (UInt64.ofNat number)).toBytes.bytes, chatixHeaderSize + (length + gcmTagLen))

def views : (number : Nat) → List VisiblePacket → List (Bytes × Nat)
  | _, [] => []
  | number, packet :: packets => packet.view number :: views (number + 1) packets

/-! ## One frame -/

theorem ofPrefix_append {size : Nat} (front : FixedBytes size) (rest : Bytes) :
    FixedBytes.ofPrefix size (front.bytes ++ rest) = front := by
  apply FixedBytes.ext
  have taken : (front.bytes ++ (rest ++ List.replicate size 0)).take size = front.bytes :=
    List.take_left' front.length_bytes
  rw [← List.append_assoc] at taken
  exact taken

theorem visibleFrame_append (header : PacketHeader) (body : Bytes) :
    visibleFrame (header.toBytes.bytes ++ body) =
      (if header.isEncrypted then header.toBytes.bytes else header.toBytes.bytes ++ body,
        chatixHeaderSize + body.length) := by
  rw [visibleFrame, ofPrefix_append, PacketHeader.fromBytes_toBytes, List.length_append,
    FixedBytes.length_bytes, List.take_left' header.toBytes.length_bytes]

theorem header_inj {left right : PacketType} {flags flags' : UInt8} {length length' : UInt32}
    {sequence : UInt64}
    (same : (PacketHeader.new left.asU8 flags length sequence).toBytes =
      (PacketHeader.new right.asU8 flags' length' sequence).toBytes) :
    left = right ∧ flags = flags' := by
  have headers := PacketHeader.toBytes_injective same
  exact ⟨PacketType.asU8_injective (congrArg PacketHeader.packetType headers),
    congrArg PacketHeader.flags headers⟩

/-- Of a sealed frame only the header is seen, and of a plain one everything. -/
theorem plain_view_ne_sealed_view (number : Nat) (packetType packetType' : PacketType)
    (flags flags' : UInt8) (payload : Bytes) (length : Nat) :
    (plain packetType flags payload).view number ≠
      (VisiblePacket.sealed packetType' flags' length).view number := by
  intro same
  have seen := congrArg (fun shown : Bytes × Nat => shown.1.length) same
  have lengths := congrArg Prod.snd same
  simp only [view, List.length_append, FixedBytes.length_bytes, gcmTagLen] at seen lengths
  omega

/-- The view of one frame tells everything the packet reveals. -/
theorem view_injective (number : Nat) : Function.Injective (view number) := by
  intro left right same
  cases left with
  | plain packetType flags payload =>
      cases right with
      | plain packetType' flags' payload' =>
          have bytes := congrArg Prod.fst same
          rcases FixedBytes.append_inj.mp bytes with ⟨headers, rfl⟩
          rcases header_inj headers with ⟨rfl, rfl⟩
          rfl
      | sealed packetType' flags' length =>
          exact absurd same (plain_view_ne_sealed_view _ _ _ _ _ _ _)
  | sealed packetType flags length =>
      cases right with
      | plain packetType' flags' payload =>
          exact absurd same.symm (plain_view_ne_sealed_view _ _ _ _ _ _ _)
      | sealed packetType' flags' length' =>
          have bytes := congrArg Prod.fst same
          have lengths := congrArg Prod.snd same
          rcases header_inj (FixedBytes.ext bytes) with ⟨rfl, rfl⟩
          simp only [view] at lengths
          have sameLength : length = length' := by omega
          rw [sameLength]

theorem views_injective (number : Nat) : Function.Injective (views number) := by
  intro left right same
  induction left generalizing right number with
  | nil =>
      cases right with
      | nil => rfl
      | cons packet packets => cases same
  | cons packet packets induction =>
      cases right with
      | nil => cases same
      | cons packet' packets' =>
          rcases List.cons.inj same with ⟨first, rest⟩
          rw [view_injective number first, induction (number + 1) rest]

end VisiblePacket

namespace Script

/-- What the packets of a script reveal. -/
def visible : (secured : Bool) → Script → List VisiblePacket
  | _, [] => []
  | secured, .write packetType flags payload _ :: script =>
      .ofWrite secured packetType flags payload :: visible secured script
  | _, .establish _ _ _ :: script => visible true script

/-- What someone without keys sees of a script's frames. -/
def wireView (aead : Aead) (codec : PacketCodec) (script : Script) : List (Bytes × Nat) :=
  (script.frames aead codec).map fun frame => visibleFrame frame.1

section

variable {aead : Aead} {maxPlaintext number : Nat} {codec : PacketCodec} {secured : Bool}

/-- A frame within the limits shows what its packet reveals. -/
theorem visibleFrame_outbound (correct : aead.Correct maxPlaintext)
    (position : Position codec number secured) {packetType : PacketType} {flags : UInt8}
    {payload body : Bytes} (allowed : codec.AllowsFlags flags)
    (framed : codec.outboundFrame aead packetType flags payload =
      some (codec.outboundHeader packetType (codec.sessionFlags flags) body, body)) :
    visibleFrame ((codec.outboundHeader packetType (codec.sessionFlags flags) body).toBytes.bytes ++
        body) = (VisiblePacket.ofWrite secured packetType flags payload).view number := by
  have length := PacketCodec.length_outboundFrame correct allowed framed
  rw [PacketHeader.tagLen, PacketCodec.marksEncrypted_sessionFlags allowed,
    position.session] at length
  rw [VisiblePacket.visibleFrame_append, PacketCodec.outboundHeader, PacketHeader.isEncrypted_new,
    PacketCodec.marksEncrypted_sessionFlags allowed, PacketCodec.sessionFlags, position.session,
    position.counter]
  cases secured with
  | true =>
      rw [if_pos rfl] at length
      rw [length]
      rfl
  | false =>
      have unsealed : codec.session = none := by
        simpa using position.session
      rcases Option.map_eq_some_iff.mp framed with ⟨found, produced, equal⟩
      cases (congrArg Prod.snd equal : found = body)
      rw [unsealed] at produced
      cases produced
      rfl

theorem wireView_write (correct : aead.Correct maxPlaintext) (large : 65536 ≤ maxPlaintext)
    (position : Position codec number secured) (notLast : codec.nextSendSeq ≠ u64Max)
    {packetType : PacketType} {flags : UInt8} {payload : Bytes} {arrives : Bool}
    {script : Script}
    (allowed : Allowed secured (.write packetType flags payload arrives :: script)) :
    wireView aead codec (.write packetType flags payload arrives :: script) =
      (VisiblePacket.ofWrite secured packetType flags payload).view number ::
        wireView aead codec.advanced script := by
  have within := position.withinLimits allowed
  have sealable : ¬PacketCodec.Unsealable maxPlaintext codec payload := by
    intro refused
    have bound := packetType.maxPayloadSize_le
    have fits := within.1
    have tooLarge := refused.2
    omega
  rcases PacketCodec.exists_outboundFrame correct packetType flags sealable with ⟨body, framed⟩
  have written : PacketCodec.writePacket aead packetType flags payload
      ⟨codec, PacketCodec.openStream, []⟩ = _ :=
    PacketCodec.writePacket_of_unfailing notLast PacketCodec.openStream_unfailing framed
  rw [wireView, frames, written, List.map_cons]
  exact congrArg (· :: wireView aead codec.advanced script)
    (visibleFrame_outbound correct position within.2 framed)

/-- The wire shows what the packets reveal, with consecutive numbers. -/
theorem wireView_eq (correct : aead.Correct maxPlaintext) (large : 65536 ≤ maxPlaintext)
    (script : Script) (position : Position codec number secured)
    (allowed : Allowed secured script) (short : number + writes script < 2 ^ 64) :
    wireView aead codec script = VisiblePacket.views number (script.visible secured) := by
  induction script generalizing codec number secured with
  | nil => rfl
  | cons step script induction =>
      cases step with
      | write packetType flags payload arrives =>
          have below : number + (writes script + 1) < 2 ^ 64 := short
          rw [wireView_write correct large position (position.notLast (by omega)) allowed,
            induction position.advanced allowed.2.2 (by omega)]
          rfl
      | establish outboundKey inboundKey peerOutboundKey =>
          exact induction (position.establish outboundKey inboundKey) allowed short

end

/-- Whatever the keys, the ciphers and the sealed payloads are, two senders look the same on
the wire exactly if their packets agree in type and flags, in payload length once the
session is set, and in the whole payload before. -/
theorem wireView_eq_iff (leftAead rightAead : Aead) (leftMax rightMax : Nat)
    (leftCorrect : leftAead.Correct leftMax) (rightCorrect : rightAead.Correct rightMax)
    (leftLarge : 65536 ≤ leftMax) (rightLarge : 65536 ≤ rightMax) (left right : Script)
    (leftAllowed : left.Allowed false) (rightAllowed : right.Allowed false)
    (leftShort : left.writes < 2 ^ 64 - 1) (rightShort : right.writes < 2 ^ 64 - 1) :
    left.wireView leftAead .new = right.wireView rightAead .new ↔
      left.visible false = right.visible false := by
  rw [wireView_eq leftCorrect leftLarge left .new leftAllowed (by omega),
    wireView_eq rightCorrect rightLarge right .new rightAllowed (by omega)]
  exact (VisiblePacket.views_injective 1).eq_iff

/-! Two pings of one length, under different keys. -/

def pingUnder (key : UInt8) (filler : UInt8) : Script :=
  [.establish (.replicate 32 key) (.replicate 32 key) (.replicate 32 key),
    .write .ping 0 (List.replicate 8 filler) true]

theorem pings_look_alike :
    (pingUnder 1 7).wireView (.transparent 65536) .new =
      (pingUnder 2 9).wireView (.transparent 70000) .new := by
  have allowed (key filler : UInt8) : (pingUnder key filler).Allowed false := by
    refine ⟨by rw [List.length_replicate]; decide, ?_, trivial⟩
    intro plain
    cases plain
  exact (wireView_eq_iff (.transparent 65536) (.transparent 70000) 65536 70000
    (Aead.transparent_correct 65536) (Aead.transparent_correct 70000) (Nat.le_refl _) (by decide)
    (pingUnder 1 7) (pingUnder 2 9) (allowed 1 7) (allowed 2 9) (by decide) (by decide)).mpr rfl

end Script

end ChatixProtocol
