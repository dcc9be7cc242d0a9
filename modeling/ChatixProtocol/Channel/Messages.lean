import ChatixProtocol.Channel.Link
import ChatixProtocol.Payloads.Delivery
import ChatixProtocol.Payloads.Limits

/-! # Messages on a connection

A message is a payload in the format of its packet type. The receiver decodes it by
the type it finds in the header. A message that gets through arrives as it was sent,
and it gets through exactly if its encoding is within the limit of its type.
-/

namespace ChatixProtocol

structure Message where
  packetType : PacketType
  payload : packetType.payloadFormat.Value

namespace Message

def encode (message : Message) : Outcome IoError Bytes :=
  message.packetType.payloadFormat.encode message.payload

/-- The message in a packet. -/
def ofPacket (packet : RawPacket) : Outcome ProtocolError Message := do
  let packetType ← PacketType.fromU8 packet.header.packetType
  let payload ← (packetType.payloadFormat.decode packet.payload).mapError .io
  pure ⟨packetType, payload⟩

/-- The payload of a message of the type its receiver waits for. -/
def expect (packetType : PacketType) (message : Message) :
    Outcome ProtocolError packetType.payloadFormat.Value :=
  if same : message.packetType = packetType then
    .ok (same ▸ message.payload)
  else
    .err .invalidStateTransition

/-- The message encodes within the limit of its type. -/
def Fits (message : Message) : Prop :=
  ∃ bytes, message.encode = .ok bytes ∧
    bytes.length ≤ message.packetType.maxPayloadSize.toNat

/-- The encoding is not too long for the length field of a header. -/
def Measured (message : Message) : Prop :=
  ∀ bytes, message.encode = .ok bytes → bytes.length + 16 < 2 ^ 32

theorem ofPacket_of_encode {message : Message} {bytes : Bytes}
    (encodes : message.encode = .ok bytes) {packet : RawPacket}
    (named : packet.header.packetType = message.packetType.asU8)
    (content : packet.payload = bytes) : ofPacket packet = .ok message := by
  have decodes := (message.packetType.canonical _ _).mpr encodes
  rw [ofPacket, named, PacketType.fromU8_asU8, Outcome.ok_bind, content, decodes]
  rfl

@[simp] theorem expect_self (packetType : PacketType)
    (payload : packetType.payloadFormat.Value) :
    expect packetType ⟨packetType, payload⟩ = .ok payload := by
  simp [expect]

/-! ## What fits -/

theorem fits_of_fixedSize {message : Message} (fixedSize : message.packetType.hasFixedSize = true) :
    message.Fits := by
  have nothing := (PacketType.hasFixedSize_iff message.payload).mp fixedSize
  have encodes := (message.packetType.refusesOversized message.payload).2.mpr (by
    simp [PayloadFormat.Oversized, nothing])
  rcases encodes with ⟨bytes, encodes⟩
  exact ⟨bytes, encodes, Nat.le_of_eq (PacketType.length_of_fixedSize fixedSize encodes)⟩

theorem fits_iff_passes (message : Message) (flags : UInt8) :
    message.Fits ↔ ∃ bytes, message.encode = .ok bytes ∧
      PassesCeiling message.packetType flags bytes :=
  exists_congr fun _ => and_congr_right fun _ => passesCeiling_iff.symm

theorem fits_iff_of_capped {message : Message} {length cap : Nat}
    (capped : Capped message.packetType message.payload length cap) :
    message.Fits ↔ length ≤ cap := by
  rw [fits_iff_passes message 0]
  exact capped.passes_iff 0

theorem fits_clientHello_iff {payload : ClientHelloPayload} :
    Fits ⟨.clientHello, payload⟩ ↔ payload.clientId.utf8ByteSize ≤ 82 := by
  rw [fits_iff_passes _ 0]
  have ceiling : PacketType.clientHello.maxPayloadSize.toNat = 2 + (32 + mlKem768EkSize) + 82 := rfl
  refine passes_iff_of_string (32 + mlKem768EkSize) ceiling ?_ 0
  intro encoded
  simp only [List.length_append, FixedBytes.length_bytes]
  omega

/-- A message of one string and one content, with fixed fields in front. -/
theorem fits_iff_of_content {message : Message} {text content size : Nat}
    (encodes : message.encode.FailsIff (u16Max < text ∨ u32Max < content))
    (sized : ∀ bytes, message.encode = .ok bytes → bytes.length = size + text + content)
    (ceiling : message.packetType.maxPayloadSize.toNat = 65536) (fields : 0 < size) :
    message.Fits ↔ size + text + content ≤ 65536 := by
  constructor
  · intro fits
    rcases fits with ⟨bytes, encoded, within⟩
    rwa [sized bytes encoded, ceiling] at within
  · intro within
    have small : ¬(u16Max < text ∨ u32Max < content) := by
      rw [u16Max, u32Max]
      omega
    rcases encodes.2.mpr small with ⟨bytes, encoded⟩
    exact ⟨bytes, encoded, by rwa [sized bytes encoded, ceiling]⟩

theorem fits_sendMessage_iff {payload : SendMessagePayload} :
    Fits ⟨.sendMessage, payload⟩ ↔
      14 + payload.recipientId.utf8ByteSize + payload.content.length ≤ 65536 :=
  fits_iff_of_content (encodeMessagePayload_failsIff _ _ _)
    (fun _ => length_of_encodeMessagePayload) rfl (by decide)

theorem fits_deliverMessage_iff {payload : DeliverMessagePayload} :
    Fits ⟨.deliverMessage, payload⟩ ↔
      14 + payload.senderId.utf8ByteSize + payload.content.length ≤ 65536 :=
  fits_iff_of_content (encodeMessagePayload_failsIff _ _ _)
    (fun _ => length_of_encodeMessagePayload) rfl (by decide)

theorem fits_queuedMessageDelivery_iff {payload : QueuedMessageDeliveryPayload} :
    Fits ⟨.queuedMessageDelivery, payload⟩ ↔
      22 + payload.senderId.utf8ByteSize + payload.content.length ≤ 65536 :=
  fits_iff_of_content payload.encode_failsIff
    (fun _ => QueuedMessageDeliveryPayload.length_of_encode) rfl (by decide)

/-! ## What is measured -/

theorem measured_of_length {message : Message} {size : Nat}
    (sized : ∀ bytes, message.encode = .ok bytes → bytes.length = size)
    (small : size + 16 < 2 ^ 32) : message.Measured := by
  intro bytes encodes
  rwa [sized bytes encodes]

theorem Fits.measured {message : Message} (fits : message.Fits) : message.Measured := by
  rcases fits with ⟨bytes, encodes, within⟩
  intro other encodesOther
  cases encodes.symm.trans encodesOther
  have bound := message.packetType.maxPayloadSize_le
  omega

/-- A string has a length of two bytes. -/
theorem measured_of_string {message : Message} {text : String} {finish : Bytes → Bytes}
    {extra : Nat}
    (encoding : message.encode = encodeSizedString text >>= fun encoded => .ok (finish encoded))
    (grows : ∀ encoded, (finish encoded).length = encoded.length + extra)
    (small : extra ≤ 65536) : message.Measured := by
  intro bytes encodes
  rw [encoding] at encodes
  rcases Outcome.bind_eq_ok_iff.mp encodes with ⟨encoded, encodesText, finished⟩
  have short := length_le_of_encodeSizedString encodesText
  rw [← Outcome.ok.inj finished, grows]
  rw [u16Max] at short
  omega

theorem measured_clientHello (payload : ClientHelloPayload) :
    Measured ⟨.clientHello, payload⟩ := by
  have grows (encoded : Bytes) :
      (encoded ++ payload.x25519PublicKey.bytes ++ payload.mlKemEk.bytes).length =
        encoded.length + (32 + mlKem768EkSize) := by
    simp only [List.length_append, FixedBytes.length_bytes]
    omega
  exact measured_of_string rfl grows (by decide)

theorem measured_serverHello (payload : ServerHelloPayload) :
    Measured ⟨.serverHello, payload⟩ := by
  have grows (encoded : Bytes) :
      (encoded ++ payload.x25519PublicKey.bytes ++ payload.mlKemCiphertext.bytes ++
        payload.signature.bytes).length =
          encoded.length + (32 + mlKem768CtSize + mlDsa65SigSize) := by
    simp only [List.length_append, FixedBytes.length_bytes]
    omega
  exact measured_of_string rfl grows (by decide)

theorem measured_authResponse {payload : AuthResponsePayload}
    (small : 5281 + payload.attestationToken.length < 2 ^ 32) :
    Measured ⟨.authResponse, payload⟩ := by
  have total : AuthResponsePayload.fixed + 4 + payload.attestationToken.length + 16 < 2 ^ 32 := by
    have fixedPart : AuthResponsePayload.fixed = 5261 := rfl
    omega
  exact measured_of_length (fun _ => AuthResponsePayload.length_of_encode) total

theorem measured_fetchE2eKey (payload : FetchE2eKeyPayload) :
    Measured ⟨.fetchE2eKey, payload⟩ := by
  intro bytes encodes
  have short := length_le_of_encodeSizedString encodes
  rw [u16Max] at short
  omega

theorem measured_e2eKeyResponse (payload : E2eKeyResponsePayload) :
    Measured ⟨.e2eKeyResponse, payload⟩ := by
  rcases payload with ⟨username, _ | key⟩
  · have grows (encoded : Bytes) :
        (encoded ++ [E2eKeyStatus.notFound.asU8]).length = encoded.length + 1 := List.length_append
    exact measured_of_string rfl grows (by decide)
  · have grows (encoded : Bytes) :
        (encoded ++ E2eKeyStatus.found.asU8 :: encodeE2ePublicKey key).length =
          encoded.length + (e2ePublicKeySize + 1) := by
      rw [List.length_append, List.length_cons, length_encodeE2ePublicKey]
    exact measured_of_string rfl grows (by decide)

/-- A content that leaves room for a header and two identifiers. -/
theorem measured_of_content {message : Message} {text content size : Nat}
    (encodes : message.encode.FailsIff (u16Max < text ∨ u32Max < content))
    (sized : ∀ bytes, message.encode = .ok bytes → bytes.length = size + text + content)
    (front : size ≤ 22) (small : content + 2 ^ 17 < 2 ^ 32) : message.Measured := by
  intro bytes encoded
  have fits := encodes.2.mp ⟨bytes, encoded⟩
  rw [u16Max, u32Max] at fits
  rw [sized bytes encoded]
  omega

theorem measured_sendMessage {payload : SendMessagePayload}
    (small : payload.content.length + 2 ^ 17 < 2 ^ 32) : Measured ⟨.sendMessage, payload⟩ :=
  measured_of_content (encodeMessagePayload_failsIff _ _ _)
    (fun _ => length_of_encodeMessagePayload) (by decide) small

theorem measured_deliverMessage {payload : DeliverMessagePayload}
    (small : payload.content.length + 2 ^ 17 < 2 ^ 32) : Measured ⟨.deliverMessage, payload⟩ :=
  measured_of_content (encodeMessagePayload_failsIff _ _ _)
    (fun _ => length_of_encodeMessagePayload) (by decide) small

theorem measured_queuedMessageDelivery {payload : QueuedMessageDeliveryPayload}
    (small : payload.content.length + 2 ^ 17 < 2 ^ 32) :
    Measured ⟨.queuedMessageDelivery, payload⟩ :=
  measured_of_content payload.encode_failsIff
    (fun _ => QueuedMessageDeliveryPayload.length_of_encode) (by decide) small

end Message

namespace Link

/-- Send a message, and decode what arrives. -/
def transmit (aead : Aead) (sender : Role) (message : Message) :
    Effect Link ProtocolError Message := do
  let payload ← .lift (message.encode.mapError .io)
  let packet ← carry aead sender message.packetType 0 payload
  .lift (Message.ofPacket packet)

section

variable {aead : Aead} {maxPlaintext left : Nat} {link after : Link} {sender : Role}
  {message received : Message}

/-- A message gets through exactly if it fits and the other side waits for its type, and
then unchanged. -/
theorem transmit_eq_ok_iff (correct : aead.Correct maxPlaintext) (large : 65536 ≤ maxPlaintext)
    (inStep : link.InStep (left + 1)) (measured : message.Measured) :
    transmit aead sender message link = (.ok received, after) ↔
      message.Fits ∧ received = message ∧
        ∃ next, (link.state sender.peer).receive sender.peer message.packetType = .ok next ∧
          after = link.carried sender next := by
  have allowed : (link.codec sender).AllowsFlags 0 := fun _ => rfl
  simp only [transmit, Effect.bind_eq_ok_iff, Effect.lift_apply, Prod.mk.injEq,
    Outcome.mapError_eq_ok_iff]
  constructor
  · intro transmitted
    rcases transmitted with ⟨bytes, _, ⟨encodes, rfl⟩, packet, _, carries, arrives, rfl⟩
    rcases (carry_eq_ok_iff correct large (inStep.matching sender) (measured bytes encodes)).mp
      carries with ⟨_, within, rfl, next, receives, rfl⟩
    cases (Message.ofPacket_of_encode encodes rfl rfl).symm.trans arrives
    exact ⟨⟨bytes, encodes, within.1⟩, rfl, next, receives, rfl⟩
  · intro passes
    rcases passes with ⟨⟨bytes, encodes, within⟩, rfl, next, receives, rfl⟩
    exact ⟨bytes, link, ⟨encodes, rfl⟩, _, _, (carry_eq_ok_iff correct large
      (inStep.matching sender) (measured bytes encodes)).mpr
        ⟨inStep.notLast sender, ⟨within, allowed⟩, rfl, next, receives, rfl⟩,
      Message.ofPacket_of_encode encodes rfl rfl, rfl⟩

end

/-- Send a payload of the type the other side waits for. -/
def send (aead : Aead) (sender : Role) (packetType : PacketType)
    (payload : packetType.payloadFormat.Value) :
    Effect Link ProtocolError packetType.payloadFormat.Value := do
  let received ← transmit aead sender ⟨packetType, payload⟩
  .lift (received.expect packetType)

section

variable {aead : Aead} {maxPlaintext left : Nat} {link after : Link} {sender : Role}
  {packetType : PacketType} {payload received : packetType.payloadFormat.Value}

theorem send_eq_ok_iff (correct : aead.Correct maxPlaintext) (large : 65536 ≤ maxPlaintext)
    (inStep : link.InStep (left + 1)) (measured : Message.Measured ⟨packetType, payload⟩) :
    send aead sender packetType payload link = (.ok received, after) ↔
      Message.Fits ⟨packetType, payload⟩ ∧ received = payload ∧
        ∃ next, (link.state sender.peer).receive sender.peer packetType = .ok next ∧
          after = link.carried sender next := by
  simp only [send, Effect.bind_eq_ok_iff, Effect.lift_apply, Prod.mk.injEq,
    transmit_eq_ok_iff correct large inStep measured]
  constructor
  · intro sent
    rcases sent with ⟨_, _, ⟨fits, rfl, next, receives, rfl⟩, arrives, rfl⟩
    rw [Message.expect_self, Outcome.ok.injEq] at arrives
    exact ⟨fits, arrives.symm, next, receives, rfl⟩
  · intro passes
    rcases passes with ⟨fits, rfl, next, receives, rfl⟩
    exact ⟨_, _, ⟨fits, rfl, next, receives, rfl⟩, Message.expect_self packetType received, rfl⟩

/-- A payload for which the other side's next state is known. -/
theorem send_of_receive (correct : aead.Correct maxPlaintext) (large : 65536 ≤ maxPlaintext)
    (inStep : link.InStep (left + 1)) (measured : Message.Measured ⟨packetType, payload⟩)
    {next : ConnectionState}
    (receives : (link.state sender.peer).receive sender.peer packetType = .ok next) :
    send aead sender packetType payload link = (.ok received, after) ↔
      Message.Fits ⟨packetType, payload⟩ ∧ received = payload ∧
        after = link.carried sender next := by
  rw [send_eq_ok_iff correct large inStep measured, receives]
  simp

theorem send_of_fits (correct : aead.Correct maxPlaintext) (large : 65536 ≤ maxPlaintext)
    (inStep : link.InStep (left + 1)) (fits : Message.Fits ⟨packetType, payload⟩)
    {next : ConnectionState}
    (receives : (link.state sender.peer).receive sender.peer packetType = .ok next) :
    send aead sender packetType payload link = (.ok payload, link.carried sender next) :=
  (send_of_receive correct large inStep fits.measured receives).mpr ⟨fits, rfl, rfl⟩

/-- Once both sides are established, nothing but the length of a payload decides
whether it gets through. -/
theorem send_of_open (correct : aead.Correct maxPlaintext) (large : 65536 ≤ maxPlaintext)
    (opened : link.Open (left + 1)) (measured : Message.Measured ⟨packetType, payload⟩)
    (exchanges : sender.peer.Exchanges packetType) :
    send aead sender packetType payload link = (.ok received, after) ↔
      Message.Fits ⟨packetType, payload⟩ ∧ received = payload ∧
        after = link.carried sender .established := by
  apply send_of_receive correct large opened.inStep measured
  rw [opened.established]
  exact receive_established_eq_ok_iff.mpr (.inl ⟨exchanges, rfl⟩)

end

namespace Stands

variable {aead : Aead} {maxPlaintext left : Nat} {link : Link}
  {client server next : ConnectionState} {session : Option SessionKeys}
  {packetType : PacketType} {payload : packetType.payloadFormat.Value}

theorem clientSends (correct : aead.Correct maxPlaintext) (large : 65536 ≤ maxPlaintext)
    (stands : link.Stands (left + 1) client server session)
    (fits : Message.Fits ⟨packetType, payload⟩)
    (receives : server.receive .server packetType = .ok next) :
    ∃ after : Link, send aead .client packetType payload link = (.ok payload, after) ∧
      after.Stands left client next session := by
  have waits : (link.state (Role.peer .client)).receive (Role.peer .client) packetType = .ok next :=
    stands.server ▸ receives
  exact ⟨_, send_of_fits correct large stands.inStep fits waits, stands.carriedToServer next⟩

theorem serverSends (correct : aead.Correct maxPlaintext) (large : 65536 ≤ maxPlaintext)
    (stands : link.Stands (left + 1) client server session)
    (fits : Message.Fits ⟨packetType, payload⟩)
    (receives : client.receive .client packetType = .ok next) :
    ∃ after : Link, send aead .server packetType payload link = (.ok payload, after) ∧
      after.Stands left next server session := by
  have waits : (link.state (Role.peer .server)).receive (Role.peer .server) packetType = .ok next :=
    stands.client ▸ receives
  exact ⟨_, send_of_fits correct large stands.inStep fits waits, stands.carriedToClient next⟩

end Stands

end Link

end ChatixProtocol
