import ChatixProtocol.Foundation.Effect
import ChatixProtocol.Crypto.Aead
import ChatixProtocol.Header
import ChatixProtocol.PacketType

/-! # The packet codec

One connection's framing state. Inbound sequence numbers must grow, outbound
ones are assigned in order, and every frame is sealed once a session exists.
-/

namespace ChatixProtocol

structure RawPacket where
  header : PacketHeader
  payload : Bytes
  deriving DecidableEq

structure SessionCipher where
  outboundKey : FixedBytes 32
  inboundKey : FixedBytes 32
  deriving DecidableEq

structure PacketCodec where
  lastRecvSeq : Option UInt64
  nextSendSeq : UInt64
  session : Option SessionCipher
  deriving DecidableEq

/-! ## Byte streams -/

/-- The bytes still to come from the network, and the error the stream ends with. -/
structure Reader where
  remaining : Bytes
  ending : IoError
  deriving DecidableEq

/-- A stream that takes bytes until its room is used up, and may refuse to flush. -/
structure Writer where
  accepted : Bytes
  room : Option Nat
  flushes : Bool
  failure : IoError
  deriving DecidableEq

/-- Fill a buffer of `count` bytes. A stream that ends too early is used up. -/
def Reader.readExact (reader : Reader) (count : Nat) :
    Outcome IoError (FixedBytes count) × Reader :=
  if enough : count ≤ reader.remaining.length then
    (.ok ⟨reader.remaining.take count, List.length_take_of_le enough⟩,
      { reader with remaining := reader.remaining.drop count })
  else
    (.err reader.ending, { reader with remaining := [] })

def Writer.writeAll (writer : Writer) (bytes : Bytes) : Outcome IoError Unit × Writer :=
  match writer.room with
  | none => (.ok (), { writer with accepted := writer.accepted ++ bytes })
  | some room =>
      if bytes.length ≤ room then
        (.ok (), { writer with
          accepted := writer.accepted ++ bytes
          room := some (room - bytes.length) })
      else
        (.err writer.failure, { writer with
          accepted := writer.accepted ++ bytes.take room
          room := some 0 })

def Writer.flush (writer : Writer) : Outcome IoError Unit × Writer :=
  (if writer.flushes then .ok () else .err writer.failure, writer)

/-! ## Nonces, associated data and machine arithmetic -/

def seqNonce (seq : UInt64) : FixedBytes 12 where
  bytes := List.replicate 4 0 ++ (u64ToBeBytes seq).bytes
  length_bytes := by simp

def headerAad (packetType flags : UInt8) : FixedBytes 2 :=
  ⟨[packetType, flags], FixedBytes.length_pair packetType flags⟩

/-- `left.checked_add(right)` on `u64` -/
def u64CheckedAdd (left right : UInt64) : Option UInt64 :=
  if left.toNat + right.toNat < 2 ^ 64 then some (left + right) else none

/-- `left.saturating_add(right)` on `u32` -/
def u32SaturatingAdd (left right : UInt32) : UInt32 :=
  if left.toNat + right.toNat < 2 ^ 32 then left + right else UInt32.ofNat (2 ^ 32 - 1)

theorem seqNonce_injective : Function.Injective seqNonce := by
  intro left right equal
  have bytes := congrArg FixedBytes.bytes equal
  simp only [seqNonce] at bytes
  exact u64ToBeBytes_injective (FixedBytes.ext (List.append_cancel_left bytes))

theorem headerAad_inj {type flags type' flags' : UInt8} :
    headerAad type flags = headerAad type' flags' ↔ type = type' ∧ flags = flags' := by
  simp [headerAad]

/-! ## The codec's operations -/

namespace PacketCodec

def new : PacketCodec where
  lastRecvSeq := none
  nextSendSeq := 1
  session := none

def establishSession (codec : PacketCodec) (outboundKey inboundKey : FixedBytes 32) :
    PacketCodec :=
  { codec with session := some { outboundKey, inboundKey } }

/-! ### Reading -/

structure ReadState where
  codec : PacketCodec
  reader : Reader
  deriving DecidableEq

def readExact (count : Nat) : Effect ReadState ProtocolError (FixedBytes count) := fun state =>
  ((state.reader.readExact count).1.mapError .io,
    { state with reader := (state.reader.readExact count).2 })

/-- The largest payload length a header may announce. -/
def maxForType (header : PacketHeader) (packetType : PacketType) : UInt32 :=
  if header.isEncrypted then
    u32SaturatingAdd packetType.maxPayloadSize (UInt32.ofNat gcmTagLen)
  else
    packetType.maxPayloadSize

/-- The checks made on a header before its sequence number is looked at. -/
def admitHeader (session : Option SessionCipher) (header : PacketHeader) :
    Outcome ProtocolError Unit := do
  header.validate
  .refuseIf (session.isSome = true ∧ header.isEncrypted = false) .encryptionRequired
  let packetType ← PacketType.fromU8 header.packetType
  .refuseIf (maxForType header packetType < header.payloadLen)
    (.payloadTooLarge header.payloadLen (maxForType header packetType))

def validateSequence (seq : UInt64) : Effect ReadState ProtocolError Unit := do
  let state ← .get
  match state.codec.lastRecvSeq with
  | some last => .lift (.refuseIf (seq ≤ last) (.sequenceViolation seq last))
  | none => pure ()
  .modify fun state => { state with codec := { state.codec with lastRecvSeq := some seq } }

/-- Turn a complete frame into the packet handed to the caller. -/
def openFrame (aead : Aead) (session : Option SessionCipher) (header : PacketHeader)
    (payload : Bytes) : Outcome ProtocolError RawPacket :=
  if header.isEncrypted then do
    let cipher ← .ofOption .cryptoError session
    let plaintext ← .ofOption .cryptoError
      (aead.openInPlace cipher.inboundKey (seqNonce header.sequence)
        (headerAad header.packetType header.flags).bytes payload)
    -- Callers see the length of the plaintext, not of the sealed payload.
    pure {
      header := { header with payloadLen := UInt32.ofNat plaintext.length }
      payload := plaintext
    }
  else
    pure { header, payload }

def readPacket (aead : Aead) : Effect ReadState ProtocolError RawPacket := do
  let headerBytes ← readExact chatixHeaderSize
  let header := PacketHeader.fromBytes headerBytes
  let state ← .get
  .lift (admitHeader state.codec.session header)
  validateSequence header.sequence
  -- An empty payload asks the stream for nothing.
  let payload ← readExact header.payloadLen.toNat
  .lift (openFrame aead state.codec.session header payload.bytes)

/-! ### Writing

The calls of the cipher are recorded beside the codec and the stream. -/

structure WriteState where
  codec : PacketCodec
  writer : Writer
  calls : List SealCall
  deriving DecidableEq

def writeAll (bytes : Bytes) : Effect WriteState ProtocolError Unit := fun state =>
  ((state.writer.writeAll bytes).1.mapError .io,
    { state with writer := (state.writer.writeAll bytes).2 })

def flush : Effect WriteState ProtocolError Unit := fun state =>
  (state.writer.flush.1.mapError .io, { state with writer := state.writer.flush.2 })

/-- Take the next sequence number. At the last one the counter stays put. -/
def takeSequence : Effect WriteState ProtocolError UInt64 := do
  let state ← .get
  let next ← .lift (.ofOption .cryptoError (u64CheckedAdd state.codec.nextSendSeq 1))
  .modify fun state => { state with codec := { state.codec with nextSendSeq := next } }
  pure state.codec.nextSendSeq

def sealPayload (aead : Aead) (cipher : SessionCipher) (seq : UInt64) (packetType : PacketType)
    (flags : UInt8) (payload : Bytes) : Effect WriteState ProtocolError Bytes := do
  let nonce := seqNonce seq
  let aad := (headerAad packetType.asU8 flags).bytes
  let sealed := aead.sealInPlaceAppendTag cipher.outboundKey nonce aad payload
  .modify fun state =>
    { state with calls := state.calls ++
        [{ key := cipher.outboundKey, nonce, aad, plaintext := payload, sealed }] }
  .lift (.ofOption .cryptoError sealed)

def sendFrame (header : PacketHeader) (payload : Bytes) : Effect WriteState ProtocolError Unit := do
  writeAll header.toBytes.bytes
  writeAll payload
  flush

def writePacket (aead : Aead) (packetType : PacketType) (flags : UInt8) (payload : Bytes) :
    Effect WriteState ProtocolError Unit := do
  let seq ← takeSequence
  let state ← .get
  match state.codec.session with
  | some cipher => do
      -- The flag is set before sealing, so the tag covers the flags byte on the wire.
      let flags := flags ||| Flags.encrypted
      let payload ← sealPayload aead cipher seq packetType flags payload
      sendFrame (PacketHeader.new packetType.asU8 flags (UInt32.ofNat payload.length) seq) payload
  | none =>
      sendFrame (PacketHeader.new packetType.asU8 flags (UInt32.ofNat payload.length) seq) payload

end PacketCodec

end ChatixProtocol
