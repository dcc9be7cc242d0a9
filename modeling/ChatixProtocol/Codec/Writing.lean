import ChatixProtocol.Codec

/-! # What a write can do

One write either finds the counter exhausted, fails to seal, or sends one frame.
-/

namespace ChatixProtocol

/-- `u64::MAX` -/
def u64Max : UInt64 := 18446744073709551615

theorem u64CheckedAdd_one (seq : UInt64) :
    u64CheckedAdd seq 1 = if seq = u64Max then none else some (seq + 1) := by
  rw [u64CheckedAdd]
  by_cases last : seq = u64Max
  · subst last
    rfl
  · have different : seq.toNat ≠ u64Max.toNat := fun equal => last (UInt64.toNat_inj.mp equal)
    have bound := seq.toNat_lt
    have top : u64Max.toNat = 2 ^ 64 - 1 := rfl
    have one : (1 : UInt64).toNat = 1 := rfl
    rw [if_neg last, if_pos (by omega)]

theorem toNat_add_one {seq : UInt64} (notLast : seq ≠ u64Max) :
    (seq + 1).toNat = seq.toNat + 1 := by
  have different : seq.toNat ≠ u64Max.toNat := fun equal => notLast (UInt64.toNat_inj.mp equal)
  have bound := seq.toNat_lt
  have top : u64Max.toNat = 2 ^ 64 - 1 := rfl
  rw [UInt64.toNat_add, Nat.mod_eq_of_lt]
  · rfl
  · have one : (1 : UInt64).toNat = 1 := rfl
    omega

theorem lt_add_one {seq : UInt64} (notLast : seq ≠ u64Max) : seq < seq + 1 := by
  rw [UInt64.lt_iff_toNat_lt, toNat_add_one notLast]
  omega

/-! ## Streams -/

namespace Writer

/-- A stream that never fails. -/
def Unfailing (writer : Writer) : Prop :=
  writer.room = none ∧ writer.flushes = true

theorem accepted_of_writeAll {writer writer' : Writer} {bytes : Bytes}
    (wrote : writer.writeAll bytes = (.ok (), writer')) :
    writer'.accepted = writer.accepted ++ bytes := by
  rw [writeAll] at wrote
  split at wrote
  · cases wrote
    rfl
  · split at wrote
    · cases wrote
      rfl
    · cases wrote

end Writer

namespace PacketCodec

/-! ## Sending one frame -/

/-- Steps that leave the codec and the sealing calls alone do so one after the other. -/
theorem bind_frame {α β : Type} {first : Effect WriteState ProtocolError α}
    {next : α → Effect WriteState ProtocolError β} {state : WriteState}
    (firstKeeps : (first state).2.codec = state.codec ∧ (first state).2.calls = state.calls)
    (nextKeeps : ∀ value reached, (next value reached).2.codec = reached.codec ∧
      (next value reached).2.calls = reached.calls) :
    ((first >>= next) state).2.codec = state.codec ∧
      ((first >>= next) state).2.calls = state.calls := by
  apply Effect.bind_relates (fun before after : WriteState =>
    after.codec = before.codec ∧ after.calls = before.calls)
  · intro first second third earlier later
    exact ⟨later.1.trans earlier.1, later.2.trans earlier.2⟩
  · exact firstKeeps
  · intro value reached _
    exact nextKeeps value reached

theorem sendFrame_frame (header : PacketHeader) (payload : Bytes) (state : WriteState) :
    (sendFrame header payload state).2.codec = state.codec ∧
      (sendFrame header payload state).2.calls = state.calls := by
  apply bind_frame ⟨rfl, rfl⟩
  intro _ afterHeader
  apply bind_frame ⟨rfl, rfl⟩
  intro _ afterPayload
  exact ⟨rfl, rfl⟩

/-- A frame counts as sent only after the stream took all of it. -/
theorem accepted_of_sendFrame {header : PacketHeader} {payload : Bytes}
    {state state' : WriteState} (sent : sendFrame header payload state = (.ok (), state')) :
    state'.writer.accepted = state.writer.accepted ++ (header.toBytes.bytes ++ payload) := by
  rw [sendFrame] at sent
  rcases Effect.bind_eq_ok_iff.mp sent with ⟨_, afterHeader, wroteHeader, sent⟩
  rcases Effect.bind_eq_ok_iff.mp sent with ⟨_, afterPayload, wrotePayload, flushed⟩
  simp only [writeAll, flush, Prod.mk.injEq, Outcome.mapError_eq_ok_iff]
    at wroteHeader wrotePayload flushed
  rcases wroteHeader with ⟨headerOk, rfl⟩
  rcases wrotePayload with ⟨payloadOk, rfl⟩
  rcases flushed with ⟨_, rfl⟩
  have first := Writer.accepted_of_writeAll (Prod.ext headerOk rfl)
  have second := Writer.accepted_of_writeAll (Prod.ext payloadOk rfl)
  simp only [Writer.flush, second, first, List.append_assoc]

theorem sendFrame_of_unfailing {header : PacketHeader} {payload : Bytes} {state : WriteState}
    (unfailing : state.writer.Unfailing) :
    sendFrame header payload state =
      (.ok (), { state with writer := { state.writer with
        accepted := state.writer.accepted ++ (header.toBytes.bytes ++ payload) } }) := by
  rcases state with ⟨codec, ⟨accepted, room, flushes, failure⟩, calls⟩
  rcases unfailing with ⟨rfl, rfl⟩
  simp [sendFrame, writeAll, flush, Effect.bind_apply, Writer.writeAll, Writer.flush,
    Outcome.mapError]

/-! ## The cases of a write -/

/-- The codec after it took a sequence number. -/
def advanced (codec : PacketCodec) : PacketCodec :=
  { codec with nextSendSeq := codec.nextSendSeq + 1 }

@[simp] theorem advanced_nextSendSeq (codec : PacketCodec) :
    codec.advanced.nextSendSeq = codec.nextSendSeq + 1 := rfl

@[simp] theorem advanced_session (codec : PacketCodec) :
    codec.advanced.session = codec.session := rfl

/-- The header of the frame a write sends for a payload in its final form. -/
def outboundHeader (codec : PacketCodec) (packetType : PacketType) (flags : UInt8)
    (payload : Bytes) : PacketHeader :=
  .new packetType.asU8 flags (UInt32.ofNat payload.length) codec.nextSendSeq

@[simp] theorem outboundHeader_flags (codec : PacketCodec) (packetType : PacketType)
    (flags : UInt8) (payload : Bytes) :
    (codec.outboundHeader packetType flags payload).flags = flags := rfl

@[simp] theorem outboundHeader_payloadLen (codec : PacketCodec) (packetType : PacketType)
    (flags : UInt8) (payload : Bytes) :
    (codec.outboundHeader packetType flags payload).payloadLen = UInt32.ofNat payload.length :=
  rfl

/-- The call of the cipher that a write under a session makes. -/
def sealCall (aead : Aead) (codec : PacketCodec) (cipher : SessionCipher)
    (packetType : PacketType) (flags : UInt8) (payload : Bytes) : SealCall :=
  let nonce := seqNonce codec.nextSendSeq
  let aad := (headerAad packetType.asU8 (flags ||| Flags.encrypted)).bytes
  { key := cipher.outboundKey, nonce, aad, plaintext := payload
    sealed := aead.sealInPlaceAppendTag cipher.outboundKey nonce aad payload }

section Cases

variable {aead : Aead} {packetType : PacketType} {flags : UInt8} {payload : Bytes}
  {codec : PacketCodec} {writer : Writer} {calls : List SealCall}

theorem takeSequence_of_ne (notLast : codec.nextSendSeq ≠ u64Max) :
    takeSequence ⟨codec, writer, calls⟩ =
      (.ok codec.nextSendSeq, ⟨codec.advanced, writer, calls⟩) := by
  rw [takeSequence]
  rw [Effect.bind_of_ok (Effect.get_apply _)]
  simp only [u64CheckedAdd_one, if_neg notLast]
  rfl

theorem writePacket_of_exhausted (last : codec.nextSendSeq = u64Max) :
    writePacket aead packetType flags payload ⟨codec, writer, calls⟩ =
      (.err .cryptoError, ⟨codec, writer, calls⟩) := by
  rw [writePacket]
  apply Effect.bind_of_err
  rw [takeSequence]
  rw [Effect.bind_of_ok (Effect.get_apply _)]
  simp only [u64CheckedAdd_one, if_pos last]
  rfl

theorem writePacket_of_plain (notLast : codec.nextSendSeq ≠ u64Max)
    (plain : codec.session = none) :
    writePacket aead packetType flags payload ⟨codec, writer, calls⟩ =
      sendFrame (codec.outboundHeader packetType flags payload) payload
        ⟨codec.advanced, writer, calls⟩ := by
  rw [writePacket]
  rw [Effect.bind_of_ok (takeSequence_of_ne notLast), Effect.bind_of_ok (Effect.get_apply _)]
  simp only [advanced_session, plain]
  rfl

theorem writePacket_of_session {cipher : SessionCipher} (notLast : codec.nextSendSeq ≠ u64Max)
    (secured : codec.session = some cipher) :
    writePacket aead packetType flags payload ⟨codec, writer, calls⟩ =
      match (codec.sealCall aead cipher packetType flags payload).sealed with
      | some ciphertext =>
          sendFrame (codec.outboundHeader packetType (flags ||| Flags.encrypted) ciphertext)
            ciphertext ⟨codec.advanced, writer,
              calls ++ [codec.sealCall aead cipher packetType flags payload]⟩
      | none => (.err .cryptoError, ⟨codec.advanced, writer,
          calls ++ [codec.sealCall aead cipher packetType flags payload]⟩) := by
  have called : sealPayload aead cipher codec.nextSendSeq packetType (flags ||| Flags.encrypted)
      payload ⟨codec.advanced, writer, calls⟩ =
        (.ofOption .cryptoError (codec.sealCall aead cipher packetType flags payload).sealed,
          ⟨codec.advanced, writer,
            calls ++ [codec.sealCall aead cipher packetType flags payload]⟩) := rfl
  rw [writePacket]
  rw [Effect.bind_of_ok (takeSequence_of_ne notLast), Effect.bind_of_ok (Effect.get_apply _)]
  simp only [advanced_session, secured]
  rw [Effect.bind_apply, called]
  cases (codec.sealCall aead cipher packetType flags payload).sealed with
  | none => rfl
  | some ciphertext => rfl

/-- The flags byte on the wire. -/
def sessionFlags (codec : PacketCodec) (flags : UInt8) : UInt8 :=
  if codec.session.isSome then flags ||| Flags.encrypted else flags

/-- The header and payload a write sends, when the cipher does not refuse. -/
def outboundFrame (aead : Aead) (codec : PacketCodec) (packetType : PacketType) (flags : UInt8)
    (payload : Bytes) : Option (PacketHeader × Bytes) :=
  (match codec.session with
    | some cipher => (codec.sealCall aead cipher packetType flags payload).sealed
    | none => some payload).map
      fun body => (codec.outboundHeader packetType (codec.sessionFlags flags) body, body)

/-- The calls of the cipher a write makes. -/
def sealCalls (aead : Aead) (codec : PacketCodec) (packetType : PacketType) (flags : UInt8)
    (payload : Bytes) : List SealCall :=
  codec.session.toList.map fun cipher => codec.sealCall aead cipher packetType flags payload

/-- A write before the end of the counter sends its frame, or fails without
touching the stream. -/
theorem writePacket_eq (notLast : codec.nextSendSeq ≠ u64Max) :
    writePacket aead packetType flags payload ⟨codec, writer, calls⟩ =
      match codec.outboundFrame aead packetType flags payload with
      | some (header, body) => sendFrame header body
          ⟨codec.advanced, writer, calls ++ codec.sealCalls aead packetType flags payload⟩
      | none => (.err .cryptoError,
          ⟨codec.advanced, writer, calls ++ codec.sealCalls aead packetType flags payload⟩) := by
  unfold outboundFrame sealCalls sessionFlags
  cases secured : codec.session with
  | none =>
      rw [writePacket_of_plain notLast secured]
      simp
  | some cipher =>
      rw [writePacket_of_session notLast secured]
      cases result : (codec.sealCall aead cipher packetType flags payload).sealed <;>
        simp [result]

/-- Everything a write can do to the codec and to the record of seal calls. -/
inductive WriteStep (aead : Aead) (packetType : PacketType) (flags : UInt8) (payload : Bytes)
    (codec : PacketCodec) (calls : List SealCall) : PacketCodec → List SealCall → Prop
  | exhausted (last : codec.nextSendSeq = u64Max) :
      WriteStep aead packetType flags payload codec calls codec calls
  | plain (notLast : codec.nextSendSeq ≠ u64Max) (plain : codec.session = none) :
      WriteStep aead packetType flags payload codec calls codec.advanced calls
  | secured {cipher : SessionCipher} (notLast : codec.nextSendSeq ≠ u64Max)
      (secured : codec.session = some cipher) :
      WriteStep aead packetType flags payload codec calls codec.advanced
        (calls ++ [codec.sealCall aead cipher packetType flags payload])

theorem writePacket_step (aead : Aead) (packetType : PacketType) (flags : UInt8)
    (payload : Bytes) (state : WriteState) :
    WriteStep aead packetType flags payload state.codec state.calls
      (writePacket aead packetType flags payload state).2.codec
      (writePacket aead packetType flags payload state).2.calls := by
  rcases state with ⟨codec, writer, calls⟩
  by_cases last : codec.nextSendSeq = u64Max
  · rw [writePacket_of_exhausted last]
    exact .exhausted last
  cases secured : codec.session with
  | none =>
      rw [writePacket_of_plain last secured, (sendFrame_frame _ _ _).1, (sendFrame_frame _ _ _).2]
      exact .plain last secured
  | some cipher =>
      rw [writePacket_of_session last secured]
      cases (codec.sealCall aead cipher packetType flags payload).sealed with
      | none => exact .secured last secured
      | some ciphertext =>
          dsimp only
          rw [(sendFrame_frame _ _ _).1, (sendFrame_frame _ _ _).2]
          exact .secured last secured

/-- A write changes nothing but the next number. -/
theorem writePacket_session (aead : Aead) (packetType : PacketType) (flags : UInt8)
    (payload : Bytes) (state : WriteState) :
    (writePacket aead packetType flags payload state).2.codec.session = state.codec.session := by
  have step := writePacket_step aead packetType flags payload state
  generalize (writePacket aead packetType flags payload state).2 = reached at step
  rcases reached with ⟨codec', writer', calls'⟩
  cases step <;> rfl

end Cases

end PacketCodec

end ChatixProtocol
