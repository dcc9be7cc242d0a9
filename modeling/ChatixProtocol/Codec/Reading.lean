import ChatixProtocol.Codec

/-! # What a read can do

One read either runs out of input, refuses a header, or takes a complete frame
and opens it. Later files reason about reads through these cases only.
-/

namespace ChatixProtocol

/-! ## Reading exact amounts -/

@[simp] theorem Reader.readExact_append {count : Nat} (array : FixedBytes count) (rest : Bytes)
    (ending : IoError) :
    (Reader.mk (array.bytes ++ rest) ending).readExact count = (.ok array, ⟨rest, ending⟩) := by
  simp [Reader.readExact, List.drop_left' array.length_bytes]

theorem Reader.readExact_of_short {remaining : Bytes} {ending : IoError} {count : Nat}
    (short : remaining.length < count) :
    (Reader.mk remaining ending).readExact count = (.err ending, ⟨[], ending⟩) := by
  rw [Reader.readExact, dif_neg (Nat.not_le.mpr short)]

namespace PacketCodec

/-- A sequence number above every one received before. -/
def IsFresh (codec : PacketCodec) (seq : UInt64) : Prop :=
  ∀ last, codec.lastRecvSeq = some last → last < seq

def received (codec : PacketCodec) (seq : UInt64) : PacketCodec :=
  { codec with lastRecvSeq := some seq }

@[simp] theorem received_lastRecvSeq (codec : PacketCodec) (seq : UInt64) :
    (codec.received seq).lastRecvSeq = some seq := rfl

@[simp] theorem received_nextSendSeq (codec : PacketCodec) (seq : UInt64) :
    (codec.received seq).nextSendSeq = codec.nextSendSeq := rfl

@[simp] theorem received_session (codec : PacketCodec) (seq : UInt64) :
    (codec.received seq).session = codec.session := rfl

theorem not_isFresh_iff {codec : PacketCodec} {seq : UInt64} :
    ¬codec.IsFresh seq ↔ ∃ last, codec.lastRecvSeq = some last ∧ seq ≤ last := by
  simp [IsFresh]

theorem isFresh_of_none {codec : PacketCodec} {seq : UInt64}
    (nothing : codec.lastRecvSeq = none) : codec.IsFresh seq := by
  simp [IsFresh, nothing]

theorem validateSequence_of_fresh {codec : PacketCodec} {reader : Reader} {seq : UInt64}
    (fresh : codec.IsFresh seq) :
    validateSequence seq ⟨codec, reader⟩ = (.ok (), ⟨codec.received seq, reader⟩) := by
  rw [validateSequence]
  rw [Effect.bind_of_ok (Effect.get_apply _)]
  cases known : codec.lastRecvSeq with
  | none => rfl
  | some last =>
      have newer : ¬seq ≤ last := UInt64.not_le.mpr (fresh last known)
      simp only [Outcome.refuseIf_of_not newer]
      rfl

theorem validateSequence_of_stale {codec : PacketCodec} {reader : Reader} {seq last : UInt64}
    (known : codec.lastRecvSeq = some last) (stale : seq ≤ last) :
    validateSequence seq ⟨codec, reader⟩ =
      (.err (.sequenceViolation seq last), ⟨codec, reader⟩) := by
  rw [validateSequence]
  rw [Effect.bind_of_ok (Effect.get_apply _)]
  simp only [known, Outcome.refuseIf, if_pos stale]
  rfl

/-! ## Admitting headers and opening frames -/

theorem admitHeader_eq_ok_iff {session : Option SessionCipher} {header : PacketHeader}
    {value : Unit} :
    admitHeader session header = .ok value ↔
      header.validate = .ok () ∧ (session.isSome = true → header.isEncrypted = true) ∧
        ∃ packetType, PacketType.fromU8 header.packetType = .ok packetType ∧
          header.payloadLen ≤ maxForType header packetType := by
  simp only [admitHeader, Outcome.bind_eq_ok_iff, Outcome.refuseIf_eq_ok_iff, not_and,
    Bool.not_eq_false, UInt32.not_lt]
  constructor
  · intro admitted
    rcases admitted with ⟨⟨⟩, valid, ⟨⟩, secured, packetType, known, fits⟩
    exact ⟨valid, secured, packetType, known, fits⟩
  · intro checks
    rcases checks with ⟨valid, secured, packetType, known, fits⟩
    exact ⟨(), valid, (), secured, packetType, known, fits⟩

theorem fromU8_ne_panic (value : UInt8) : PacketType.fromU8 value ≠ .panic := by
  unfold PacketType.fromU8
  split <;> simp

theorem admitHeader_ne_panic (session : Option SessionCipher) (header : PacketHeader) :
    admitHeader session header ≠ .panic := by
  rw [admitHeader]
  cases validated : header.validate with
  | panic => exact absurd validated header.validate_ne_panic
  | err error => simp
  | ok _ =>
      rw [Outcome.ok_bind]
      by_cases plain : session.isSome = true ∧ header.isEncrypted = false
      · simp [Outcome.refuseIf, plain]
      · rw [Outcome.refuseIf_of_not plain, Outcome.ok_bind]
        cases known : PacketType.fromU8 header.packetType with
        | panic => exact absurd known (fromU8_ne_panic _)
        | err error => simp
        | ok packetType => exact Outcome.refuseIf_ne_panic

/-- What a marked frame opens to, when there is a session to open it. -/
def openedPayload (aead : Aead) (session : Option SessionCipher) (header : PacketHeader)
    (payload : Bytes) : Option Bytes :=
  session.bind fun cipher => aead.openInPlace cipher.inboundKey (seqNonce header.sequence)
    (headerAad header.packetType header.flags).bytes payload

theorem openFrame_eq (aead : Aead) (session : Option SessionCipher) (header : PacketHeader)
    (payload : Bytes) :
    openFrame aead session header payload =
      if header.isEncrypted then
        match openedPayload aead session header payload with
        | some plaintext => .ok {
            header := { header with payloadLen := UInt32.ofNat plaintext.length }
            payload := plaintext
          }
        | none => .err .cryptoError
      else
        .ok { header, payload } := by
  unfold openFrame openedPayload
  cases header.isEncrypted with
  | false => rfl
  | true =>
      cases session with
      | none => rfl
      | some cipher =>
          simp only [if_true, Option.bind_some, Outcome.ofOption, Outcome.ok_bind]
          cases aead.openInPlace cipher.inboundKey (seqNonce header.sequence)
            (headerAad header.packetType header.flags).bytes payload <;> rfl

/-- A frame opened without a session is handed on as it is; under one, the
payload is the opened plaintext and the header carries its length. -/
theorem openFrame_eq_ok_iff {aead : Aead} {session : Option SessionCipher}
    {header : PacketHeader} {payload : Bytes} {packet : RawPacket} :
    openFrame aead session header payload = .ok packet ↔
      (header.isEncrypted = false ∧ packet = { header, payload }) ∨
        (header.isEncrypted = true ∧ ∃ plaintext,
          openedPayload aead session header payload = some plaintext ∧
          packet = {
            header := { header with payloadLen := UInt32.ofNat plaintext.length }
            payload := plaintext
          }) := by
  rw [openFrame_eq]
  cases header.isEncrypted with
  | false => simp [eq_comm]
  | true => cases openedPayload aead session header payload <;> simp [eq_comm]

/-- A complete frame is refused exactly when it is marked encrypted and does not open. -/
theorem openFrame_eq_err_iff {aead : Aead} {session : Option SessionCipher}
    {header : PacketHeader} {payload : Bytes} {error : ProtocolError} :
    openFrame aead session header payload = .err error ↔
      header.isEncrypted = true ∧ openedPayload aead session header payload = none ∧
        error = .cryptoError := by
  rw [openFrame_eq]
  cases header.isEncrypted with
  | false => simp
  | true => cases openedPayload aead session header payload <;> simp [eq_comm]

theorem openFrame_ne_panic {aead : Aead} {session : Option SessionCipher}
    {header : PacketHeader} {payload : Bytes} :
    openFrame aead session header payload ≠ .panic := by
  rw [openFrame_eq]
  split
  · split <;> simp
  · simp

theorem openFrame_sequence {aead : Aead} {session : Option SessionCipher}
    {header : PacketHeader} {payload : Bytes} {packet : RawPacket}
    (opened : openFrame aead session header payload = .ok packet) :
    packet.header.sequence = header.sequence := by
  rcases openFrame_eq_ok_iff.mp opened with ⟨_, rfl⟩ | ⟨_, _, _, rfl⟩ <;> rfl

theorem header_eq_of_append {header header' : PacketHeader} {rest rest' : Bytes}
    (equal : header.toBytes.bytes ++ rest = header'.toBytes.bytes ++ rest') :
    header = header' :=
  PacketHeader.toBytes_injective (FixedBytes.append_inj.mp equal).1

/-! ## The cases of a read -/

/-- Everything a read of the given input can come to. -/
inductive ReadCase (aead : Aead) (codec : PacketCodec) (ending : IoError) :
    Bytes → Outcome ProtocolError RawPacket → PacketCodec → Bytes → Prop
  | shortHeader {input : Bytes} (short : input.length < chatixHeaderSize) :
      ReadCase aead codec ending input (.err (.io ending)) codec []
  | refused {header : PacketHeader} {rest : Bytes} {error : ProtocolError}
      (refuses : admitHeader codec.session header = .err error) :
      ReadCase aead codec ending (header.toBytes.bytes ++ rest) (.err error) codec rest
  | stale {header : PacketHeader} {rest : Bytes} {last : UInt64}
      (admitted : admitHeader codec.session header = .ok ())
      (known : codec.lastRecvSeq = some last) (notNewer : header.sequence ≤ last) :
      ReadCase aead codec ending (header.toBytes.bytes ++ rest)
        (.err (.sequenceViolation header.sequence last)) codec rest
  | shortPayload {header : PacketHeader} {rest : Bytes}
      (admitted : admitHeader codec.session header = .ok ())
      (fresh : codec.IsFresh header.sequence)
      (short : rest.length < header.payloadLen.toNat) :
      ReadCase aead codec ending (header.toBytes.bytes ++ rest) (.err (.io ending))
        (codec.received header.sequence) []
  | frame {header : PacketHeader} {payload rest : Bytes}
      (admitted : admitHeader codec.session header = .ok ())
      (fresh : codec.IsFresh header.sequence)
      (complete : payload.length = header.payloadLen.toNat) :
      ReadCase aead codec ending (header.toBytes.bytes ++ (payload ++ rest))
        (openFrame aead codec.session header payload) (codec.received header.sequence) rest

section Cases

variable {aead : Aead} {codec : PacketCodec} {ending : IoError}

theorem readPacket_of_short {input : Bytes} (short : input.length < chatixHeaderSize) :
    readPacket aead ⟨codec, ⟨input, ending⟩⟩ = (.err (.io ending), ⟨codec, ⟨[], ending⟩⟩) := by
  rw [readPacket]
  apply Effect.bind_of_err
  simp only [readExact, Reader.readExact_of_short short]
  rfl

/-- After its header, a read checks the header, records its sequence number and
takes the announced payload. -/
theorem readPacket_of_header (header : PacketHeader) (rest : Bytes) :
    readPacket aead ⟨codec, ⟨header.toBytes.bytes ++ rest, ending⟩⟩ =
      (do
        .lift (admitHeader codec.session header)
        validateSequence header.sequence
        let payload ← readExact header.payloadLen.toNat
        .lift (openFrame aead codec.session header payload.bytes) :
        Effect ReadState ProtocolError RawPacket) ⟨codec, ⟨rest, ending⟩⟩ := by
  have headerRead : readExact chatixHeaderSize
      ⟨codec, ⟨header.toBytes.bytes ++ rest, ending⟩⟩ =
        (.ok header.toBytes, ⟨codec, ⟨rest, ending⟩⟩) := by
    simp [readExact, Outcome.mapError]
  rw [readPacket]
  rw [Effect.bind_of_ok headerRead, PacketHeader.fromBytes_toBytes,
    Effect.bind_of_ok (Effect.get_apply _)]

theorem readPacket_of_refused {header : PacketHeader} {rest : Bytes} {error : ProtocolError}
    (refuses : admitHeader codec.session header = .err error) :
    readPacket aead ⟨codec, ⟨header.toBytes.bytes ++ rest, ending⟩⟩ =
      (.err error, ⟨codec, ⟨rest, ending⟩⟩) := by
  rw [readPacket_of_header]
  apply Effect.bind_of_err
  rw [refuses, Effect.lift_apply]

theorem readPacket_of_admitted {header : PacketHeader} {rest : Bytes}
    (admitted : admitHeader codec.session header = .ok ()) :
    readPacket aead ⟨codec, ⟨header.toBytes.bytes ++ rest, ending⟩⟩ =
      (do
        validateSequence header.sequence
        let payload ← readExact header.payloadLen.toNat
        .lift (openFrame aead codec.session header payload.bytes) :
        Effect ReadState ProtocolError RawPacket) ⟨codec, ⟨rest, ending⟩⟩ := by
  rw [readPacket_of_header]
  apply Effect.bind_of_ok
  rw [admitted, Effect.lift_apply]

theorem readPacket_of_stale {header : PacketHeader} {rest : Bytes} {last : UInt64}
    (admitted : admitHeader codec.session header = .ok ())
    (known : codec.lastRecvSeq = some last) (notNewer : header.sequence ≤ last) :
    readPacket aead ⟨codec, ⟨header.toBytes.bytes ++ rest, ending⟩⟩ =
      (.err (.sequenceViolation header.sequence last), ⟨codec, ⟨rest, ending⟩⟩) := by
  rw [readPacket_of_admitted admitted]
  exact Effect.bind_of_err (validateSequence_of_stale known notNewer)

theorem readPacket_of_shortPayload {header : PacketHeader} {rest : Bytes}
    (admitted : admitHeader codec.session header = .ok ())
    (fresh : codec.IsFresh header.sequence) (short : rest.length < header.payloadLen.toNat) :
    readPacket aead ⟨codec, ⟨header.toBytes.bytes ++ rest, ending⟩⟩ =
      (.err (.io ending), ⟨codec.received header.sequence, ⟨[], ending⟩⟩) := by
  rw [readPacket_of_admitted admitted, Effect.bind_of_ok (validateSequence_of_fresh fresh)]
  apply Effect.bind_of_err
  simp only [readExact, Reader.readExact_of_short short]
  rfl

theorem readPacket_of_frame {header : PacketHeader} {payload : Bytes} (rest : Bytes)
    (admitted : admitHeader codec.session header = .ok ())
    (fresh : codec.IsFresh header.sequence)
    (complete : payload.length = header.payloadLen.toNat) :
    readPacket aead ⟨codec, ⟨header.toBytes.bytes ++ (payload ++ rest), ending⟩⟩ =
      (openFrame aead codec.session header payload,
        ⟨codec.received header.sequence, ⟨rest, ending⟩⟩) := by
  have payloadRead : readExact header.payloadLen.toNat
      ⟨codec.received header.sequence, ⟨payload ++ rest, ending⟩⟩ =
        (.ok ⟨payload, complete⟩, ⟨codec.received header.sequence, ⟨rest, ending⟩⟩) := by
    have taken := Reader.readExact_append ⟨payload, complete⟩ rest ending
    simp only [readExact, taken]
    rfl
  rw [readPacket_of_admitted admitted, Effect.bind_of_ok (validateSequence_of_fresh fresh),
    Effect.bind_of_ok payloadRead, Effect.lift_apply]

theorem readPacket_cases (input : Bytes) {result : Outcome ProtocolError RawPacket}
    {codec' : PacketCodec} {rest : Bytes} {ending' : IoError}
    (ran : readPacket aead ⟨codec, ⟨input, ending⟩⟩ = (result, ⟨codec', ⟨rest, ending'⟩⟩)) :
    ReadCase aead codec ending input result codec' rest := by
  by_cases short : input.length < chatixHeaderSize
  · rw [readPacket_of_short short] at ran
    cases ran
    exact .shortHeader short
  rcases exists_append_of_length_le (Nat.not_lt.mp short) with ⟨headerBytes, rest, rfl⟩
  generalize parsed : PacketHeader.fromBytes headerBytes = header
  have render : headerBytes = header.toBytes := by
    rw [← parsed, PacketHeader.toBytes_fromBytes]
  subst render
  cases admitted : admitHeader codec.session header with
  | panic => exact absurd admitted (admitHeader_ne_panic _ _)
  | err error =>
      rw [readPacket_of_refused admitted] at ran
      cases ran
      exact .refused admitted
  | ok value =>
      by_cases fresh : codec.IsFresh header.sequence
      · by_cases enough : header.payloadLen.toNat ≤ rest.length
        · rcases exists_append_of_length_le enough with ⟨payload, rest, rfl⟩
          rw [readPacket_of_frame rest admitted fresh payload.length_bytes] at ran
          cases ran
          exact .frame admitted fresh payload.length_bytes
        · rw [readPacket_of_shortPayload admitted fresh (by omega)] at ran
          cases ran
          exact .shortPayload admitted fresh (by omega)
      · rcases not_isFresh_iff.mp fresh with ⟨last, known, notNewer⟩
        rw [readPacket_of_stale admitted known notNewer] at ran
        cases ran
        exact .stale admitted known notNewer

end Cases

/-- A packet returned by a read came in one complete, admissible and fresh frame. -/
theorem exists_frame_of_readPacket {aead : Aead} {codec codec' : PacketCodec}
    {reader reader' : Reader} {packet : RawPacket}
    (ran : readPacket aead ⟨codec, reader⟩ = (.ok packet, ⟨codec', reader'⟩)) :
    ∃ header payload, reader.remaining = header.toBytes.bytes ++ (payload ++ reader'.remaining) ∧
      admitHeader codec.session header = .ok () ∧ codec.IsFresh header.sequence ∧
      payload.length = header.payloadLen.toNat ∧
      openFrame aead codec.session header payload = .ok packet ∧
      codec' = codec.received header.sequence := by
  rcases reader with ⟨input, ending⟩
  rcases reader' with ⟨rest, ending'⟩
  generalize outcome : Outcome.ok packet = result at ran
  cases readPacket_cases input ran with
  | shortHeader => cases outcome
  | refused => cases outcome
  | stale => cases outcome
  | shortPayload => cases outcome
  | frame admitted fresh complete =>
      exact ⟨_, _, rfl, admitted, fresh, complete, rfl, rfl⟩

/-- A read changes nothing but the last sequence number received. -/
theorem readPacket_session (aead : Aead) (state : ReadState) :
    (readPacket aead state).2.codec.session = state.codec.session ∧
      (readPacket aead state).2.codec.nextSendSeq = state.codec.nextSendSeq := by
  rcases state with ⟨codec, input, ending⟩
  rcases ran : readPacket aead ⟨codec, input, ending⟩ with ⟨result, codec', rest, ending'⟩
  cases readPacket_cases input ran <;> exact ⟨rfl, rfl⟩

end PacketCodec

end ChatixProtocol
