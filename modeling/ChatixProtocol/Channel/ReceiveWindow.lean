import ChatixProtocol.Channel.Endpoints

/-! # Refused frames and the receive window

The window moves when a header's sequence number passes, before the payload is
read and before its tag is checked. A frame refused later than that leaves the
window where its header put it.
-/

namespace ChatixProtocol

namespace PacketCodec

/-- The input begins with an admissible, fresh header whose frame cannot be
completed: the payload is cut short, or it is marked encrypted and does not open. -/
def MovesWindowUnread (aead : Aead) (codec : PacketCodec) (input : Bytes)
    (header : PacketHeader) : Prop :=
  ∃ rest, input = header.toBytes.bytes ++ rest ∧
    admitHeader codec.session header = .ok () ∧ codec.IsFresh header.sequence ∧
    (rest.length < header.payloadLen.toNat ∨
      (header.isEncrypted = true ∧
        openedPayload aead codec.session header (rest.take header.payloadLen.toNat) = none))

theorem MovesWindowUnread.unique {aead : Aead} {codec : PacketCodec} {input : Bytes}
    {header header' : PacketHeader} (moves : MovesWindowUnread aead codec input header)
    (moves' : MovesWindowUnread aead codec input header') : header = header' := by
  rcases moves with ⟨_, rfl, _⟩
  rcases moves' with ⟨_, equal, _⟩
  exact header_eq_of_append equal

theorem IsFresh.window_ne {codec : PacketCodec} {seq : UInt64} (fresh : codec.IsFresh seq) :
    some seq ≠ codec.lastRecvSeq := by
  intro same
  exact UInt64.lt_irrefl _ (fresh seq same.symm)

section

variable {aead : Aead} {codec : PacketCodec} {input : Bytes} {ending : IoError}

theorem window_of_failed_read {error : ProtocolError}
    (failed : (readPacket aead ⟨codec, ⟨input, ending⟩⟩).1 = .err error) :
    ((readPacket aead ⟨codec, ⟨input, ending⟩⟩).2.codec = codec ∧
        ¬∃ header, MovesWindowUnread aead codec input header) ∨
      ∃ header, MovesWindowUnread aead codec input header ∧
        (readPacket aead ⟨codec, ⟨input, ending⟩⟩).2.codec = codec.received header.sequence := by
  rcases ran : readPacket aead ⟨codec, ⟨input, ending⟩⟩ with ⟨result, codec', rest', ending'⟩
  rw [ran] at failed
  cases readPacket_cases input ran with
  | shortHeader short =>
      left
      refine ⟨rfl, ?_⟩
      intro moves
      rcases moves with ⟨header, rest, rfl, _⟩
      rw [List.length_append, header.toBytes.length_bytes] at short
      omega
  | refused refuses =>
      left
      refine ⟨rfl, ?_⟩
      intro moves
      rcases moves with ⟨header, rest, equal, admitted, _⟩
      rw [header_eq_of_append equal, admitted] at refuses
      cases refuses
  | stale admitted known notNewer =>
      left
      refine ⟨rfl, ?_⟩
      intro moves
      rcases moves with ⟨header, rest, equal, _, fresh, _⟩
      rw [header_eq_of_append equal] at notNewer
      exact UInt64.not_lt.mpr notNewer (fresh _ known)
  | @shortPayload header rest admitted fresh short =>
      exact .inr ⟨header, ⟨rest, rfl, admitted, fresh, .inl short⟩, rfl⟩
  | @frame header payload _ admitted fresh complete =>
      right
      refine ⟨header, ⟨payload ++ rest', rfl, admitted, fresh, .inr ?_⟩, rfl⟩
      rw [List.take_left' complete]
      rcases openFrame_eq_err_iff.mp failed with ⟨encrypted, unopened, _⟩
      exact ⟨encrypted, unopened⟩

theorem failed_read_of_movesWindowUnread {header : PacketHeader}
    (moves : MovesWindowUnread aead codec input header) :
    (∃ error, (readPacket aead ⟨codec, ⟨input, ending⟩⟩).1 = .err error) ∧
      (readPacket aead ⟨codec, ⟨input, ending⟩⟩).2.codec = codec.received header.sequence := by
  rcases moves with ⟨rest, rfl, admitted, fresh, incomplete⟩
  by_cases short : rest.length < header.payloadLen.toNat
  · rw [readPacket_of_shortPayload admitted fresh short]
    exact ⟨⟨_, rfl⟩, rfl⟩
  · have unopened := incomplete.resolve_left short
    have split : rest = rest.take header.payloadLen.toNat ++ rest.drop header.payloadLen.toNat :=
      (List.take_append_drop _ _).symm
    have complete : (rest.take header.payloadLen.toNat).length = header.payloadLen.toNat :=
      List.length_take_of_le (Nat.not_lt.mp short)
    rw [split, readPacket_of_frame _ admitted fresh complete]
    exact ⟨⟨_, openFrame_eq_err_iff.mpr ⟨unopened.1, unopened.2, rfl⟩⟩, rfl⟩

end

theorem sequenceViolation_iff {aead : Aead} {codec : PacketCodec} {ending : IoError}
    {header : PacketHeader} {payload : Bytes} (rest : Bytes)
    (admitted : admitHeader codec.session header = .ok ())
    (complete : payload.length = header.payloadLen.toNat) :
    (∃ last, (readPacket aead ⟨codec,
        ⟨header.toBytes.bytes ++ (payload ++ rest), ending⟩⟩).1 =
          .err (.sequenceViolation header.sequence last)) ↔ ¬codec.IsFresh header.sequence := by
  by_cases fresh : codec.IsFresh header.sequence
  · rw [readPacket_of_frame rest admitted fresh complete]
    simp only [fresh, not_true_eq_false, iff_false, not_exists]
    intro last refused
    cases (openFrame_eq_err_iff.mp refused).2.2
  · rcases not_isFresh_iff.mp fresh with ⟨last, known, notNewer⟩
    rw [readPacket_of_stale admitted known notNewer]
    exact ⟨fun _ => fresh, fun _ => ⟨last, rfl⟩⟩

/-- A read that refuses its input keeps the receive window exactly when the input
does not begin with an admissible, fresh header whose frame is cut short or does
not open. After a refused input, a genuine frame is refused as a replay exactly
when the input began with such a header and the frame's sequence number does not
exceed that header's. -/
theorem refused_read_keeps_window_iff (aead : Aead) (codec : PacketCodec) (input : Bytes)
    (ending : IoError) :
    ((∀ error, (readPacket aead ⟨codec, ⟨input, ending⟩⟩).1 = .err error →
        (readPacket aead ⟨codec, ⟨input, ending⟩⟩).2.codec.lastRecvSeq = codec.lastRecvSeq) ↔
      ¬∃ header, MovesWindowUnread aead codec input header) ∧
    ∀ (error : ProtocolError) (genuine : PacketHeader) (payload rest : Bytes) (ending' : IoError),
      (readPacket aead ⟨codec, ⟨input, ending⟩⟩).1 = .err error →
      admitHeader codec.session genuine = .ok () → codec.IsFresh genuine.sequence →
      payload.length = genuine.payloadLen.toNat →
      ((∃ last, (readPacket aead ⟨(readPacket aead ⟨codec, ⟨input, ending⟩⟩).2.codec,
          ⟨genuine.toBytes.bytes ++ (payload ++ rest), ending'⟩⟩).1 =
            .err (.sequenceViolation genuine.sequence last)) ↔
        ∃ header, MovesWindowUnread aead codec input header ∧
          genuine.sequence ≤ header.sequence) := by
  constructor
  · constructor
    · rintro keeps ⟨header, moves⟩
      rcases failed_read_of_movesWindowUnread moves with ⟨⟨error, failed⟩, reached⟩
      have kept := keeps error failed
      rw [reached] at kept
      rcases moves with ⟨_, _, _, fresh, _⟩
      exact fresh.window_ne kept
    · intro still error failed
      rcases window_of_failed_read failed with ⟨same, _⟩ | ⟨header, moves, _⟩
      · rw [same]
      · exact absurd ⟨header, moves⟩ still
  · intro error genuine payload rest ending' failed admitted fresh complete
    rcases window_of_failed_read failed with ⟨same, still⟩ | ⟨header, moves, reached⟩
    · rw [same, sequenceViolation_iff rest admitted complete]
      constructor
      · exact fun stale => absurd fresh stale
      · intro covered
        rcases covered with ⟨header, moves, _⟩
        exact absurd ⟨header, moves⟩ still
    · rw [reached, sequenceViolation_iff rest (by exact admitted) complete, not_isFresh_iff]
      constructor
      · intro stale
        rcases stale with ⟨last, known, notNewer⟩
        cases known
        exact ⟨header, moves, notNewer⟩
      · intro covered
        rcases covered with ⟨other, otherMoves, notNewer⟩
        rw [otherMoves.unique moves] at notNewer
        exact ⟨header.sequence, rfl, notNewer⟩

/-! A forged ping with the largest sequence number, which nothing opens. -/

def forgedPing : Bytes :=
  (PacketHeader.new 20 1 16 18446744073709551615).toBytes.bytes ++ List.replicate 16 0

/-- A server that established its session and received nothing yet. -/
def waitingServer : PacketCodec :=
  PacketCodec.new.establishSession (.replicate 32 2) (.replicate 32 1)

def readOne (codec : PacketCodec) (input : Bytes) : Outcome ProtocolError RawPacket × ReadState :=
  readPacket (.ofCalls [pingCall]) ⟨codec, ⟨input, .earlyEof⟩⟩

/-- The forged frame is refused, and after it the genuine one is refused as a
replay, which was accepted without it. -/
theorem forged_ping_closes_window :
    (readOne waitingServer forgedPing).1 = .err .cryptoError ∧
      waitingServer.lastRecvSeq = none ∧
      (readOne waitingServer forgedPing).2.codec.lastRecvSeq = some 18446744073709551615 ∧
      (readOne (readOne waitingServer forgedPing).2.codec pingFrame).1 =
        .err (.sequenceViolation 1 18446744073709551615) ∧
      (readOne waitingServer pingFrame).1 = .ok ⟨.new 20 1 8 1, List.replicate 8 7⟩ := by
  decide

end PacketCodec

end ChatixProtocol
