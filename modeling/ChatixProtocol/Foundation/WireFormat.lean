import ChatixProtocol.Foundation.Outcome

/-! # Wire formats

What it means for a hand-written encoder and decoder to agree. A decoder either
reads one value off the front of its input and reports how much it took, or
accounts for its whole input.
-/

namespace ChatixProtocol

/-- `decode` succeeds exactly on the inputs that begin with an encoding, and
reports the value encoded there together with the length of the encoding. -/
def ReadsPrefix (encode : α → Outcome ε Bytes)
    (decode : Bytes → Outcome ε (α × Nat)) : Prop :=
  ∀ bytes value consumed,
    decode bytes = .ok (value, consumed) ↔
      ∃ encoded rest, encode value = .ok encoded ∧ bytes = encoded ++ rest ∧
        consumed = encoded.length

/-- `decode` succeeds exactly on the encodings. -/
def Canonical (encode : α → Outcome ε Bytes) (decode : Bytes → Outcome ε α) : Prop :=
  ∀ bytes value, decode bytes = .ok value ↔ encode value = .ok bytes

/-- Encodings stay recognisable in front of arbitrary bytes: two encodings with
anything appended are equal only when both parts are. -/
def SelfDelimiting (encode : α → Outcome ε Bytes) : Prop :=
  ∀ ⦃left right : α⦄ ⦃leftBytes rightBytes leftRest rightRest : Bytes⦄,
    encode left = .ok leftBytes → encode right = .ok rightBytes →
    leftBytes ++ leftRest = rightBytes ++ rightRest →
    left = right ∧ leftBytes = rightBytes ∧ leftRest = rightRest

namespace Canonical

variable {encode : α → Outcome ε Bytes} {decode : Bytes → Outcome ε α}

theorem decode_of_encode (canonical : Canonical encode decode)
    {value : α} {bytes : Bytes} (encoded : encode value = .ok bytes) :
    decode bytes = .ok value :=
  (canonical bytes value).mpr encoded

theorem encode_of_decode (canonical : Canonical encode decode)
    {value : α} {bytes : Bytes} (decoded : decode bytes = .ok value) :
    encode value = .ok bytes :=
  (canonical bytes value).mp decoded

/-- The accepted byte strings are the image of the encoder. -/
theorem accepts_iff (canonical : Canonical encode decode) (bytes : Bytes) :
    (∃ value, decode bytes = .ok value) ↔ ∃ value, encode value = .ok bytes :=
  exists_congr fun value => canonical bytes value

end Canonical

namespace ReadsPrefix

variable {encode : α → Outcome ε Bytes} {decode : Bytes → Outcome ε (α × Nat)}

theorem decode_append (reads : ReadsPrefix encode decode) {value : α} {encoded : Bytes}
    (encodes : encode value = .ok encoded) (rest : Bytes) :
    decode (encoded ++ rest) = .ok (value, encoded.length) :=
  (reads _ _ _).mpr ⟨encoded, rest, encodes, rfl, rfl⟩

theorem exists_of_decode (reads : ReadsPrefix encode decode) {bytes : Bytes}
    {value : α} {consumed : Nat} (decoded : decode bytes = .ok (value, consumed)) :
    ∃ encoded rest, encode value = .ok encoded ∧ bytes = encoded ++ rest ∧
      consumed = encoded.length :=
  (reads _ _ _).mp decoded

theorem selfDelimiting (reads : ReadsPrefix encode decode) : SelfDelimiting encode := by
  intro left right leftBytes rightBytes leftRest rightRest leftEncoded rightEncoded equal
  have leftDecoded := reads.decode_append leftEncoded leftRest
  rw [equal, reads.decode_append rightEncoded rightRest] at leftDecoded
  simp only [Outcome.ok.injEq, Prod.mk.injEq] at leftDecoded
  have parts := List.append_inj equal leftDecoded.2.symm
  exact ⟨leftDecoded.1.symm, parts.1, parts.2⟩

/-- Reading one value and refusing leftover bytes is a canonical decoder. -/
theorem canonical (reads : ReadsPrefix encode decode) (leftover : ε) :
    Canonical encode (fun bytes => do
      let (value, consumed) ← decode bytes
      .refuseIf (bytes.length ≠ consumed) leftover
      pure value) := by
  intro bytes value
  simp only [Outcome.bind_eq_ok_iff, Outcome.refuseIf_eq_ok_iff, Outcome.pure_eq_ok,
    Outcome.ok.injEq, exists_and_left, Prod.exists, ne_eq, not_not]
  constructor
  · intro accepted
    rcases accepted with ⟨found, consumed, decoded, exhausted, _, rfl⟩
    rcases reads.exists_of_decode decoded with ⟨encoded, rest, encodes, rfl, rfl⟩
    have nothing : rest = [] := by simpa using exhausted
    rw [encodes, nothing, List.append_nil]
  · intro encoded
    refine ⟨value, bytes.length, ?_, rfl, (), rfl⟩
    simpa using reads.decode_append encoded []

/-- A decoder of length-prefixed values reads off the front of its input when it
takes the header's count of body bytes and returns the value they render. -/
theorem of_lengthPrefix {width : Nat} (count : FixedBytes width → Nat) (render : α → Bytes)
    (encodes : ∀ value encoded, encode value = .ok encoded ↔
      ∃ header, count header = (render value).length ∧
        encoded = header.bytes ++ render value)
    (short : ∀ bytes, bytes.length < width → ∀ result, decode bytes ≠ .ok result)
    (decodes : ∀ header body value consumed,
      decode (header.bytes ++ body) = .ok (value, consumed) ↔
        count header ≤ body.length ∧ body.take (count header) = render value ∧
          consumed = width + count header) :
    ReadsPrefix encode decode := by
  intro bytes value consumed
  constructor
  · intro decoded
    have enough : width ≤ bytes.length := by
      by_contra tooShort
      exact short bytes (by omega) _ decoded
    let header : FixedBytes width := ⟨bytes.take width, List.length_take_of_le enough⟩
    let body := bytes.drop width
    have whole : bytes = header.bytes ++ body := (List.take_append_drop width bytes).symm
    rw [whole] at decoded
    rcases (decodes header body value consumed).mp decoded with ⟨inside, rendered, rfl⟩
    have counted : count header = (render value).length := by
      rw [← rendered, List.length_take_of_le inside]
    refine ⟨header.bytes ++ render value, body.drop (count header),
      (encodes _ _).mpr ⟨header, counted, rfl⟩, ?_, ?_⟩
    · rw [List.append_assoc, ← rendered, List.take_append_drop]
      exact whole
    · rw [List.length_append, header.length_bytes, counted]
  · intro starts
    rcases starts with ⟨encoded, rest, encoding, rfl, rfl⟩
    rcases (encodes _ _).mp encoding with ⟨header, counted, rfl⟩
    rw [List.append_assoc]
    refine (decodes _ _ _ _).mpr ⟨?_, ?_, ?_⟩
    · rw [counted, List.length_append]
      omega
    · rw [counted, List.take_left' rfl]
    · rw [List.length_append, header.length_bytes, counted]

end ReadsPrefix

/-- A self-delimiting encoding followed by a part of constant length that
determines the rest of the value is self-delimiting. -/
theorem SelfDelimiting.append_fixed {encode : β → Outcome ε Bytes} {size : Nat}
    (delimiting : SelfDelimiting encode) (first : α → β) (second : α → FixedBytes size)
    (determined : ∀ left right, first left = first right →
      second left = second right → left = right) :
    SelfDelimiting (fun value => do
      let front ← encode (first value)
      pure (front ++ (second value).bytes)) := by
  intro left right leftBytes rightBytes leftRest rightRest leftEncoded rightEncoded equal
  simp only [Outcome.bind_eq_ok_iff, Outcome.pure_eq_ok, Outcome.ok.injEq]
    at leftEncoded rightEncoded
  rcases leftEncoded with ⟨leftFront, leftEncodes, rfl⟩
  rcases rightEncoded with ⟨rightFront, rightEncodes, rfl⟩
  rw [List.append_assoc, List.append_assoc] at equal
  rcases delimiting leftEncodes rightEncodes equal with ⟨sameFirst, sameFront, remaining⟩
  rcases FixedBytes.append_inj.mp remaining with ⟨sameSecond, sameRest⟩
  exact ⟨determined left right sameFirst sameSecond, by rw [sameFront, sameSecond], sameRest⟩

end ChatixProtocol
