import ChatixProtocol.Foundation.WireFormat
import ChatixProtocol.Foundation.Utf8
import ChatixProtocol.Error

/-! # Shared payload encodings

Length-prefixed strings and byte fields, single-byte booleans, and the
trailing-byte check used by the payload decoders.
-/

namespace ChatixProtocol

def u16Max : Nat := 65535

def u32Max : Nat := 4294967295

def encodeSizedString (value : String) : Outcome IoError Bytes := do
  let bytes := utf8Bytes value
  .refuseIf (u16Max < bytes.length) (.invalidInput "string too long")
  pure ((u16ToBeBytes (UInt16.ofNat bytes.length)).bytes ++ bytes)

def decodeSizedString (bytes : Bytes) : Outcome IoError (String × Nat) := do
  .refuseIf (bytes.length < 2) (.invalidData "payload too short for string length")
  let strLen :=
    (u16FromBeBytes ⟨[← indexAt bytes 0, ← indexAt bytes 1], rfl⟩).toNat
  let stop ← .ofOption (.invalidData "string length overflow") (usizeCheckedAdd 2 strLen)
  .refuseIf (bytes.length < stop) (.invalidData "payload too short for string bytes")
  let value ← .ofOption (.invalidData "string is not valid UTF-8")
    (fromUtf8 (← slice bytes 2 stop))
  pure (value, stop)

def encodeSizedBytes (bytes : Bytes) : Outcome IoError Bytes := do
  .refuseIf (u32Max < bytes.length) (.invalidInput "bytes too long")
  pure ((u32ToBeBytes (UInt32.ofNat bytes.length)).bytes ++ bytes)

def decodeSizedBytes (bytes : Bytes) : Outcome IoError (Bytes × Nat) := do
  .refuseIf (bytes.length < 4) (.invalidData "missing length")
  let len :=
    (u32FromBeBytes ⟨[← indexAt bytes 0, ← indexAt bytes 1, ← indexAt bytes 2,
      ← indexAt bytes 3], rfl⟩).toNat
  let stop ← .ofOption (.invalidData "byte length overflow") (usizeCheckedAdd 4 len)
  .refuseIf (bytes.length < stop) (.invalidData "not enough bytes")
  let value ← slice bytes 4 stop
  pure (value, stop)

def requireFullyConsumed (bytes : Bytes) (consumed : Nat) (payloadName : String) :
    Outcome IoError Unit :=
  .refuseIf (bytes.length ≠ consumed)
    (.invalidData (payloadName ++ " payload length mismatch"))

def decodeBool (value : UInt8) (fieldName : String) : Outcome IoError Bool :=
  match value with
  | 0 => .ok false
  | 1 => .ok true
  | _ => .err (.invalidData (fieldName ++ " must be encoded as 0 or 1"))

/-- `if value { 1 } else { 0 }` -/
def encodeBool (value : Bool) : UInt8 :=
  if value then 1 else 0

/-! ## Sized strings and byte fields -/

theorem encodeSizedString_eq_ok_iff {value : String} {encoded : Bytes} :
    encodeSizedString value = .ok encoded ↔
      value.utf8ByteSize ≤ u16Max ∧
        encoded = (u16ToBeBytes (UInt16.ofNat value.utf8ByteSize)).bytes ++ utf8Bytes value := by
  simp only [encodeSizedString, Outcome.bind_eq_ok_iff, Outcome.refuseIf_eq_ok_iff,
    Outcome.pure_eq_ok, Outcome.ok.injEq, Nat.not_lt, exists_const]
  rw [length_utf8Bytes, eq_comm (b := encoded)]

theorem length_of_encodeSizedString {value : String} {encoded : Bytes}
    (encodes : encodeSizedString value = .ok encoded) :
    encoded.length = 2 + value.utf8ByteSize := by
  rcases encodeSizedString_eq_ok_iff.mp encodes with ⟨_, rfl⟩
  simp

theorem length_le_of_encodeSizedString {value : String} {encoded : Bytes}
    (encodes : encodeSizedString value = .ok encoded) :
    encoded.length ≤ 2 + u16Max := by
  have fits := (encodeSizedString_eq_ok_iff.mp encodes).1
  rw [length_of_encodeSizedString encodes]
  omega

theorem encodeSizedBytes_eq_ok_iff {value encoded : Bytes} :
    encodeSizedBytes value = .ok encoded ↔
      value.length ≤ u32Max ∧
        encoded = (u32ToBeBytes (UInt32.ofNat value.length)).bytes ++ value := by
  simp only [encodeSizedBytes, Outcome.bind_eq_ok_iff, Outcome.refuseIf_eq_ok_iff,
    Outcome.pure_eq_ok, Outcome.ok.injEq, Nat.not_lt, exists_const]
  rw [eq_comm (b := encoded)]

theorem length_of_encodeSizedBytes {value encoded : Bytes}
    (encodes : encodeSizedBytes value = .ok encoded) :
    encoded.length = 4 + value.length := by
  rcases encodeSizedBytes_eq_ok_iff.mp encodes with ⟨_, rfl⟩
  simp

theorem length_le_of_encodeSizedBytes {value encoded : Bytes}
    (encodes : encodeSizedBytes value = .ok encoded) :
    encoded.length ≤ 4 + u32Max := by
  have fits := (encodeSizedBytes_eq_ok_iff.mp encodes).1
  rw [length_of_encodeSizedBytes encodes]
  omega

private theorem u16Header {length : Nat} {header : FixedBytes 2} :
    (u16FromBeBytes header).toNat = length ↔
      length ≤ u16Max ∧ header = u16ToBeBytes (UInt16.ofNat length) := by
  constructor
  · intro counts
    subst counts
    have bound := (u16FromBeBytes header).toNat_lt
    refine ⟨by unfold u16Max; omega, ?_⟩
    rw [UInt16.ofNat_toNat, u16ToBeBytes_fromBeBytes]
  · intro written
    rcases written with ⟨fits, rfl⟩
    have bound : length < 2 ^ 16 := by
      rw [u16Max] at fits
      omega
    rw [u16FromBeBytes_toBeBytes, UInt16.toNat_ofNat_of_lt' bound]

private theorem u32Header {length : Nat} {header : FixedBytes 4} :
    (u32FromBeBytes header).toNat = length ↔
      length ≤ u32Max ∧ header = u32ToBeBytes (UInt32.ofNat length) := by
  constructor
  · intro counts
    subst counts
    have bound := (u32FromBeBytes header).toNat_lt
    refine ⟨by unfold u32Max; omega, ?_⟩
    rw [UInt32.ofNat_toNat, u32ToBeBytes_fromBeBytes]
  · intro written
    rcases written with ⟨fits, rfl⟩
    have bound : length < 2 ^ 32 := by
      rw [u32Max] at fits
      omega
    rw [u32FromBeBytes_toBeBytes, UInt32.toNat_ofNat_of_lt' bound]

theorem decodeSizedString_readsPrefix : ReadsPrefix encodeSizedString decodeSizedString := by
  apply ReadsPrefix.of_lengthPrefix (fun header => (u16FromBeBytes header).toNat) utf8Bytes
  · intro value encoded
    rw [encodeSizedString_eq_ok_iff]
    simp only [u16Header, length_utf8Bytes, and_assoc, exists_eq_left, exists_and_left]
  · intro bytes short result
    simp [decodeSizedString, Outcome.refuseIf, short]
  · intro header body value consumed
    rcases header.exists_two with ⟨first, second, rfl⟩
    have room : 2 + (u16FromBeBytes ⟨[first, second], rfl⟩).toNat ≤ usizeMax := by
      have bound := (u16FromBeBytes ⟨[first, second], rfl⟩).toNat_lt
      rw [usizeMax]
      omega
    simp only [decodeSizedString, Outcome.bind_eq_ok_iff, Outcome.refuseIf_eq_ok_iff,
      Outcome.ofOption_eq_ok_iff, usizeCheckedAdd_eq_some_iff, fromUtf8_eq_some_iff,
      Outcome.pure_eq_ok, Outcome.ok.injEq, Prod.mk.injEq, List.cons_append,
      List.nil_append, indexAt_cons_zero, indexAt_cons_succ, Outcome.ok_bind,
      List.length_cons, Nat.not_lt]
    generalize (u16FromBeBytes ⟨[first, second], rfl⟩).toNat = count at room ⊢
    constructor
    · intro decoded
      rcases decoded with ⟨_, _, _, ⟨_, rfl⟩, _, _, part, sliced, _, rfl, rfl, rfl⟩
      have inside := (slice_after_eq_ok_iff [first, second] rfl).mp sliced
      exact ⟨inside.1, inside.2, rfl⟩
    · intro held
      rcases held with ⟨inside, taken, rfl⟩
      exact ⟨(), by omega, _, ⟨room, rfl⟩, (), by omega, _,
        (slice_after_eq_ok_iff [first, second] rfl).mpr ⟨inside, taken⟩,
        _, rfl, rfl, rfl⟩

theorem decodeSizedBytes_readsPrefix : ReadsPrefix encodeSizedBytes decodeSizedBytes := by
  apply ReadsPrefix.of_lengthPrefix (fun header => (u32FromBeBytes header).toNat) id
  · intro value encoded
    rw [encodeSizedBytes_eq_ok_iff]
    simp only [u32Header, id_eq, and_assoc, exists_eq_left, exists_and_left]
  · intro bytes short result
    simp [decodeSizedBytes, Outcome.refuseIf, short]
  · intro header body value consumed
    rcases header.exists_four with ⟨first, second, third, fourth, rfl⟩
    have room : 4 + (u32FromBeBytes ⟨[first, second, third, fourth], rfl⟩).toNat ≤
        usizeMax := by
      have bound := (u32FromBeBytes ⟨[first, second, third, fourth], rfl⟩).toNat_lt
      rw [usizeMax]
      omega
    simp only [decodeSizedBytes, Outcome.bind_eq_ok_iff, Outcome.refuseIf_eq_ok_iff,
      Outcome.ofOption_eq_ok_iff, usizeCheckedAdd_eq_some_iff,
      Outcome.pure_eq_ok, Outcome.ok.injEq, Prod.mk.injEq, List.cons_append,
      List.nil_append, indexAt_cons_zero, indexAt_cons_succ, Outcome.ok_bind,
      List.length_cons, Nat.not_lt]
    generalize (u32FromBeBytes ⟨[first, second, third, fourth], rfl⟩).toNat = count
      at room ⊢
    constructor
    · intro decoded
      rcases decoded with ⟨_, _, _, ⟨_, rfl⟩, _, _, part, sliced, rfl, rfl⟩
      have inside :=
        (slice_after_eq_ok_iff [first, second, third, fourth] rfl).mp sliced
      exact ⟨inside.1, inside.2, rfl⟩
    · intro held
      rcases held with ⟨inside, taken, rfl⟩
      exact ⟨(), by omega, _, ⟨room, rfl⟩, (), by omega, _,
        (slice_after_eq_ok_iff [first, second, third, fourth] rfl).mpr
          ⟨inside, taken⟩, rfl, rfl⟩

/-! ## Booleans and leftover bytes -/

@[simp] theorem decodeBool_eq_ok_iff {value : UInt8} {fieldName : String} {result : Bool} :
    decodeBool value fieldName = .ok result ↔ value = encodeBool result := by
  unfold decodeBool
  split
  · cases result <;> decide
  · cases result <;> decide
  · rename_i notZero notOne
    cases result with
    | false => simpa [encodeBool] using notZero
    | true => simpa [encodeBool] using notOne

@[simp] theorem requireFullyConsumed_eq_ok_iff {bytes : Bytes} {consumed : Nat}
    {payloadName : String} {value : Unit} :
    requireFullyConsumed bytes consumed payloadName = .ok value ↔
      bytes.length = consumed := by
  simp [requireFullyConsumed]

end ChatixProtocol
