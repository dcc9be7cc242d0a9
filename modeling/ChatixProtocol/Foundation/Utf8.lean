import ChatixProtocol.Foundation.Bytes

namespace ChatixProtocol

/-! UTF-8 strings as byte strings. Lean's `String` holds exactly the valid UTF-8
byte sequences, as a Rust `String` does. -/

/-- `value.as_bytes()` -/
def utf8Bytes (value : String) : Bytes :=
  value.toByteArray.data.toList

/-- `std::str::from_utf8(bytes)` -/
def fromUtf8 (bytes : Bytes) : Option String :=
  String.fromUTF8? ⟨bytes.toArray⟩

@[simp] theorem length_utf8Bytes (value : String) :
    (utf8Bytes value).length = value.utf8ByteSize := rfl

theorem utf8Bytes_injective : Function.Injective utf8Bytes := by
  intro left right equal
  apply String.toByteArray_inj.mp
  apply ByteArray.ext
  exact Array.toList_inj.mp equal

/-- A byte string decodes to a string exactly when it is that string's encoding. -/
@[simp] theorem fromUtf8_eq_some_iff {bytes : Bytes} {value : String} :
    fromUtf8 bytes = some value ↔ bytes = utf8Bytes value := by
  unfold fromUtf8 String.fromUTF8?
  constructor
  · intro decoded
    split at decoded
    · rw [← Option.some.inj decoded]
      rfl
    · simp at decoded
  · intro encoded
    subst encoded
    have whole : (⟨(utf8Bytes value).toArray⟩ : ByteArray) = value.toByteArray := by
      apply ByteArray.ext
      simp [utf8Bytes]
    rw [whole, dif_pos value.isValidUTF8]
    rfl

end ChatixProtocol
