import ChatixProtocol.Foundation.Hardened
import ChatixProtocol.Payloads.Shapes

/-! # Hardened payload shapes

The shared decoders, hardened. Each agrees with the decoder it hardens when the
limit leaves room for the input and, after it, the end of a byte field whose length
prefix is as large as it can be.
-/

namespace ChatixProtocol

/-! ## Sized strings and byte fields -/

def decodeSizedStringWithin (limit : Nat) (bytes : Bytes) : Outcome IoError (String × Nat) := do
  .refuseIf (bytes.length < 2) (.invalidData "payload too short for string length")
  let strLen :=
    (u16FromBeBytes ⟨[← indexAt bytes 0, ← indexAt bytes 1],
      FixedBytes.length_pair _ _⟩).toNat
  let stop ← checkedAddWithin limit 2 strLen (.invalidData "string length overflow")
  .refuseIf (bytes.length < stop) (.invalidData "payload too short for string bytes")
  let value ← .ofOption (.invalidData "string is not valid UTF-8")
    (fromUtf8 (← slice bytes 2 stop))
  pure (value, stop)

theorem decodeSizedString_agrees {limit : Nat} (room : 2 ^ 32 + 3 ≤ limit) (bytes : Bytes) :
    (decodeSizedStringWithin limit bytes).Agrees (decodeSizedString bytes)
      fun result => result.2 ≤ bytes.length := by
  apply Outcome.Agrees.bind (.refuseIf _ _)
  intro _ long
  apply Outcome.Agrees.bind (.indexAt (by omega))
  intro first _
  apply Outcome.Agrees.bind (.indexAt (by omega))
  intro second _
  have prefixBound := (u16FromBeBytes ⟨[first, second], rfl⟩).toNat_lt
  apply Outcome.Agrees.bind (.checkedAdd _ (by omega))
  intro stop ends
  apply Outcome.Agrees.bind (.refuseIf _ _)
  intro _ fits
  apply Outcome.Agrees.bind (.slice (by omega) (by omega))
  intro part _
  apply Outcome.Agrees.bind (.ofOption _ _)
  intro value _
  exact .ok (Nat.not_lt.mp fits)

example : decodeSizedStringWithin 2 [0, 1, 97] = .panic := by decide

def decodeSizedBytesWithin (limit : Nat) (bytes : Bytes) : Outcome IoError (Bytes × Nat) := do
  .refuseIf (bytes.length < 4) (.invalidData "missing length")
  let len :=
    (u32FromBeBytes ⟨[← indexAt bytes 0, ← indexAt bytes 1, ← indexAt bytes 2,
      ← indexAt bytes 3], FixedBytes.length_quadruple _ _ _ _⟩).toNat
  let stop ← checkedAddWithin limit 4 len (.invalidData "byte length overflow")
  .refuseIf (bytes.length < stop) (.invalidData "not enough bytes")
  let value ← slice bytes 4 stop
  pure (value, stop)

theorem decodeSizedBytes_agrees {limit : Nat} (room : 2 ^ 32 + 3 ≤ limit) (bytes : Bytes) :
    (decodeSizedBytesWithin limit bytes).Agrees (decodeSizedBytes bytes)
      fun result => result.2 ≤ bytes.length := by
  apply Outcome.Agrees.bind (.refuseIf _ _)
  intro _ long
  apply Outcome.Agrees.bind (.indexAt (by omega))
  intro first _
  apply Outcome.Agrees.bind (.indexAt (by omega))
  intro second _
  apply Outcome.Agrees.bind (.indexAt (by omega))
  intro third _
  apply Outcome.Agrees.bind (.indexAt (by omega))
  intro fourth _
  have prefixBound := (u32FromBeBytes ⟨[first, second, third, fourth], rfl⟩).toNat_lt
  apply Outcome.Agrees.bind (.checkedAdd _ (by omega))
  intro stop ends
  apply Outcome.Agrees.bind (.refuseIf _ _)
  intro _ fits
  apply Outcome.Agrees.bind (.slice (by omega) (by omega))
  intro value _
  exact .ok (Nat.not_lt.mp fits)

/-! ## Leftover bytes and tag bytes -/

theorem requireFullyConsumed_hardens (bytes : Bytes) (consumed : Nat) (payloadName : String) :
    (requireFullyConsumed bytes consumed payloadName).Hardens
      (requireFullyConsumed bytes consumed payloadName) :=
  (Outcome.Agrees.refuseIf _ _).mono fun _ _ => trivial

/-- A computation without a failing step is its own hardened form. -/
theorem Outcome.hardens_of_ne_panic {plain : Outcome ε α} (returns : plain ≠ .panic) :
    plain.Hardens plain where
  same := rfl
  returns := returns
  holds _ _ := trivial

theorem decodeBool_ne_panic (value : UInt8) (fieldName : String) :
    decodeBool value fieldName ≠ .panic := by
  unfold decodeBool
  split <;> simp

/-! ## One sized string -/

def decodeStringPayloadWithin (limit : Nat) (payloadName : String) (build : String → α)
    (bytes : Bytes) : Outcome IoError α := do
  let (value, consumed) ← decodeSizedStringWithin limit bytes
  requireFullyConsumed bytes consumed payloadName
  pure (build value)

theorem decodeStringPayload_hardens {limit : Nat} (room : 2 ^ 32 + 3 ≤ limit)
    (payloadName : String) (build : String → α) (bytes : Bytes) :
    (decodeStringPayloadWithin limit payloadName build bytes).Hardens
      (decodeStringPayload payloadName build bytes) := by
  apply Outcome.Agrees.bind (decodeSizedString_agrees room bytes)
  intro (value, consumed) _
  apply Outcome.Agrees.bind (requireFullyConsumed_hardens _ _ _)
  intro _ _
  exact .ok trivial

/-! ## One 64-bit integer -/

def decodeU64PayloadHardened (wrongLength : Nat → IoError) (build : UInt64 → α)
    (bytes : Bytes) : Outcome IoError α := do
  .refuseIf (bytes.length ≠ 8) (wrongLength bytes.length)
  let value ← copyFromSlice 8 bytes
  pure (build (u64FromBeBytes value))

theorem decodeU64Payload_hardens (wrongLength : Nat → IoError) (undecodable : IoError)
    (build : UInt64 → α) (bytes : Bytes) :
    (decodeU64PayloadHardened wrongLength build bytes).Hardens
      (decodeU64Payload wrongLength undecodable build bytes) := by
  apply Outcome.Agrees.bind (.refuseIf _ _)
  intro _ sized
  apply Outcome.Agrees.bind (.tryIntoArray _ (Decidable.not_not.mp sized))
  intro _ _
  exact .ok trivial

/-! ## One byte -/

theorem decodeBytePayload_hardens {wrongLength : IoError} {parse : UInt8 → Outcome IoError τ}
    {build : τ → α} (parses : ∀ byte, parse byte ≠ .panic) (bytes : Bytes) :
    (decodeBytePayload wrongLength parse build bytes).Hardens
      (decodeBytePayload wrongLength parse build bytes) := by
  apply Outcome.Agrees.bind (.refuseIf _ _)
  intro _ sized
  apply Outcome.Agrees.bind (.indexAt (by omega))
  intro byte _
  apply Outcome.Agrees.bind (Outcome.hardens_of_ne_panic (parses byte))
  intro _ _
  exact .ok trivial

/-! ## No content -/

theorem emptyPayload_hardens {check : Outcome IoError Unit} (checks : check ≠ .panic)
    (payload : α) :
    (check >>= fun _ => pure payload).Hardens (check >>= fun _ => pure payload) := by
  apply Outcome.Agrees.bind (Outcome.hardens_of_ne_panic checks)
  intro _ _
  exact .ok trivial

/-! ## One byte, then a sized string -/

theorem length_pos_of_not_isEmpty {bytes : Bytes} (filled : ¬bytes.isEmpty = true) :
    0 < bytes.length := by
  rw [List.isEmpty_iff_length_eq_zero] at filled
  omega

def decodeTaggedStringPayloadWithin (limit : Nat) (tooShort : IoError)
    (parse : UInt8 → Outcome IoError τ) (payloadName : String) (build : τ → String → α)
    (bytes : Bytes) : Outcome IoError α := do
  .refuseIf (bytes.isEmpty = true) tooShort
  let tag ← parse (← indexAt bytes 0)
  let (message, consumed) ← decodeSizedStringWithin limit (← sliceFrom bytes 1)
  requireFullyConsumed bytes (← addWithin limit 1 consumed) payloadName
  pure (build tag message)

theorem decodeTaggedStringPayload_hardens {limit : Nat} {bytes : Bytes}
    (room : bytes.length + (2 ^ 32 + 3) ≤ limit) {tooShort : IoError}
    {parse : UInt8 → Outcome IoError τ} (parses : ∀ byte, parse byte ≠ .panic)
    (payloadName : String) (build : τ → String → α) :
    (decodeTaggedStringPayloadWithin limit tooShort parse payloadName build bytes).Hardens
      (decodeTaggedStringPayload tooShort parse payloadName build bytes) := by
  apply Outcome.Agrees.bind (.refuseIf _ _)
  intro _ filled
  have positive := length_pos_of_not_isEmpty filled
  apply Outcome.Agrees.bind (.indexAt positive)
  intro byte _
  apply Outcome.Agrees.bind (Outcome.hardens_of_ne_panic (parses byte))
  intro tag _
  apply Outcome.Agrees.bind (.sliceFrom positive)
  intro rest restLength
  apply Outcome.Agrees.bind (decodeSizedString_agrees (by omega) rest)
  intro (message, consumed) inside
  apply Outcome.Agrees.add (by omega)
  apply Outcome.Agrees.bind (requireFullyConsumed_hardens _ _ _)
  intro _ _
  exact .ok trivial

/-! ## A tag byte and a 64-bit integer that end the payload -/

def decodeTagAndU64Hardened (missing : IoError) (parse : UInt8 → Outcome IoError τ)
    (rest : Bytes) : Outcome IoError (τ × UInt64) := do
  .refuseIf (rest.length ≠ 9) missing
  let tag ← parse (← indexAt rest 0)
  let value ← copyFromSlice 8 (← slice rest 1 9)
  pure (tag, u64FromBeBytes value)

theorem decodeTagAndU64_agrees {missing undecodable : IoError}
    {parse : UInt8 → Outcome IoError τ} (parses : ∀ byte, parse byte ≠ .panic) (rest : Bytes) :
    (decodeTagAndU64Hardened missing parse rest).Agrees
      (decodeTagAndU64 missing undecodable parse rest) fun _ => rest.length = 9 := by
  apply Outcome.Agrees.bind (.refuseIf _ _)
  intro _ sized
  apply Outcome.Agrees.bind (.indexAt (by omega))
  intro byte _
  apply Outcome.Agrees.bind (Outcome.hardens_of_ne_panic (parses byte))
  intro tag _
  apply Outcome.Agrees.bind (.slice (by omega) (by omega))
  intro part partLength
  apply Outcome.Agrees.bind (.tryIntoArray _ partLength)
  intro _ _
  exact .ok (Decidable.not_not.mp sized)

/-! ## Identifiers, a sized string and a sized byte field -/

def decodePeerAndContentWithin (limit front : Nat) (packet : String) (bytes : Bytes) :
    Outcome IoError (String × Bytes) := do
  let (peerId, peerConsumed) ← decodeSizedStringWithin limit (← sliceFrom bytes front)
  let (content, contentConsumed) ← decodeSizedBytesWithin limit
    (← sliceFrom bytes (← addWithin limit front peerConsumed))
  let overflow := .invalidData (packet ++ " length overflow")
  let consumed ← checkedAddWithin limit front peerConsumed overflow >>=
    (checkedAddWithin limit · contentConsumed overflow)
  .refuseIf (bytes.length ≠ consumed) (.invalidData (packet ++ " payload length mismatch"))
  pure (peerId, content)

theorem decodePeerAndContent_hardens {limit front : Nat} {bytes : Bytes}
    (room : bytes.length + (2 ^ 32 + 3) ≤ limit) (inside : front ≤ bytes.length) (packet : String) :
    (decodePeerAndContentWithin limit front packet bytes).Hardens
      (decodePeerAndContent front packet bytes) := by
  apply Outcome.Agrees.bind (.sliceFrom inside)
  intro afterFront afterFrontLength
  apply Outcome.Agrees.bind (decodeSizedString_agrees (by omega) afterFront)
  intro (peerId, peerConsumed) peerInside
  dsimp only at peerInside
  apply Outcome.Agrees.add (by omega)
  apply Outcome.Agrees.bind (.sliceFrom (by omega))
  intro afterPeer afterPeerLength
  apply Outcome.Agrees.bind (decodeSizedBytes_agrees (by omega) afterPeer)
  intro (content, contentConsumed) contentInside
  dsimp only at contentInside
  apply Outcome.Agrees.bind (.checkedSum _ (by omega))
  intro consumed _
  apply Outcome.Agrees.bind (.refuseIf _ _)
  intro _ _
  exact .ok trivial

def decodeMessagePayloadWithin (limit : Nat) (packet : String)
    (build : UInt64 → String → Bytes → α) (bytes : Bytes) : Outcome IoError α := do
  .refuseIf (bytes.length < 8) (.invalidData (packet ++ " too short for message_id"))
  let messageId ← copyFromSlice 8 (← slice bytes 0 8)
  let (peerId, content) ← decodePeerAndContentWithin limit 8 packet bytes
  pure (build (u64FromBeBytes messageId) peerId content)

theorem decodeMessagePayload_hardens {limit : Nat} {bytes : Bytes}
    (room : bytes.length + (2 ^ 32 + 3) ≤ limit) (packet : String)
    (build : UInt64 → String → Bytes → α) :
    (decodeMessagePayloadWithin limit packet build bytes).Hardens
      (decodeMessagePayload packet build bytes) := by
  apply Outcome.Agrees.bind (.refuseIf _ _)
  intro _ long
  apply Outcome.Agrees.bind (.slice (by omega) (by omega))
  intro part partLength
  apply Outcome.Agrees.bind (.tryIntoArray _ partLength)
  intro messageId _
  apply Outcome.Agrees.bind (decodePeerAndContent_hardens room (by omega) packet)
  intro _ _
  exact .ok trivial

end ChatixProtocol
