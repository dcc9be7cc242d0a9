import ChatixProtocol.Payloads.Common

/-! # Payload shapes

Most payloads share a handful of layouts. Each shape is written once, with the
texts of its errors as parameters; the payload modules instantiate it.
-/

namespace ChatixProtocol

/-! ## One sized string -/

def decodeStringPayload (payloadName : String) (build : String → α) (bytes : Bytes) :
    Outcome IoError α := do
  let (value, consumed) ← decodeSizedString bytes
  requireFullyConsumed bytes consumed payloadName
  pure (build value)

theorem stringPayload_canonical {field : α → String} {build : String → α}
    (payloadName : String) (buildField : ∀ payload, build (field payload) = payload)
    (fieldBuild : ∀ value, field (build value) = value) :
    Canonical (fun payload => encodeSizedString (field payload))
      (decodeStringPayload payloadName build) := by
  have whole := decodeSizedString_readsPrefix.canonical
    (.invalidData (payloadName ++ " payload length mismatch"))
  intro bytes payload
  rw [← whole bytes (field payload)]
  simp only [decodeStringPayload, requireFullyConsumed, Outcome.bind_eq_ok_iff,
    Outcome.pure_eq_ok, Outcome.ok.injEq]
  constructor
  · intro decoded
    rcases decoded with ⟨found, read, checked, exhausted, rfl⟩
    exact ⟨found, read, checked, exhausted, (fieldBuild _).symm⟩
  · intro decoded
    rcases decoded with ⟨found, read, checked, exhausted, same⟩
    exact ⟨found, read, checked, exhausted, by rw [same, buildField]⟩

/-! ## One 64-bit integer -/

def decodeU64Payload (wrongLength : Nat → IoError) (undecodable : IoError)
    (build : UInt64 → α) (bytes : Bytes) : Outcome IoError α := do
  .refuseIf (bytes.length ≠ 8) (wrongLength bytes.length)
  let value ← tryIntoArray 8 bytes undecodable
  pure (build (u64FromBeBytes value))

theorem u64Payload_canonical {field : α → UInt64} {build : UInt64 → α}
    (wrongLength : Nat → IoError) (undecodable : IoError)
    (buildField : ∀ payload, build (field payload) = payload)
    (fieldBuild : ∀ value, field (build value) = value) :
    Canonical (fun payload => .ok (u64ToBeBytes (field payload)).bytes)
      (decodeU64Payload wrongLength undecodable build) := by
  intro bytes payload
  simp only [decodeU64Payload, Outcome.bind_eq_ok_iff, Outcome.refuseIf_eq_ok_iff,
    tryIntoArray_eq_ok_iff, Outcome.pure_eq_ok, Outcome.ok.injEq]
  constructor
  · intro decoded
    rcases decoded with ⟨_, _, array, rfl, rfl⟩
    rw [fieldBuild, u64ToBeBytes_fromBeBytes]
  · intro encoded
    subst encoded
    exact ⟨(), by simp, _, rfl, by rw [u64FromBeBytes_toBeBytes, buildField]⟩

/-! ## One byte -/

def decodeBytePayload (wrongLength : IoError) (parse : UInt8 → Outcome IoError τ)
    (build : τ → α) (bytes : Bytes) : Outcome IoError α := do
  .refuseIf (bytes.length ≠ 1) wrongLength
  let value ← parse (← indexAt bytes 0)
  pure (build value)

theorem bytePayload_canonical {field : α → τ} {build : τ → α} {render : τ → UInt8}
    {parse : UInt8 → Outcome IoError τ} (wrongLength : IoError)
    (parses : ∀ byte value, parse byte = .ok value ↔ byte = render value)
    (buildField : ∀ payload, build (field payload) = payload)
    (fieldBuild : ∀ value, field (build value) = value) :
    Canonical (fun payload => .ok [render (field payload)])
      (decodeBytePayload wrongLength parse build) := by
  intro bytes payload
  simp only [decodeBytePayload, Outcome.bind_eq_ok_iff, Outcome.refuseIf_eq_ok_iff, parses,
    Outcome.pure_eq_ok, Outcome.ok.injEq, ne_eq, not_not]
  constructor
  · intro decoded
    rcases decoded with ⟨_, single, byte, at0, value, rfl, rfl⟩
    rcases List.length_eq_one_iff.mp single with ⟨only, rfl⟩
    rw [indexAt_cons_zero] at at0
    rw [fieldBuild, ← Outcome.ok.inj at0]
  · intro encoded
    subst encoded
    exact ⟨(), rfl, _, indexAt_cons_zero _ _, _, rfl, buildField payload⟩

/-! ## No content -/

theorem emptyPayload_canonical {payload : α} {check : Bytes → Outcome IoError Unit}
    (unique : ∀ other : α, other = payload)
    (checks : ∀ bytes, check bytes = .ok () ↔ bytes = []) :
    Canonical (fun _ : α => .ok []) (fun bytes => do
      check bytes
      pure payload) := by
  intro bytes other
  simp only [Outcome.bind_eq_ok_iff, Outcome.pure_eq_ok, Outcome.ok.injEq]
  constructor
  · intro decoded
    rcases decoded with ⟨_, passed, _⟩
    exact ((checks bytes).mp passed).symm
  · intro encoded
    subst encoded
    exact ⟨(), (checks []).mpr rfl, (unique other).symm⟩

/-! ## One byte, then a sized string -/

def decodeTaggedStringPayload (tooShort : IoError) (parse : UInt8 → Outcome IoError τ)
    (payloadName : String) (build : τ → String → α) (bytes : Bytes) : Outcome IoError α := do
  .refuseIf (bytes.isEmpty = true) tooShort
  let tag ← parse (← indexAt bytes 0)
  let (message, consumed) ← decodeSizedString (← sliceFrom bytes 1)
  requireFullyConsumed bytes (1 + consumed) payloadName
  pure (build tag message)

theorem taggedStringPayload_canonical {tag : α → τ} {message : α → String}
    {build : τ → String → α} {render : τ → UInt8} {parse : UInt8 → Outcome IoError τ}
    (tooShort : IoError) (payloadName : String)
    (parses : ∀ byte value, parse byte = .ok value ↔ byte = render value)
    (buildFields : ∀ payload, build (tag payload) (message payload) = payload)
    (tagBuild : ∀ first second, tag (build first second) = first)
    (messageBuild : ∀ first second, message (build first second) = second) :
    Canonical
      (fun payload => do
        let encoded ← encodeSizedString (message payload)
        pure (render (tag payload) :: encoded))
      (decodeTaggedStringPayload tooShort parse payloadName build) := by
  intro bytes payload
  constructor
  · intro decoded
    cases bytes with
    | nil => simp [decodeTaggedStringPayload, Outcome.refuseIf] at decoded
    | cons first body =>
        simp only [decodeTaggedStringPayload, Outcome.bind_eq_ok_iff, Prod.exists,
          indexAt_cons_zero, sliceFrom_eq_ok_iff, parses, requireFullyConsumed_eq_ok_iff,
          Outcome.pure_eq_ok, Outcome.ok.injEq] at decoded
        rcases decoded with ⟨_, _, _, rfl, value, rfl, _, ⟨_, rfl⟩, text, consumed, read, _,
          exhausted, rfl⟩
        rcases decodeSizedString_readsPrefix.exists_of_decode read with
          ⟨encoded, rest, encodes, whole, rfl⟩
        rw [List.drop_succ_cons, List.drop_zero] at whole
        have nothing : rest = [] := by
          rw [whole, List.length_cons, List.length_append] at exhausted
          exact List.eq_nil_of_length_eq_zero (by omega)
        simp [tagBuild, messageBuild, encodes, whole, nothing]
  · intro encoded
    simp only [Outcome.bind_eq_ok_iff, Outcome.pure_eq_ok, Outcome.ok.injEq] at encoded
    rcases encoded with ⟨text, encodes, rfl⟩
    have read := decodeSizedString_readsPrefix.decode_append encodes []
    rw [List.append_nil] at read
    have parsed := (parses _ (tag payload)).mpr rfl
    simp [decodeTaggedStringPayload, parsed, sliceFrom, read, buildFields, Nat.add_comm]

/-! ## A tag byte and a 64-bit integer that end the payload -/

def decodeTagAndU64 (missing undecodable : IoError) (parse : UInt8 → Outcome IoError τ)
    (rest : Bytes) : Outcome IoError (τ × UInt64) := do
  .refuseIf (rest.length ≠ 9) missing
  let tag ← parse (← indexAt rest 0)
  let value ← tryIntoArray 8 (← slice rest 1 9) undecodable
  pure (tag, u64FromBeBytes value)

theorem decodeTagAndU64_eq_ok_iff {render : τ → UInt8} {parse : UInt8 → Outcome IoError τ}
    {missing undecodable : IoError} {rest : Bytes} {tag : τ} {value : UInt64}
    (parses : ∀ byte value, parse byte = .ok value ↔ byte = render value) :
    decodeTagAndU64 missing undecodable parse rest = .ok (tag, value) ↔
      rest = render tag :: (u64ToBeBytes value).bytes := by
  cases rest with
  | nil => simp [decodeTagAndU64, Outcome.refuseIf]
  | cons first body =>
      have afterTag (part : Bytes) :
          (slice (first :: body) 1 9 : Outcome IoError Bytes) = .ok part ↔
            8 ≤ body.length ∧ body.take 8 = part :=
        @slice_after_eq_ok_iff IoError [first] body part 1 8 rfl
      simp only [decodeTagAndU64, Outcome.bind_eq_ok_iff, Outcome.refuseIf_eq_ok_iff,
        indexAt_cons_zero, parses, tryIntoArray_eq_ok_iff, Outcome.pure_eq_ok,
        Outcome.ok.injEq, Prod.mk.injEq, List.length_cons, List.cons.injEq]
      constructor
      · intro decoded
        rcases decoded with ⟨_, sized, _, rfl, _, rfl, _, sliced, array, rfl, rfl, rfl⟩
        rw [u64ToBeBytes_fromBeBytes, ← ((afterTag _).mp sliced).2]
        exact ⟨rfl, (List.take_of_length_le (by omega)).symm⟩
      · intro encoded
        rcases encoded with ⟨rfl, rfl⟩
        exact ⟨(), by simp, _, rfl, tag, rfl, _, (afterTag _).mpr ⟨by simp, by simp⟩, _, rfl, rfl,
          u64FromBeBytes_toBeBytes value⟩

/-! ## Identifiers, a sized string and a sized byte field -/

/-- The common tail of the message payloads: after `front` bytes of identifiers,
a sized string and a sized byte field that reach the end. -/
def decodePeerAndContent (front : Nat) (packet : String) (bytes : Bytes) :
    Outcome IoError (String × Bytes) := do
  let (peerId, peerConsumed) ← decodeSizedString (← sliceFrom bytes front)
  let (content, contentConsumed) ← decodeSizedBytes (← sliceFrom bytes (front + peerConsumed))
  let consumed ← .ofOption (.invalidData (packet ++ " length overflow"))
    ((usizeCheckedAdd front peerConsumed).bind (usizeCheckedAdd · contentConsumed))
  .refuseIf (bytes.length ≠ consumed) (.invalidData (packet ++ " payload length mismatch"))
  pure (peerId, content)

/-- What is read lies behind the identifiers and reaches the end. -/
theorem fields_of_decodePeerAndContent {front : Nat} {packet : String} {bytes : Bytes}
    {peerId : String} {content : Bytes}
    (decoded : decodePeerAndContent front packet bytes = .ok (peerId, content)) :
    ∃ ids peer body, ids.length = front ∧ encodeSizedString peerId = .ok peer ∧
      encodeSizedBytes content = .ok body ∧ bytes = ids ++ (peer ++ body) := by
  simp only [decodePeerAndContent, Outcome.bind_eq_ok_iff, Prod.exists, sliceFrom_eq_ok_iff,
    Outcome.ofOption_eq_ok_iff, Option.bind_eq_some_iff, usizeCheckedAdd_eq_some_iff,
    Outcome.refuseIf_eq_ok_iff, Outcome.pure_eq_ok, Outcome.ok.injEq, Prod.mk.injEq,
    ne_eq, not_not] at decoded
  rcases decoded with ⟨_, ⟨inside, rfl⟩, _, peerConsumed, peerRead, _, ⟨_, rfl⟩, _,
    contentConsumed, contentRead, _, ⟨_, ⟨_, rfl⟩, _, rfl⟩, _, exhausted, rfl, rfl⟩
  rcases decodeSizedString_readsPrefix.exists_of_decode peerRead with
    ⟨peer, afterPeer, encodesPeer, peerWhole, rfl⟩
  rcases decodeSizedBytes_readsPrefix.exists_of_decode contentRead with
    ⟨body, rest, encodesBody, bodyWhole, rfl⟩
  have split : bytes = bytes.take front ++ (peer ++ afterPeer) := by
    rw [← peerWhole, List.take_append_drop]
  have idsLength : (bytes.take front).length = front := List.length_take_of_le inside
  have afterBody : afterPeer = body ++ rest := by
    rw [← bodyWhole, ← List.drop_drop, peerWhole, List.drop_left' rfl]
  have nothing : rest = [] := by
    have total := congrArg List.length split
    rw [afterBody] at total
    simp only [List.length_append, idsLength] at total
    exact List.eq_nil_of_length_eq_zero (by omega)
  refine ⟨bytes.take front, peer, body, idsLength, encodesPeer, encodesBody, ?_⟩
  rw [nothing, List.append_nil] at afterBody
  rwa [← afterBody]

theorem decodePeerAndContent_append {ids peer body : Bytes} (small : ids.length ≤ u32Max)
    {packet peerId : String} {content : Bytes} (encodesPeer : encodeSizedString peerId = .ok peer)
    (encodesBody : encodeSizedBytes content = .ok body) :
    decodePeerAndContent ids.length packet (ids ++ (peer ++ body)) = .ok (peerId, content) := by
  have peerRead := decodeSizedString_readsPrefix.decode_append encodesPeer body
  have bodyRead := decodeSizedBytes_readsPrefix.decode_append encodesBody []
  rw [List.append_nil] at bodyRead
  have afterPeer : (sliceFrom (ids ++ (peer ++ body)) (ids.length + peer.length) :
      Outcome IoError Bytes) = .ok body := by
    rw [← List.append_assoc, ← List.length_append]
    exact sliceFrom_append _ _
  have room : ids.length + peer.length + body.length ≤ usizeMax := by
    have peerLength := length_le_of_encodeSizedString encodesPeer
    have bodyLength := length_le_of_encodeSizedBytes encodesBody
    rw [u16Max] at peerLength
    rw [u32Max] at small bodyLength
    rw [usizeMax]
    omega
  have summed : (usizeCheckedAdd ids.length peer.length).bind
      (usizeCheckedAdd · body.length) = some (ids.length + peer.length + body.length) := by
    have first : ids.length + peer.length ≤ usizeMax := by omega
    simp [usizeCheckedAdd, first, room]
  simp [decodePeerAndContent, peerRead, afterPeer, bodyRead, summed, Outcome.ofOption,
    Nat.add_assoc]

theorem decodePeerAndContent_eq_ok_iff {front : Nat} (small : front ≤ u32Max)
    {packet : String} {bytes : Bytes} {peerId : String} {content : Bytes} :
    decodePeerAndContent front packet bytes = .ok (peerId, content) ↔
      ∃ ids peer body, ids.length = front ∧ encodeSizedString peerId = .ok peer ∧
        encodeSizedBytes content = .ok body ∧ bytes = ids ++ (peer ++ body) := by
  constructor
  · exact fields_of_decodePeerAndContent
  · intro fields
    rcases fields with ⟨ids, peer, body, rfl, encodesPeer, encodesBody, rfl⟩
    exact decodePeerAndContent_append small encodesPeer encodesBody

def encodeMessagePayload (messageId : UInt64) (peerId : String) (content : Bytes) :
    Outcome IoError Bytes := do
  let peer ← encodeSizedString peerId
  let body ← encodeSizedBytes content
  pure ((u64ToBeBytes messageId).bytes ++ (peer ++ body))

def decodeMessagePayload (packet : String) (build : UInt64 → String → Bytes → α)
    (bytes : Bytes) : Outcome IoError α := do
  .refuseIf (bytes.length < 8) (.invalidData (packet ++ " too short for message_id"))
  let messageId ← tryIntoArray 8 (← slice bytes 0 8)
    (.invalidData ("failed to decode " ++ packet ++ " message_id"))
  let (peerId, content) ← decodePeerAndContent 8 packet bytes
  pure (build (u64FromBeBytes messageId) peerId content)

theorem messagePayload_canonical {messageId : α → UInt64} {peerId : α → String}
    {content : α → Bytes} {build : UInt64 → String → Bytes → α} (packet : String)
    (buildFields : ∀ payload, build (messageId payload) (peerId payload) (content payload) =
      payload)
    (messageIdBuild : ∀ id peer body, messageId (build id peer body) = id)
    (peerIdBuild : ∀ id peer body, peerId (build id peer body) = peer)
    (contentBuild : ∀ id peer body, content (build id peer body) = body) :
    Canonical
      (fun payload =>
        encodeMessagePayload (messageId payload) (peerId payload) (content payload))
      (decodeMessagePayload packet build) := by
  intro bytes payload
  constructor
  · intro decoded
    simp only [decodeMessagePayload, Outcome.bind_eq_ok_iff, Prod.exists,
      tryIntoArray_eq_ok_iff, decodePeerAndContent_eq_ok_iff (show 8 ≤ u32Max by decide),
      Outcome.pure_eq_ok, Outcome.ok.injEq] at decoded
    rcases decoded with ⟨_, _, _, idSlice, array, rfl, text, body, ⟨ids, peer, encoded,
      idsLength, encodesPeer, encodesBody, rfl⟩, rfl⟩
    have sameIds : ids = array.bytes := by
      have sliced := (slice_eq_ok_iff.mp idSlice).2
      rwa [List.take_left' idsLength, List.drop_zero] at sliced
    simp [encodeMessagePayload, messageIdBuild, peerIdBuild, contentBuild, encodesPeer,
      encodesBody, sameIds]
  · intro encoded
    simp only [encodeMessagePayload, Outcome.bind_eq_ok_iff, Outcome.pure_eq_ok,
      Outcome.ok.injEq] at encoded
    rcases encoded with ⟨peer, encodesPeer, body, encodesBody, rfl⟩
    have tail : decodePeerAndContent 8 packet
        ((u64ToBeBytes (messageId payload)).bytes ++ (peer ++ body)) =
          .ok (peerId payload, content payload) :=
      (decodePeerAndContent_eq_ok_iff (show 8 ≤ u32Max by decide)).mpr
        ⟨_, peer, body, FixedBytes.length_bytes _, encodesPeer, encodesBody, rfl⟩
    simp [decodeMessagePayload, tail, buildFields]

end ChatixProtocol
