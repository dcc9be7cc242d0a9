import ChatixProtocol.Crypto.Keys

namespace ChatixProtocol

/-! # Authenticated encryption

AES-256-GCM comes from a library. Its two operations are parameters; either may
refuse its input. -/

structure Aead where
  sealInPlaceAppendTag : (key : FixedBytes 32) → (nonce : FixedBytes 12) →
    (aad plaintext : Bytes) → Option Bytes
  openInPlace : (key : FixedBytes 32) → (nonce : FixedBytes 12) →
    (aad ciphertext : Bytes) → Option Bytes
  /-- The plaintext is returned as a prefix of the ciphertext's buffer. -/
  length_openInPlace : ∀ {key nonce aad ciphertext plaintext},
    openInPlace key nonce aad ciphertext = some plaintext →
      plaintext.length ≤ ciphertext.length

namespace Aead

/-- The documented behaviour of the cipher on plaintexts of at most `maxPlaintext`
bytes: it seals exactly those, appends a tag, and opens what it sealed. -/
structure Correct (aead : Aead) (maxPlaintext : Nat) : Prop where
  seals : ∀ key nonce aad plaintext,
    (aead.sealInPlaceAppendTag key nonce aad plaintext).isSome ↔
      plaintext.length ≤ maxPlaintext
  length_sealed : ∀ {key nonce aad plaintext ciphertext},
    aead.sealInPlaceAppendTag key nonce aad plaintext = some ciphertext →
      ciphertext.length = plaintext.length + gcmTagLen
  opens_sealed : ∀ {key nonce aad plaintext ciphertext},
    aead.sealInPlaceAppendTag key nonce aad plaintext = some ciphertext →
      aead.openInPlace key nonce aad ciphertext = some plaintext
  length_opened : ∀ {key nonce aad ciphertext plaintext},
    aead.openInPlace key nonce aad ciphertext = some plaintext →
      ciphertext.length = plaintext.length + gcmTagLen

/-- Sealing appends a tag, and opening inverts it. -/
structure Inverts (aead : Aead) : Prop where
  length_sealed : ∀ {key nonce aad plaintext ciphertext},
    aead.sealInPlaceAppendTag key nonce aad plaintext = some ciphertext →
      ciphertext.length = plaintext.length + gcmTagLen
  opens_sealed : ∀ {key nonce aad plaintext ciphertext},
    aead.sealInPlaceAppendTag key nonce aad plaintext = some ciphertext →
      aead.openInPlace key nonce aad ciphertext = some plaintext

theorem Correct.inverts {aead : Aead} {maxPlaintext : Nat} (correct : aead.Correct maxPlaintext) :
    aead.Inverts where
  length_sealed := correct.length_sealed
  opens_sealed := correct.opens_sealed

/-- Opening returns what it was given less the tag. -/
def StripsTag (aead : Aead) : Prop :=
  ∀ {key nonce aad ciphertext plaintext},
    aead.openInPlace key nonce aad ciphertext = some plaintext →
      ciphertext.length = plaintext.length + gcmTagLen

theorem Correct.stripsTag {aead : Aead} {maxPlaintext : Nat}
    (correct : aead.Correct maxPlaintext) : aead.StripsTag :=
  correct.length_opened

theorem Correct.exists_sealed {aead : Aead} {maxPlaintext : Nat}
    (correct : aead.Correct maxPlaintext) (key : FixedBytes 32) (nonce : FixedBytes 12)
    (aad : Bytes) {plaintext : Bytes} (fits : plaintext.length ≤ maxPlaintext) :
    ∃ ciphertext, aead.sealInPlaceAppendTag key nonce aad plaintext = some ciphertext :=
  Option.isSome_iff_exists.mp ((correct.seals key nonce aad plaintext).mpr fits)

/-- A cipher that only appends a blank tag. -/
def transparent (maxPlaintext : Nat) : Aead where
  sealInPlaceAppendTag _ _ _ plaintext :=
    if plaintext.length ≤ maxPlaintext then
      some (plaintext ++ List.replicate gcmTagLen 0)
    else
      none
  openInPlace _ _ _ ciphertext :=
    if gcmTagLen ≤ ciphertext.length then
      some (ciphertext.take (ciphertext.length - gcmTagLen))
    else
      none
  length_openInPlace := by
    intro key nonce aad ciphertext plaintext opens
    rw [Option.ite_none_right_eq_some] at opens
    rw [← Option.some.inj opens.2, List.length_take]
    omega

theorem transparent_correct (maxPlaintext : Nat) :
    (transparent maxPlaintext).Correct maxPlaintext where
  seals key nonce aad plaintext := by
    rw [transparent]
    dsimp only
    split <;> simp_all
  length_sealed := by
    intro key nonce aad plaintext ciphertext sealed
    rcases (Option.ite_none_right_eq_some.mp sealed).2 with ⟨rfl⟩
    simp
  opens_sealed := by
    intro key nonce aad plaintext ciphertext sealed
    rcases (Option.ite_none_right_eq_some.mp sealed).2 with ⟨rfl⟩
    simp [transparent]
  length_opened := by
    intro key nonce aad ciphertext plaintext opens
    rcases Option.ite_none_right_eq_some.mp opens with ⟨long, ⟨rfl⟩⟩
    rw [List.length_take]
    omega

end Aead

/-- One call of the sealing operation, with what it was given and returned. -/
structure SealCall where
  key : FixedBytes 32
  nonce : FixedBytes 12
  aad : Bytes
  plaintext : Bytes
  sealed : Option Bytes
  deriving DecidableEq

/-- The cipher that has made the given calls and no others: it answers a repeated
call as before, and opens what they returned. -/
def Aead.ofCalls (calls : List SealCall) : Aead where
  sealInPlaceAppendTag key nonce aad plaintext :=
    (calls.find? fun call =>
      call.key = key ∧ call.nonce = nonce ∧ call.aad = aad ∧ call.plaintext = plaintext).bind
        (·.sealed)
  openInPlace key nonce aad ciphertext :=
    ((calls.find? fun call =>
      call.key = key ∧ call.nonce = nonce ∧ call.aad = aad ∧ call.sealed = some ciphertext ∧
        call.plaintext.length ≤ ciphertext.length)).map (·.plaintext)
  length_openInPlace := by
    intro key nonce aad ciphertext plaintext opens
    rcases Option.map_eq_some_iff.mp opens with ⟨call, found, rfl⟩
    have matching := List.find?_some found
    simp only [decide_eq_true_eq] at matching
    exact matching.2.2.2.2

theorem Aead.mem_of_openInPlace_ofCalls {calls : List SealCall} {key : FixedBytes 32}
    {nonce : FixedBytes 12} {aad ciphertext plaintext : Bytes}
    (opens : (Aead.ofCalls calls).openInPlace key nonce aad ciphertext = some plaintext) :
    { key, nonce, aad, plaintext, sealed := some ciphertext } ∈ calls := by
  rcases Option.map_eq_some_iff.mp opens with ⟨call, found, rfl⟩
  have matching := List.find?_some found
  simp only [decide_eq_true_eq] at matching
  rcases matching with ⟨rfl, rfl, rfl, sealed, _⟩
  rw [← sealed]
  exact List.mem_of_find?_eq_some found

theorem Aead.mem_of_sealInPlace_ofCalls {calls : List SealCall} {key : FixedBytes 32}
    {nonce : FixedBytes 12} {aad plaintext ciphertext : Bytes}
    (seals : (Aead.ofCalls calls).sealInPlaceAppendTag key nonce aad plaintext =
      some ciphertext) :
    { key, nonce, aad, plaintext, sealed := some ciphertext } ∈ calls := by
  rcases Option.bind_eq_some_iff.mp seals with ⟨call, found, sealed⟩
  have matching := List.find?_some found
  simp only [decide_eq_true_eq] at matching
  rcases matching with ⟨rfl, rfl, rfl, rfl⟩
  rw [← sealed]
  exact List.mem_of_find?_eq_some found

end ChatixProtocol
