import ChatixProtocol.Crypto.Keys
import ChatixProtocol.Error

namespace ChatixProtocol

/-! # Signatures

ML-DSA-65 comes from a library, with its keys, seeds and signatures in their
encoded form. -/

structure MlDsa where
  Signature : Type
  verifyingKey : (seed : FixedBytes 32) → FixedBytes mlDsa65VkSize
  sign : (seed : FixedBytes 32) → (message : Bytes) → FixedBytes mlDsa65SigSize
  decodeSignature : FixedBytes mlDsa65SigSize → Option Signature
  verify : FixedBytes mlDsa65VkSize → (message : Bytes) → Signature → Bool

namespace MlDsa

/-- Decode a signature and verify it, as every verifier of the protocol does. -/
def verifyEncoded (dsa : MlDsa) (verifyingKey : FixedBytes mlDsa65VkSize) (message : Bytes)
    (signature : FixedBytes mlDsa65SigSize) : Outcome ProtocolError Unit := do
  let signature ← .ofOption .cryptoError (dsa.decodeSignature signature)
  .refuseIf (dsa.verify verifyingKey message signature = false) .cryptoError

theorem verifyEncoded_eq_ok_iff {dsa : MlDsa} {verifyingKey : FixedBytes mlDsa65VkSize}
    {message : Bytes} {signature : FixedBytes mlDsa65SigSize} {value : Unit} :
    dsa.verifyEncoded verifyingKey message signature = .ok value ↔
      ∃ decoded, dsa.decodeSignature signature = some decoded ∧
        dsa.verify verifyingKey message decoded = true := by
  simp [verifyEncoded, Outcome.bind_eq_ok_iff]

/-- The holder of the seed verifies what it signed. -/
def Correct (dsa : MlDsa) : Prop :=
  ∀ seed message, dsa.verifyEncoded (dsa.verifyingKey seed) message (dsa.sign seed message) =
    .ok ()

/-- Under the seed's key, only the given messages verify. -/
def VerifiesOnly (dsa : MlDsa) (seed : FixedBytes 32) (signed : List Bytes) : Prop :=
  ∀ message signature, dsa.verify (dsa.verifyingKey seed) message signature = true →
    message ∈ signed

/-- Under the seed's key, exactly the given messages verify, with the signatures the seed
makes for them. -/
structure VerifiesExactly (dsa : MlDsa) (seed : FixedBytes 32) (signed : List Bytes) : Prop where
  only : dsa.VerifiesOnly seed signed
  signs : ∀ message ∈ signed,
    dsa.verifyEncoded (dsa.verifyingKey seed) message (dsa.sign seed message) = .ok ()

/-- A signature scheme without secrets, whose signatures repeat the seed and the
front of the message. It verifies those of the permitted messages. -/
def transparent (permitted : FixedBytes 32 → Bytes → Bool) : MlDsa where
  Signature := FixedBytes mlDsa65SigSize
  verifyingKey seed := .ofPrefix mlDsa65VkSize seed.bytes
  sign seed message := .ofPrefix mlDsa65SigSize (seed.bytes ++ message)
  decodeSignature := some
  verify verifyingKey message signature :=
    let seed : FixedBytes 32 := .ofPrefix 32 verifyingKey.bytes
    signature = .ofPrefix mlDsa65SigSize (seed.bytes ++ message) && permitted seed message

theorem transparent_verifies {permitted : FixedBytes 32 → Bytes → Bool} {seed : FixedBytes 32}
    {message : Bytes} (allowed : permitted seed message = true) :
    (transparent permitted).verifyEncoded ((transparent permitted).verifyingKey seed) message
      ((transparent permitted).sign seed message) = .ok () := by
  rw [verifyEncoded_eq_ok_iff]
  refine ⟨_, rfl, ?_⟩
  have same : FixedBytes.ofPrefix 32 (FixedBytes.ofPrefix mlDsa65VkSize seed.bytes).bytes = seed :=
    FixedBytes.ofPrefix_ofPrefix seed (by decide)
  simp [transparent, same, allowed]

theorem transparent_correct : (transparent fun _ _ => true).Correct := by
  intro seed message
  exact transparent_verifies rfl

/-- The transparent scheme verifies only what it permits the seed. -/
theorem transparent_permits {permitted : FixedBytes 32 → Bytes → Bool} {seed : FixedBytes 32}
    {signed : List Bytes} (listed : ∀ message, permitted seed message = true → message ∈ signed) :
    (transparent permitted).VerifiesOnly seed signed := by
  intro message signature verifies
  have same : FixedBytes.ofPrefix 32 (FixedBytes.ofPrefix mlDsa65VkSize seed.bytes).bytes = seed :=
    FixedBytes.ofPrefix_ofPrefix seed (by decide)
  have allowed := (Bool.and_eq_true_iff.mp verifies).2
  change permitted (.ofPrefix 32 (FixedBytes.ofPrefix mlDsa65VkSize seed.bytes).bytes) message =
    true at allowed
  rw [same] at allowed
  exact listed message allowed

/-- A scheme that permits only listed messages verifies only those. -/
theorem transparent_verifiesOnly (seed : FixedBytes 32) (signed : List Bytes) :
    (transparent fun _ message => signed.contains message).VerifiesOnly seed signed := by
  intro message signature verifies
  have permitted : signed.contains message = true := (Bool.and_eq_true_iff.mp verifies).2
  exact List.contains_iff_mem.mp permitted

end MlDsa

end ChatixProtocol
