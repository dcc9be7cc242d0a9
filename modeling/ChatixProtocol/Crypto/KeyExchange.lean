import ChatixProtocol.Crypto.Keys

namespace ChatixProtocol

/-! # Key exchange and key derivation

X25519, ML-KEM-768 and HKDF-SHA256 come from libraries. Randomness is an
argument. -/

structure X25519 where
  publicKey : (secret : FixedBytes 32) → FixedBytes 32
  diffieHellman : (secret publicKey : FixedBytes 32) → FixedBytes 32

structure MlKem where
  encapsulationKey : (seed : FixedBytes 64) → FixedBytes mlKem768EkSize
  /-- A malformed encapsulation key is refused. -/
  encapsulate : FixedBytes mlKem768EkSize → (coins : FixedBytes 32) →
    Option (FixedBytes mlKem768CtSize × FixedBytes 32)
  decapsulate : (seed : FixedBytes 64) → FixedBytes mlKem768CtSize → FixedBytes 32

/-- `Hkdf::new(None, ikm).expand(info)` into 32 bytes -/
abbrev HkdfExpand := (ikm info : Bytes) → Option (FixedBytes 32)

/-- Both holders of a key pair compute the same shared secret. -/
def X25519.Commutes (x25519 : X25519) : Prop :=
  ∀ left right, x25519.diffieHellman left (x25519.publicKey right) =
    x25519.diffieHellman right (x25519.publicKey left)

/-- The holder of the seed recovers what was encapsulated to its key. -/
def MlKem.Inverts (mlKem : MlKem) : Prop :=
  ∀ ⦃seed coins ciphertext shared⦄,
    mlKem.encapsulate (mlKem.encapsulationKey seed) coins = some (ciphertext, shared) →
      mlKem.decapsulate seed ciphertext = shared

/-- A genuine key is never refused. -/
def MlKem.Encapsulates (mlKem : MlKem) : Prop :=
  ∀ seed coins, ∃ ciphertext shared,
    mlKem.encapsulate (mlKem.encapsulationKey seed) coins = some (ciphertext, shared)

/-- Every expansion into 32 bytes succeeds. -/
def HkdfExpand.Total (hkdfExpand : HkdfExpand) : Prop :=
  ∀ ikm info, ∃ key, hkdfExpand ikm info = some key

/-! Libraries that hide nothing. -/

/-- Public keys are the secrets, and shared secrets add up. -/
def X25519.transparent : X25519 where
  publicKey := id
  diffieHellman secret publicKey :=
    .ofPrefix 32 (List.zipWith (· + ·) secret.bytes publicKey.bytes)

/-- Public keys are the seeds, and ciphertexts are the shared secrets. -/
def MlKem.transparent : MlKem where
  encapsulationKey seed := .ofPrefix mlKem768EkSize seed.bytes
  encapsulate _ coins := some (.ofPrefix mlKem768CtSize coins.bytes, coins)
  decapsulate _ ciphertext := .ofPrefix 32 ciphertext.bytes

theorem X25519.transparent_commutes : X25519.transparent.Commutes := by
  intro left right
  have sum : List.zipWith (· + ·) left.bytes right.bytes =
      List.zipWith (· + ·) right.bytes left.bytes :=
    List.zipWith_comm_of_comm UInt8.add_comm
  exact congrArg (FixedBytes.ofPrefix 32) sum

theorem MlKem.transparent_inverts : MlKem.transparent.Inverts := by
  intro seed coins ciphertext shared encapsulated
  cases encapsulated
  exact FixedBytes.ofPrefix_ofPrefix coins (by decide)

end ChatixProtocol
