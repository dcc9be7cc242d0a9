import ChatixProtocol.Crypto.E2e
import ChatixProtocol.Crypto.Session

/-! # Separation of the key derivations

Both layers feed the key derivation with the shared secrets and, as context, the
public values behind them followed by a label. Every field but the label has a
fixed size, so the inputs determine what a key is for and where it comes from.
-/

namespace ChatixProtocol

inductive KeyPurpose where
  | clientToServer
  | serverToClient
  | e2eContent
  deriving DecidableEq, Repr

/-- One derivation of a key: for a direction of a handshake between a client and
a server, or for the content of a message from a sender to a recipient. -/
structure KeyDerivation where
  purpose : KeyPurpose
  x25519Shared : FixedBytes 32
  kyberShared : FixedBytes 32
  /-- The client's or the sender's. -/
  ownX25519Pk : FixedBytes 32
  /-- The server's or the recipient's. -/
  peerX25519Pk : FixedBytes 32
  mlKemCt : FixedBytes mlKem768CtSize
  deriving DecidableEq

def KeyPurpose.label : KeyPurpose → Bytes
  | .clientToServer => utf8Bytes "chatix-c2s-v1"
  | .serverToClient => utf8Bytes "chatix-s2c-v1"
  | .e2eContent => utf8Bytes "chatix-e2e-content-v1"

/-- The keys that are derived in one call, which fails if any of them does. -/
def KeyPurpose.derivedTogether : KeyPurpose → List KeyPurpose
  | .clientToServer | .serverToClient => [.clientToServer, .serverToClient]
  | .e2eContent => [.e2eContent]

namespace KeyDerivation

/-- The key as the code derives it. -/
def key (hkdfExpand : HkdfExpand) (derivation : KeyDerivation) :
    Outcome ProtocolError (FixedBytes 32) :=
  match derivation.purpose with
  | .clientToServer => do
      let keys ← deriveKeys hkdfExpand derivation.x25519Shared.bytes derivation.kyberShared.bytes
        (handshakeContext derivation.ownX25519Pk derivation.peerX25519Pk derivation.mlKemCt)
      pure keys.clientToServer
  | .serverToClient => do
      let keys ← deriveKeys hkdfExpand derivation.x25519Shared.bytes derivation.kyberShared.bytes
        (handshakeContext derivation.ownX25519Pk derivation.peerX25519Pk derivation.mlKemCt)
      pure keys.serverToClient
  | .e2eContent =>
      deriveE2eKey hkdfExpand derivation.x25519Shared.bytes derivation.kyberShared.bytes
        (e2eContext derivation.ownX25519Pk derivation.peerX25519Pk derivation.mlKemCt.bytes)

def ikm (derivation : KeyDerivation) : Bytes :=
  derivation.x25519Shared.bytes ++ derivation.kyberShared.bytes

def info (derivation : KeyDerivation) : Bytes :=
  derivation.ownX25519Pk.bytes ++ derivation.peerX25519Pk.bytes ++ derivation.mlKemCt.bytes ++
    derivation.purpose.label

theorem key_eq (hkdfExpand : HkdfExpand) (derivation : KeyDerivation) :
    derivation.key hkdfExpand = .ofOption .cryptoError
      (if ∀ purpose ∈ derivation.purpose.derivedTogether,
          (hkdfExpand derivation.ikm { derivation with purpose }.info).isSome then
        hkdfExpand derivation.ikm derivation.info
      else
        none) := by
  rcases derivation with ⟨purpose, x25519Shared, kyberShared, ownPk, peerPk, ct⟩
  cases purpose with
  | clientToServer =>
      simp only [key, deriveKeys, handshakeContext, KeyPurpose.derivedTogether, ikm, info,
        KeyPurpose.label, List.forall_mem_cons]
      cases hkdfExpand _ (_ ++ utf8Bytes "chatix-c2s-v1") with
      | none => rfl
      | some _ => cases hkdfExpand _ (_ ++ utf8Bytes "chatix-s2c-v1") <;> rfl
  | serverToClient =>
      simp only [key, deriveKeys, handshakeContext, KeyPurpose.derivedTogether, ikm, info,
        KeyPurpose.label, List.forall_mem_cons]
      cases hkdfExpand _ (_ ++ utf8Bytes "chatix-c2s-v1") with
      | none => rfl
      | some _ => cases hkdfExpand _ (_ ++ utf8Bytes "chatix-s2c-v1") <;> rfl
  | e2eContent =>
      simp only [key, deriveE2eKey, e2eContext, KeyPurpose.derivedTogether, ikm, info,
        KeyPurpose.label, List.forall_mem_cons]
      cases hkdfExpand _ (_ ++ utf8Bytes "chatix-e2e-content-v1") <;> rfl

theorem expand_of_key {hkdfExpand : HkdfExpand} {derivation : KeyDerivation}
    {derived : FixedBytes 32} (derives : derivation.key hkdfExpand = .ok derived) :
    hkdfExpand derivation.ikm derivation.info = some derived := by
  rw [key_eq, Outcome.ofOption_eq_ok_iff, Option.ite_none_right_eq_some] at derives
  exact derives.2

theorem label_injective : Function.Injective KeyPurpose.label := by
  intro left right equal
  revert equal
  cases left <;> cases right <;> decide

theorem eq_of_inputs {left right : KeyDerivation} (sameIkm : left.ikm = right.ikm)
    (sameInfo : left.info = right.info) : left = right := by
  rcases left with ⟨purpose, x25519Shared, kyberShared, ownPk, peerPk, ct⟩
  rcases right with ⟨purpose', x25519Shared', kyberShared', ownPk', peerPk', ct'⟩
  simp only [info, List.append_assoc, FixedBytes.append_inj] at sameInfo
  rcases sameInfo with ⟨rfl, rfl, rfl, sameLabel⟩
  cases label_injective sameLabel
  rcases FixedBytes.append_inj.mp sameIkm with ⟨rfl, sameKyber⟩
  cases FixedBytes.ext sameKyber
  rfl

/-- Two different inputs of the key derivation with the same output. -/
def Collides (hkdfExpand : HkdfExpand) (left right : KeyDerivation) : Prop :=
  (left.ikm, left.info) ≠ (right.ikm, right.info) ∧
    ∃ derived, hkdfExpand left.ikm left.info = some derived ∧
      hkdfExpand right.ikm right.info = some derived

end KeyDerivation

/-- Derivations with the same inputs are one derivation, and every key is the output of the
key derivation on its derivation's inputs, if there is one for every key of the call. So
two different handshakes, directions or messages share a key only where the key derivation
collides. -/
theorem derivations_separate (left right : KeyDerivation) :
    (left.ikm = right.ikm → left.info = right.info → left = right) ∧
      (∀ hkdfExpand, left.key hkdfExpand = .ofOption .cryptoError
        (if ∀ purpose ∈ left.purpose.derivedTogether,
            (hkdfExpand left.ikm { left with purpose }.info).isSome then
          hkdfExpand left.ikm left.info
        else
          none)) ∧
      ∀ hkdfExpand derived, left.key hkdfExpand = .ok derived →
        right.key hkdfExpand = .ok derived → left ≠ right →
          left.Collides hkdfExpand right := by
  refine ⟨KeyDerivation.eq_of_inputs, fun hkdfExpand => left.key_eq hkdfExpand, ?_⟩
  intro hkdfExpand derived leftDerives rightDerives different
  refine ⟨?_, derived, KeyDerivation.expand_of_key leftDerives,
    KeyDerivation.expand_of_key rightDerives⟩
  intro same
  rw [Prod.mk.injEq] at same
  exact different (KeyDerivation.eq_of_inputs same.1 same.2)

end ChatixProtocol
