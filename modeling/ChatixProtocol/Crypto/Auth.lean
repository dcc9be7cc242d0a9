import ChatixProtocol.Crypto.Signatures

namespace ChatixProtocol

/-! # Identity authentication

The client proves that it holds its identity key by signing the handshake
transcript and the server's nonce, and the server by signing its key material
for the client's hello. SHA-256 comes from a library. -/

abbrev Hash := Bytes → FixedBytes 32

def computeHandshakeTranscript (sha256 : Hash) (clientHelloBytes serverHelloBytes : Bytes) :
    FixedBytes 32 :=
  sha256 (clientHelloBytes ++ serverHelloBytes)

def authMessage (transcriptHash nonce : FixedBytes 32) : Bytes :=
  transcriptHash.bytes ++ nonce.bytes

/-- A fresh identity key pair, from the seed that was drawn. -/
def generateAuthIdentity (dsa : MlDsa) (seed : FixedBytes 32) :
    Outcome ProtocolError (FixedBytes 32 × FixedBytes mlDsa65VkSize) := do
  let signingSeed ← copyFromSlice 32 seed.bytes
  let vkSlice := (dsa.verifyingKey seed).bytes
  .refuseIf (vkSlice.length ≠ mlDsa65VkSize) .cryptoError
  let verifyingKey ← copyFromSlice mlDsa65VkSize vkSlice
  pure (signingSeed, verifyingKey)

def signAuthResponse (dsa : MlDsa) (transcriptHash nonce signingSeed : FixedBytes 32) :
    Outcome ProtocolError (FixedBytes mlDsa65SigSize) := do
  let message := authMessage transcriptHash nonce
  let slice := (dsa.sign signingSeed message).bytes
  .refuseIf (slice.length ≠ mlDsa65SigSize) .cryptoError
  copyFromSlice mlDsa65SigSize slice

def verifyAuthResponse (dsa : MlDsa) (transcriptHash nonce : FixedBytes 32)
    (verifyingKey : FixedBytes mlDsa65VkSize) (signature : FixedBytes mlDsa65SigSize) :
    Outcome ProtocolError Unit :=
  dsa.verifyEncoded verifyingKey (authMessage transcriptHash nonce) signature

def serverHelloMessage (sha256 : Hash) (clientHelloBytes : Bytes)
    (serverX25519PublicKey : FixedBytes 32)
    (serverMlKemCiphertext : FixedBytes mlKem768CtSize) : Bytes :=
  (sha256 clientHelloBytes).bytes ++ serverX25519PublicKey.bytes ++ serverMlKemCiphertext.bytes

def signServerHello (dsa : MlDsa) (sha256 : Hash) (clientHelloBytes : Bytes)
    (serverX25519PublicKey : FixedBytes 32) (serverMlKemCiphertext : FixedBytes mlKem768CtSize)
    (signingSeed : FixedBytes 32) : Outcome ProtocolError (FixedBytes mlDsa65SigSize) := do
  let message := serverHelloMessage sha256 clientHelloBytes serverX25519PublicKey
    serverMlKemCiphertext
  let slice := (dsa.sign signingSeed message).bytes
  .refuseIf (slice.length ≠ mlDsa65SigSize) .cryptoError
  copyFromSlice mlDsa65SigSize slice

def verifyServerHello (dsa : MlDsa) (sha256 : Hash) (clientHelloBytes : Bytes)
    (serverX25519PublicKey : FixedBytes 32) (serverMlKemCiphertext : FixedBytes mlKem768CtSize)
    (pinnedVerifyingKey : FixedBytes mlDsa65VkSize) (signature : FixedBytes mlDsa65SigSize) :
    Outcome ProtocolError Unit :=
  dsa.verifyEncoded pinnedVerifyingKey
    (serverHelloMessage sha256 clientHelloBytes serverX25519PublicKey serverMlKemCiphertext)
    signature

theorem generateAuthIdentity_eq (dsa : MlDsa) (seed : FixedBytes 32) :
    generateAuthIdentity dsa seed = .ok (seed, dsa.verifyingKey seed) := by
  simp [generateAuthIdentity]

theorem authMessage_inj {transcriptHash nonce transcriptHash' nonce' : FixedBytes 32} :
    authMessage transcriptHash nonce = authMessage transcriptHash' nonce' ↔
      transcriptHash = transcriptHash' ∧ nonce = nonce' := by
  rw [authMessage, authMessage, FixedBytes.append_inj]
  exact and_congr_right fun _ => FixedBytes.bytes_injective.eq_iff

theorem signAuthResponse_eq (dsa : MlDsa) (transcriptHash nonce signingSeed : FixedBytes 32) :
    signAuthResponse dsa transcriptHash nonce signingSeed =
      .ok (dsa.sign signingSeed (authMessage transcriptHash nonce)) := by
  simp [signAuthResponse]

theorem serverHelloMessage_inj {sha256 : Hash} {clientHello clientHello' : Bytes}
    {key key' : FixedBytes 32} {ciphertext ciphertext' : FixedBytes mlKem768CtSize} :
    serverHelloMessage sha256 clientHello key ciphertext =
        serverHelloMessage sha256 clientHello' key' ciphertext' ↔
      sha256 clientHello = sha256 clientHello' ∧ key = key' ∧ ciphertext = ciphertext' := by
  simp only [serverHelloMessage, List.append_assoc, FixedBytes.append_inj]
  exact and_congr_right fun _ => and_congr_right fun _ => FixedBytes.bytes_injective.eq_iff

theorem signServerHello_eq (dsa : MlDsa) (sha256 : Hash) (clientHello : Bytes)
    (key : FixedBytes 32) (ciphertext : FixedBytes mlKem768CtSize) (signingSeed : FixedBytes 32) :
    signServerHello dsa sha256 clientHello key ciphertext signingSeed =
      .ok (dsa.sign signingSeed (serverHelloMessage sha256 clientHello key ciphertext)) := by
  simp [signServerHello]

end ChatixProtocol
