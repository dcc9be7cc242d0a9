import ChatixProtocol.Foundation.Bytes

namespace ChatixProtocol

/-! Sizes of the cryptographic objects that travel on the wire, and the public
key bundle of one end-to-end identity. -/

def gcmTagLen : Nat := 16

def mlDsa65SigSize : Nat := 3309

def mlDsa65VkSize : Nat := 1952

def mlKem768EkSize : Nat := 1184

def mlKem768CtSize : Nat := 1088

structure E2ePublicKey where
  x25519Public : FixedBytes 32
  mlKemEk : FixedBytes mlKem768EkSize
  dsaVerifyingKey : FixedBytes mlDsa65VkSize
  deriving DecidableEq

end ChatixProtocol
