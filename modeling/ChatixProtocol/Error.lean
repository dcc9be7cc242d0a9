import ChatixProtocol.Foundation.Outcome

namespace ChatixProtocol

/-! Errors of the standard library's byte streams and of the protocol. -/

inductive ErrorKind where
  | invalidInput
  | invalidData
  | unexpectedEof
  | other
  deriving DecidableEq, Repr

structure IoError where
  kind : ErrorKind
  message : String
  deriving DecidableEq, Repr

def IoError.invalidInput (message : String) : IoError :=
  { kind := .invalidInput, message }

def IoError.invalidData (message : String) : IoError :=
  { kind := .invalidData, message }

/-- What a stream answers that ends inside the buffer to fill. -/
def IoError.earlyEof : IoError :=
  { kind := .unexpectedEof, message := "early eof" }

inductive ProtocolError where
  | invalidMagic
  | unsupportedVersion (version : UInt8)
  | invalidHeaderLength
  | payloadTooLarge (size max : UInt32)
  | reservedFieldNonZero
  | unknownPacketType (value : UInt8)
  | invalidStateTransition
  | payloadDecode (packet reason : String)
  | sequenceViolation (got last : UInt64)
  | encryptionRequired
  | cryptoError
  | identityKeyChanged (identifier : String)
  | io (error : IoError)
  deriving DecidableEq, Repr

end ChatixProtocol
