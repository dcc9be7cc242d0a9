import ChatixProtocol.PacketType

/-! # The connection state machine

Each side tracks which packet it waits for. A packet is first validated against
the state and the side's role, and then the state advances.
-/

namespace ChatixProtocol

inductive Role where
  | client
  | server
  deriving DecidableEq, Repr

inductive ConnectionState where
  | awaitingClientHello
  | awaitingClientFinish
  | awaitingAuth
  | awaitingServerHello
  | awaitingServerAccept
  | awaitingAuthChallenge
  | awaitingAuthResult
  | established
  | closing
  deriving DecidableEq, Repr

namespace ConnectionState

def initial : Role → ConnectionState
  | .server => .awaitingClientHello
  | .client => .awaitingServerHello

/-- The direction check: a side never accepts what only the other one receives. -/
def directionAllowed : Role → Direction → Bool
  | .client, .serverToClient | .client, .bidirectional => true
  | .server, .clientToServer | .server, .bidirectional => true
  | _, _ => false

/-- The packet types each state waits for. -/
def allowed : ConnectionState → PacketType → Bool
  | .awaitingClientHello, .clientHello => true
  | .awaitingClientFinish, .clientFinish | .awaitingClientFinish, .error => true
  | .awaitingAuth, .authResponse | .awaitingAuth, .error => true
  | .awaitingServerHello, .serverHello | .awaitingServerHello, .error => true
  | .awaitingServerAccept, .serverAccept | .awaitingServerAccept, .error => true
  | .awaitingAuthChallenge, .authChallenge | .awaitingAuthChallenge, .error => true
  | .awaitingAuthResult, .authAccept | .awaitingAuthResult, .authReject
  | .awaitingAuthResult, .error => true
  | .established, packetType => match packetType with
    | .ping | .pong | .sendMessage | .deliverMessage | .messageStatusUpdate | .deliveryReceipt
    | .registerDevice | .registerResponse | .queryAccountStatus | .accountStatusResponse
    | .fetchQueuedMessages | .queuedMessageDelivery | .ackQueuedMessage | .sendFriendRequest
    | .friendRequestResult | .incomingFriendRequest | .friendRequestDecision | .removeFriend
    | .removeFriendResult | .friendRemovedNotification | .friendStatusUpdate
    | .sendTypingIndicator | .publishE2eKey | .publishE2eKeyResult | .fetchE2eKey
    | .e2eKeyResponse | .close | .error => true
    | _ => false
  | _, _ => false

def validateIncoming (state : ConnectionState) (role : Role) (packetType : PacketType) :
    Outcome ProtocolError Unit := do
  .refuseIf (directionAllowed role packetType.direction = false) .invalidStateTransition
  if state.allowed packetType then .ok () else .err .invalidStateTransition

def advance : ConnectionState → PacketType → ConnectionState
  | .awaitingClientHello, .clientHello => .awaitingClientFinish
  | .awaitingClientFinish, .clientFinish => .awaitingAuth
  | .awaitingAuth, .authResponse => .established
  | .awaitingServerHello, .serverHello => .awaitingServerAccept
  | .awaitingServerAccept, .serverAccept => .awaitingAuthChallenge
  | .awaitingAuthChallenge, .authChallenge => .awaitingAuthResult
  | .awaitingAuthResult, .authAccept => .established
  | .awaitingAuthResult, .authReject => .closing
  -- An error or a close from either side ends the connection in any state.
  | _, .close | _, .error => .closing
  | state, _ => state

theorem validateIncoming_eq_ok_iff {state : ConnectionState} {role : Role}
    {packetType : PacketType} {value : Unit} :
    state.validateIncoming role packetType = .ok value ↔
      directionAllowed role packetType.direction = true ∧ state.allowed packetType = true := by
  rw [validateIncoming]
  cases directionAllowed role packetType.direction with
  | false => simp [Outcome.refuseIf]
  | true => cases state.allowed packetType <;> simp [Outcome.refuseIf]

end ConnectionState

end ChatixProtocol
