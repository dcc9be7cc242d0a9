import ChatixProtocol.Handshake.Gate

/-! # Teardown

A side that gives up sends an error or a close packet. Advancing on either one ends a
connection in any state. This file says when the other side lets the packet through to
`advance` at all.
-/

namespace ChatixProtocol

namespace PacketType

/-- The packets either side ends a connection with. -/
def isTeardown : PacketType → Bool
  | .error | .close => true
  | _ => false

theorem isTeardown_iff {packetType : PacketType} :
    packetType.isTeardown = true ↔ packetType = .error ∨ packetType = .close := by
  cases packetType <;> decide

end PacketType

namespace ConnectionState

/-- Nothing is accepted any more, and no packet leads out of the closing state. -/
def Finished (role : Role) (state : ConnectionState) : Prop :=
  ∀ further : List PacketType, further.foldl advance state = .closing ∧
    ∀ packetType value,
      (further.foldl advance state).validateIncoming role packetType ≠ .ok value

/-- The packet is accepted and ends the connection for good. -/
def TearsDown (role : Role) (state : ConnectionState) (packetType : PacketType) : Prop :=
  state.validateIncoming role packetType = .ok () ∧
    state.advance packetType = .closing ∧ (state.advance packetType).Finished role

/-! ## After the end -/

theorem advance_closing (packetType : PacketType) :
    ConnectionState.closing.advance packetType = .closing := by
  cases packetType <;> rfl

theorem foldl_advance_closing (further : List PacketType) :
    further.foldl advance .closing = .closing := by
  induction further with
  | nil => rfl
  | cons packetType further induction =>
      rw [List.foldl_cons, advance_closing]
      exact induction

theorem finished_closing (role : Role) : ConnectionState.closing.Finished role := by
  intro further
  rw [foldl_advance_closing]
  refine ⟨rfl, ?_⟩
  intro packetType value accepted
  have admitted := (validateIncoming_eq_ok_iff.mp accepted).2
  cases packetType <;> cases admitted

theorem advance_teardown (state : ConnectionState) {packetType : PacketType}
    (teardown : packetType.isTeardown = true) : state.advance packetType = .closing := by
  rcases PacketType.isTeardown_iff.mp teardown with rfl | rfl
  · exact advance_error state
  · cases state <;> rfl

/-- A teardown packet that is let through always does its work. -/
theorem tearsDown_iff {role : Role} {state : ConnectionState} {packetType : PacketType}
    (teardown : packetType.isTeardown = true) :
    state.TearsDown role packetType ↔
      directionAllowed role packetType.direction = true ∧ state.allowed packetType = true := by
  rw [TearsDown, advance_teardown state teardown, validateIncoming_eq_ok_iff]
  constructor
  · intro ends
    exact ends.1
  · intro admitted
    exact ⟨admitted, rfl, finished_closing role⟩

end ConnectionState

open ConnectionState

/-! ## Before the end -/

theorem handshake_take_ne_nil_iff {role : Role} {number : Nat}
    (within : number < role.handshake.length) :
    role.handshake.take number ≠ [] ↔ 0 < number := by
  rw [← List.length_pos_iff, List.length_take, Nat.min_eq_left within.le]

theorem not_handshake_prefix_take {role : Role} {number : Nat}
    (within : number < role.handshake.length) :
    ¬role.handshake <+: role.handshake.take number := by
  intro whole
  have longer := whole.length_le
  rw [List.length_take] at longer
  omega

theorem teardown_not_mem_handshake {role : Role} {packetType : PacketType}
    (teardown : packetType.isTeardown = true) : packetType ∉ role.handshake := by
  rcases PacketType.isTeardown_iff.mp teardown with rfl | rfl
  · cases role <;> decide
  · cases role <;> decide

/-- During the handshake an error tears down, except before the server's first packet,
and a close does not. -/
theorem tearsDown_stage_iff {role : Role} {number : Nat} {packetType : PacketType}
    (within : number < role.handshake.length) (teardown : packetType.isTeardown = true) :
    (role.stage number).TearsDown role packetType ↔
      packetType = .error ∧ (role = .server → 0 < number) := by
  rw [tearsDown_iff teardown, accepts_stage_iff within]
  constructor
  · intro accepted
    rcases accepted with expected | early | ⟨rfl, _⟩
    · exact absurd (List.mem_of_getElem? expected) (teardown_not_mem_handshake teardown)
    · exact early
    · cases teardown
  · intro early
    exact .inr (.inl early)

theorem tearsDown_established {role : Role} {packetType : PacketType}
    (teardown : packetType.isTeardown = true) :
    ConnectionState.established.TearsDown role packetType := by
  rw [tearsDown_iff teardown, accepts_established_iff]
  exact .inr (PacketType.isTeardown_iff.mp teardown)

/-- After every accepted run that has not ended the connection, the next error or close
tears it down exactly if the handshake is complete, or it is an error and not the first
packet a server sees. -/
theorem teardown_accepted_iff (role : Role) (packetTypes : List PacketType)
    (state : ConnectionState)
    (accepted : receiveAll role (initial role) packetTypes = .ok state)
    (running : state ≠ .closing) (packetType : PacketType)
    (teardown : packetType = .error ∨ packetType = .close) :
    state.TearsDown role packetType ↔
      role.handshake <+: packetTypes ∨
        (packetType = .error ∧ (role = .server → packetTypes ≠ [])) := by
  have isTeardown := PacketType.isTeardown_iff.mpr teardown
  cases Course.of_receiveAll accepted with
  | handshaking number within =>
      rw [tearsDown_stage_iff within isTeardown, handshake_take_ne_nil_iff within,
        or_iff_right (not_handshake_prefix_take within)]
  | established exchanged =>
      exact iff_of_true (tearsDown_established isTeardown) (.inl (List.prefix_append _ _))
  | failed => exact absurd rfl running
  | rejected => exact absurd rfl running
  | ended => exact absurd rfl running

/-- A client that gives up after its hello is understood. -/
theorem error_after_hello_tears_down :
    ConnectionState.awaitingClientFinish.TearsDown .server .error :=
  (teardown_accepted_iff .server [.clientHello] .awaitingClientFinish rfl (by decide) .error
    (.inl rfl)).mpr (.inr ⟨rfl, by decide⟩)

/-- A fresh server refuses an error, and neither side accepts a close during the handshake,
though the state would advance to closing. -/
theorem teardown_refused :
    (receiveAll .server (initial .server) [] = .ok .awaitingClientHello ∧
      ConnectionState.awaitingClientHello.validateIncoming .server .error =
        .err .invalidStateTransition ∧
      ¬ConnectionState.awaitingClientHello.TearsDown .server .error) ∧
    receiveAll .client (initial .client) [.serverHello, .serverAccept] =
        .ok .awaitingAuthChallenge ∧
      ConnectionState.awaitingAuthChallenge.validateIncoming .client .close =
        .err .invalidStateTransition ∧
      ¬ConnectionState.awaitingAuthChallenge.TearsDown .client .close := by
  refine ⟨⟨rfl, rfl, ?_⟩, rfl, rfl, ?_⟩
  · intro ends
    cases ends.1
  · intro ends
    cases ends.1

end ChatixProtocol
