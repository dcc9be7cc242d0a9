import ChatixProtocol.ConnectionState
import Mathlib.Data.List.Induction

/-! # The handshake gate

A caller validates each packet and then advances the state. This file describes
the packet sequences accepted from a fresh connection: the handshake in order,
then application packets, and at most one packet that ends the connection.
-/

namespace ChatixProtocol

namespace ConnectionState

/-- Validate a packet and advance, as the caller does. -/
def receive (role : Role) (state : ConnectionState) (packetType : PacketType) :
    Outcome ProtocolError ConnectionState := do
  state.validateIncoming role packetType
  pure (state.advance packetType)

def receiveAll (role : Role) :
    ConnectionState → List PacketType → Outcome ProtocolError ConnectionState
  | state, [] => .ok state
  | state, packetType :: packetTypes => do
      let next ← state.receive role packetType
      receiveAll role next packetTypes

theorem receive_eq_ok_iff {role : Role} {state next : ConnectionState}
    {packetType : PacketType} :
    state.receive role packetType = .ok next ↔
      directionAllowed role packetType.direction = true ∧ state.allowed packetType = true ∧
        state.advance packetType = next := by
  simp [receive, Outcome.bind_eq_ok_iff, validateIncoming_eq_ok_iff, and_assoc]

theorem receiveAll_append (role : Role) (state : ConnectionState)
    (before after : List PacketType) :
    receiveAll role state (before ++ after) = (do
      let middle ← receiveAll role state before
      receiveAll role middle after) := by
  induction before generalizing state with
  | nil => rfl
  | cons packetType before induction =>
      simp only [List.cons_append, receiveAll]
      cases state.receive role packetType with
      | ok next => exact induction next
      | err error => rfl
      | panic => rfl

theorem receiveAll_concat_eq_ok_iff {role : Role} {state final : ConnectionState}
    {before : List PacketType} {packetType : PacketType} :
    receiveAll role state (before ++ [packetType]) = .ok final ↔
      ∃ middle, receiveAll role state before = .ok middle ∧
        middle.receive role packetType = .ok final := by
  simp [receiveAll_append, receiveAll, Outcome.bind_eq_ok_iff]

end ConnectionState

open ConnectionState

/-! ## The phases of a connection -/

namespace PacketType

def isHandshake : PacketType → Bool
  | .clientHello | .serverHello | .clientFinish | .serverAccept => true
  | _ => false

def isAuth : PacketType → Bool
  | .authChallenge | .authResponse | .authAccept | .authReject => true
  | _ => false

end PacketType

namespace Role

/-- What a side receives on the way to the established state, in order. -/
def handshake : Role → List PacketType
  | .server => [.clientHello, .clientFinish, .authResponse]
  | .client => [.serverHello, .serverAccept, .authChallenge, .authAccept]

/-- The states a side waits in, in order. -/
def waiting : Role → List ConnectionState
  | .server => [.awaitingClientHello, .awaitingClientFinish, .awaitingAuth]
  | .client => [.awaitingServerHello, .awaitingServerAccept, .awaitingAuthChallenge,
      .awaitingAuthResult]

/-- The state after the given number of handshake packets. -/
def stage (role : Role) (number : Nat) : ConnectionState :=
  role.waiting.getD number .established

/-- The packets a side exchanges once the handshake is complete. -/
def Exchanges (role : Role) (packetType : PacketType) : Prop :=
  packetType.isHandshake = false ∧ packetType.isAuth = false ∧ packetType ≠ .error ∧
    packetType ≠ .close ∧ directionAllowed role packetType.direction = true

instance (role : Role) (packetType : PacketType) : Decidable (role.Exchanges packetType) :=
  inferInstanceAs (Decidable (_ ∧ _ ∧ _ ∧ _ ∧ _))

end Role

theorem stage_mem_waiting {role : Role} {number : Nat}
    (within : number < role.handshake.length) : role.stage number ∈ role.waiting := by
  have inside : number < role.waiting.length := by cases role <;> exact within
  rw [Role.stage, List.getD_eq_getElem?_getD, List.getElem?_eq_getElem inside]
  exact List.getElem_mem inside

/-! ## One packet -/

section

variable {role : Role} {number : Nat} {packetType : PacketType} {next : ConnectionState}

/-- During the handshake a side accepts the packet it waits for, an error, except
before the server has seen anything, and a rejection where the client waits for the
result. -/
theorem accepts_stage_iff (within : number < role.handshake.length) :
    (directionAllowed role packetType.direction = true ∧
      (role.stage number).allowed packetType = true) ↔
      role.handshake[number]? = some packetType ∨
        (packetType = .error ∧ (role = .server → 0 < number)) ∨
        (packetType = .authReject ∧ role = .client ∧ number = 3) := by
  cases role with
  | server =>
      rcases number with _ | _ | _ | number
      · cases packetType <;> decide
      · cases packetType <;> decide
      · cases packetType <;> decide
      · exact absurd within (Nat.not_lt.mpr (Nat.le_add_left 3 number))
  | client =>
      rcases number with _ | _ | _ | _ | number
      · cases packetType <;> decide
      · cases packetType <;> decide
      · cases packetType <;> decide
      · cases packetType <;> decide
      · exact absurd within (Nat.not_lt.mpr (Nat.le_add_left 4 number))

theorem advance_stage (expected : role.handshake[number]? = some packetType) :
    (role.stage number).advance packetType = role.stage (number + 1) := by
  cases role with
  | server =>
      rcases number with _ | _ | _ | number
      · cases expected
        rfl
      · cases expected
        rfl
      · cases expected
        rfl
      · cases expected
  | client =>
      rcases number with _ | _ | _ | _ | number
      · cases expected
        rfl
      · cases expected
        rfl
      · cases expected
        rfl
      · cases expected
        rfl
      · cases expected

theorem advance_error (state : ConnectionState) : state.advance .error = .closing := by
  cases state <;> rfl

/-- An expected packet leads to the next stage, an error or a rejection to the end. -/
theorem receive_stage_eq_ok_iff (within : number < role.handshake.length) :
    (role.stage number).receive role packetType = .ok next ↔
      (role.handshake[number]? = some packetType ∧ next = role.stage (number + 1)) ∨
        (packetType = .error ∧ (role = .server → 0 < number) ∧ next = .closing) ∨
        (packetType = .authReject ∧ role = .client ∧ number = 3 ∧ next = .closing) := by
  rw [receive_eq_ok_iff, ← and_assoc, accepts_stage_iff within]
  constructor
  · intro received
    rcases received with ⟨expected | ⟨rfl, begun⟩ | ⟨rfl, rfl, rfl⟩, rfl⟩
    · exact .inl ⟨expected, advance_stage expected⟩
    · exact .inr (.inl ⟨rfl, begun, advance_error _⟩)
    · exact .inr (.inr ⟨rfl, rfl, rfl, rfl⟩)
  · intro course
    rcases course with ⟨expected, rfl⟩ | ⟨rfl, begun, rfl⟩ | ⟨rfl, rfl, rfl, rfl⟩
    · exact ⟨.inl expected, advance_stage expected⟩
    · exact ⟨.inr (.inl ⟨rfl, begun⟩), advance_error _⟩
    · exact ⟨.inr (.inr ⟨rfl, rfl, rfl⟩), rfl⟩

theorem accepts_established_iff :
    (directionAllowed role packetType.direction = true ∧
      ConnectionState.established.allowed packetType = true) ↔
      role.Exchanges packetType ∨ packetType = .error ∨ packetType = .close := by
  cases role with
  | client => cases packetType <;> decide
  | server => cases packetType <;> decide

theorem advance_established (notError : packetType ≠ .error) (notClose : packetType ≠ .close) :
    ConnectionState.established.advance packetType = .established := by
  cases packetType with
  | error => exact absurd rfl notError
  | close => exact absurd rfl notClose
  | _ => rfl

theorem receive_established_eq_ok_iff :
    ConnectionState.established.receive role packetType = .ok next ↔
      (role.Exchanges packetType ∧ next = .established) ∨
        ((packetType = .error ∨ packetType = .close) ∧ next = .closing) := by
  rw [receive_eq_ok_iff, ← and_assoc, accepts_established_iff]
  constructor
  · intro received
    rcases received with ⟨exchanges | rfl | rfl, rfl⟩
    · exact .inl ⟨exchanges, advance_established exchanges.2.2.1 exchanges.2.2.2.1⟩
    · exact .inr ⟨.inl rfl, rfl⟩
    · exact .inr ⟨.inr rfl, rfl⟩
  · intro course
    rcases course with ⟨exchanges, rfl⟩ | ⟨rfl | rfl, rfl⟩
    · exact ⟨.inl exchanges, advance_established exchanges.2.2.1 exchanges.2.2.2.1⟩
    · exact ⟨.inr (.inl rfl), rfl⟩
    · exact ⟨.inr (.inr rfl), rfl⟩

theorem receive_closing_ne_ok :
    ConnectionState.closing.receive role packetType ≠ .ok next := by
  intro received
  cases (receive_eq_ok_iff.mp received).2.1

end

/-! ## Whole runs -/

/-- The accepted packet sequences of a side and the states they lead to. -/
inductive Course (role : Role) : List PacketType → ConnectionState → Prop
  | handshaking (number : Nat) (within : number < role.handshake.length) :
      Course role (role.handshake.take number) (role.stage number)
  | failed (number : Nat) (within : number < role.handshake.length)
      (begun : role = .server → 0 < number) :
      Course role (role.handshake.take number ++ [.error]) .closing
  | rejected (client : role = .client) :
      Course role (role.handshake.take 3 ++ [.authReject]) .closing
  | established (exchanged : List PacketType)
      (allowed : ∀ packetType ∈ exchanged, role.Exchanges packetType) :
      Course role (role.handshake ++ exchanged) .established
  | ended (exchanged : List PacketType)
      (allowed : ∀ packetType ∈ exchanged, role.Exchanges packetType) (last : PacketType)
      (ends : last = .error ∨ last = .close) :
      Course role (role.handshake ++ exchanged ++ [last]) .closing

namespace Course

variable {role : Role} {packetTypes : List PacketType} {state next : ConnectionState}
  {packetType : PacketType}

/-- The step after the last handshake packet opens the connection. -/
theorem stage_succ (number : Nat) (within : number < role.handshake.length) :
    Course role (role.handshake.take (number + 1)) (role.stage (number + 1)) := by
  by_cases more : number + 1 < role.handshake.length
  · exact .handshaking _ more
  · have last : number + 1 = role.handshake.length := by omega
    have opened : role.stage role.handshake.length = .established := by cases role <;> rfl
    rw [last, List.take_length, opened]
    simpa using @Course.established role [] (by simp)

/-- One more accepted packet continues the course. -/
theorem concat (course : Course role packetTypes state)
    (received : state.receive role packetType = .ok next) :
    Course role (packetTypes ++ [packetType]) next := by
  cases course with
  | handshaking number within =>
      rcases (receive_stage_eq_ok_iff within).mp received with
        ⟨expected, rfl⟩ | ⟨rfl, begun, rfl⟩ | ⟨rfl, client, rfl, rfl⟩
      · have grown := stage_succ number within
        rwa [List.take_add_one, expected] at grown
      · exact .failed number within begun
      · exact .rejected client
  | failed => exact absurd received receive_closing_ne_ok
  | rejected => exact absurd received receive_closing_ne_ok
  | established exchanged allowed =>
      rcases receive_established_eq_ok_iff.mp received with ⟨exchanges, rfl⟩ | ⟨ends, rfl⟩
      · rw [List.append_assoc]
        refine .established _ ?_
        intro other member
        rcases List.mem_append.mp member with earlier | now
        · exact allowed other earlier
        · rwa [List.mem_singleton.mp now]
      · exact .ended exchanged allowed packetType ends
  | ended => exact absurd received receive_closing_ne_ok

theorem of_receiveAll (accepted : receiveAll role (initial role) packetTypes = .ok state) :
    Course role packetTypes state := by
  induction packetTypes using List.reverseRecOn generalizing state with
  | nil =>
      cases accepted
      have start : initial role = role.stage 0 := by cases role <;> rfl
      rw [start]
      exact .handshaking 0 (by cases role <;> decide)
  | append_singleton packetTypes packetType induction =>
      rcases receiveAll_concat_eq_ok_iff.mp accepted with ⟨middle, before, received⟩
      exact (induction before).concat received

theorem receiveAll_handshake (number : Nat) (within : number ≤ role.handshake.length) :
    receiveAll role (initial role) (role.handshake.take number) = .ok (role.stage number) := by
  induction number with
  | zero => cases role <;> rfl
  | succ number induction =>
      have inside : number < role.handshake.length := within
      rw [List.take_add_one, List.getElem?_eq_getElem inside]
      refine receiveAll_concat_eq_ok_iff.mpr ⟨_, induction inside.le, ?_⟩
      exact (receive_stage_eq_ok_iff inside).mpr (.inl ⟨List.getElem?_eq_getElem inside, rfl⟩)

theorem receiveAll_established {exchanged : List PacketType}
    (allowed : ∀ packetType ∈ exchanged, role.Exchanges packetType) :
    receiveAll role (initial role) (role.handshake ++ exchanged) = .ok .established := by
  induction exchanged using List.reverseRecOn with
  | nil =>
      have whole := @receiveAll_handshake role role.handshake.length le_rfl
      rw [List.take_length] at whole
      rw [List.append_nil, whole]
      cases role <;> rfl
  | append_singleton exchanged packetType induction =>
      rw [← List.append_assoc]
      have before := induction fun other member => allowed other (List.mem_append_left _ member)
      refine receiveAll_concat_eq_ok_iff.mpr ⟨_, before, ?_⟩
      exact receive_established_eq_ok_iff.mpr (.inl ⟨allowed packetType (by simp), rfl⟩)

theorem receiveAll_eq (course : Course role packetTypes state) :
    receiveAll role (initial role) packetTypes = .ok state := by
  cases course with
  | handshaking number within => exact receiveAll_handshake number within.le
  | failed number within begun =>
      refine receiveAll_concat_eq_ok_iff.mpr ⟨_, receiveAll_handshake number within.le, ?_⟩
      exact (receive_stage_eq_ok_iff within).mpr (.inr (.inl ⟨rfl, begun, rfl⟩))
  | rejected client =>
      have within : 3 < role.handshake.length := by
        rw [client]
        decide
      refine receiveAll_concat_eq_ok_iff.mpr ⟨_, receiveAll_handshake 3 within.le, ?_⟩
      exact (receive_stage_eq_ok_iff within).mpr (.inr (.inr ⟨rfl, client, rfl, rfl⟩))
  | established exchanged allowed => exact receiveAll_established allowed
  | ended exchanged allowed last ends =>
      refine receiveAll_concat_eq_ok_iff.mpr ⟨_, receiveAll_established allowed, ?_⟩
      exact receive_established_eq_ok_iff.mpr (.inr ⟨ends, rfl⟩)

/-- The packet closes a connection on which the given packets were received. -/
def Ends (role : Role) (front : List PacketType) (last : PacketType) : Prop :=
  last = .error ∨ last = .close ∨
    (last = .authReject ∧ role = .client ∧ front = role.handshake.take 3)

theorem not_mem_handshake_of_ends {front : List PacketType} {last : PacketType}
    (ends : Ends role front last) : last ∉ role.handshake := by
  rcases ends with rfl | rfl | ⟨rfl, _⟩
  · cases role <;> decide
  · cases role <;> decide
  · cases role <;> decide

theorem not_exchanges_of_ends {front : List PacketType} {last : PacketType}
    (ends : Ends role front last) : ¬role.Exchanges last := by
  intro exchanges
  rcases ends with rfl | rfl | ⟨rfl, _⟩
  · exact exchanges.2.2.1 rfl
  · exact exchanges.2.2.2.1 rfl
  · cases exchanges.2.1

/-- A course that ends the connection ends with a packet that does so. -/
theorem closing_iff (course : Course role packetTypes state) :
    state = .closing ↔ ∃ front last, packetTypes = front ++ [last] ∧ Ends role front last := by
  cases course with
  | handshaking number within =>
      have waits := stage_mem_waiting within
      have notWaiting : ConnectionState.closing ∉ role.waiting := by cases role <;> decide
      refine iff_of_false (fun closed => notWaiting (closed ▸ waits)) ?_
      intro ending
      rcases ending with ⟨front, last, split, ends⟩
      have taken : last ∈ role.handshake.take number := by
        rw [split]
        simp
      exact not_mem_handshake_of_ends ends (List.mem_of_mem_take taken)
  | failed => exact iff_of_true rfl ⟨_, _, rfl, .inl rfl⟩
  | rejected client => exact iff_of_true rfl ⟨_, _, rfl, .inr (.inr ⟨rfl, client, rfl⟩)⟩
  | established exchanged allowed =>
      refine iff_of_false (by decide) ?_
      intro ending
      rcases ending with ⟨front, last, split, ends⟩
      have member : last ∈ role.handshake ++ exchanged := by
        rw [split]
        simp
      rcases List.mem_append.mp member with inHandshake | inExchanged
      · exact not_mem_handshake_of_ends ends inHandshake
      · exact not_exchanges_of_ends ends (allowed last inExchanged)
  | ended exchanged allowed last ends =>
      refine iff_of_true rfl ⟨_, last, rfl, ?_⟩
      rcases ends with same | same
      · exact .inl same
      · exact .inr (.inl same)

/-- A course has passed some of the handshake, and exchanges nothing else before all of it. -/
theorem exists_passed (course : Course role packetTypes state) :
    ∃ number rest, number ≤ role.handshake.length ∧
      packetTypes = role.handshake.take number ++ rest ∧
      (number < role.handshake.length → ∀ packetType ∈ rest, ¬role.Exchanges packetType) := by
  cases course with
  | handshaking number within => exact ⟨number, [], within.le, by simp, by simp⟩
  | failed number within => exact ⟨number, _, within.le, rfl, by simp [Role.Exchanges]⟩
  | rejected client =>
      refine ⟨3, _, ?_, rfl, by simp [Role.Exchanges, PacketType.isAuth]⟩
      rw [client]
      decide
  | established exchanged => exact ⟨_, exchanged, le_rfl, by simp, by simp⟩
  | ended exchanged _ last => exact ⟨_, exchanged ++ [last], le_rfl, by simp, by simp⟩

/-- Nothing is exchanged before the complete handshake. -/
theorem handshake_prefix (course : Course role packetTypes state) {front rest : List PacketType}
    (split : packetTypes = front ++ packetType :: rest) (exchanges : role.Exchanges packetType) :
    role.handshake <+: front := by
  have opening : ∀ other ∈ role.handshake, ¬role.Exchanges other := by
    cases role <;> decide
  rcases course.exists_passed with ⟨number, tail, within, passed, early⟩
  have member : packetType ∈ role.handshake.take number ++ tail := by
    rw [← passed, split]
    simp
  have complete : number = role.handshake.length := by
    by_contra incomplete
    rcases List.mem_append.mp member with inHandshake | inTail
    · exact opening _ (List.mem_of_mem_take inHandshake) exchanges
    · exact early (by omega) _ inTail exchanges
  rw [complete, List.take_length] at passed
  rcases List.append_eq_append_iff.mp (passed.symm.trans split) with
    ⟨between, rfl, _⟩ | ⟨between, whole, exchanged⟩
  · exact List.prefix_append _ _
  · cases between with
    | nil => exact ⟨[], by simp [whole]⟩
    | cons first between =>
        have same : packetType = first := (List.cons.inj exchanged).1
        refine absurd exchanges (opening packetType ?_)
        rw [whole, same]
        simp

/-- Every handshake packet is accepted at most once. -/
theorem handshake_nodup (course : Course role packetTypes state) :
    (packetTypes.filter fun packetType => packetType.isHandshake || packetType.isAuth).Nodup := by
  have once : (role.handshake ++ [PacketType.authReject]).Nodup := by cases role <;> decide
  have lastOut {last : PacketType} (ends : last = .error ∨ last = .close) :
      [last].filter (fun packetType => packetType.isHandshake || packetType.isAuth) = [] := by
    rcases ends with rfl | rfl <;> rfl
  have noneExchanged {exchanged : List PacketType}
      (allowed : ∀ packetType ∈ exchanged, role.Exchanges packetType) :
      exchanged.filter (fun packetType => packetType.isHandshake || packetType.isAuth) = [] := by
    rw [List.filter_eq_nil_iff]
    intro other member
    simp [(allowed other member).1, (allowed other member).2.1]
  have handshakeOnce : role.handshake.Nodup := once.sublist (List.sublist_append_left _ _)
  cases course with
  | handshaking number => exact (handshakeOnce.sublist (List.take_sublist _ _)).filter _
  | failed number =>
      rw [List.filter_append, lastOut (.inl rfl), List.append_nil]
      exact (handshakeOnce.sublist (List.take_sublist _ _)).filter _
  | rejected =>
      exact (once.sublist ((List.take_sublist _ _).append (List.Sublist.refl _))).filter _
  | established exchanged allowed =>
      rw [List.filter_append, noneExchanged allowed, List.append_nil]
      exact handshakeOnce.filter _
  | ended exchanged allowed last ends =>
      rw [List.filter_append, List.filter_append, noneExchanged allowed, lastOut ends,
        List.append_nil, List.append_nil]
      exact handshakeOnce.filter _

/-- A side stays in its own states. -/
theorem mem_states (course : Course role packetTypes state) :
    state ∈ role.waiting ++ [.established, .closing] := by
  cases course with
  | handshaking number within => exact List.mem_append_left _ (stage_mem_waiting within)
  | failed => simp
  | rejected => simp
  | established => simp
  | ended => simp

theorem established_iff (course : Course role packetTypes state) :
    state = .established ↔ ∃ exchanged, packetTypes = role.handshake ++ exchanged ∧
      ∀ packetType ∈ exchanged, role.Exchanges packetType := by
  constructor
  · intro same
    cases course with
    | handshaking number within =>
        have waits := stage_mem_waiting within
        rw [same] at waits
        cases role <;> simp [Role.waiting] at waits
    | failed => cases same
    | rejected => cases same
    | established exchanged allowed => exact ⟨exchanged, rfl, allowed⟩
    | ended => cases same
  · intro complete
    rcases complete with ⟨exchanged, rfl, allowed⟩
    have opened := receiveAll_established allowed
    rw [course.receiveAll_eq] at opened
    exact Outcome.ok.inj opened

end Course

/-! ## The gate -/

/-- From a fresh connection, the accepted sequences are exactly the handshake in
order followed by packets the side exchanges, their parts, and these with one
packet at the end that closes the connection for good. -/
theorem handshake_gate (role : Role) :
    (∀ packetTypes final, receiveAll role (initial role) packetTypes = .ok final →
      (final = .established ↔ ∃ exchanged, packetTypes = role.handshake ++ exchanged ∧
        ∀ packetType ∈ exchanged, role.Exchanges packetType) ∧
      (final = .closing ↔ ∃ front last, packetTypes = front ++ [last] ∧
        (last = .error ∨ last = .close ∨
          (last = .authReject ∧ role = .client ∧ front = role.handshake.take 3))) ∧
      (final = .closing → ∀ packetType,
        final.validateIncoming role packetType = .err .invalidStateTransition) ∧
      (final ≠ .established → final ≠ .closing →
        packetTypes <+: role.handshake ∧ packetTypes ≠ role.handshake) ∧
      (∀ front packetType rest, packetTypes = front ++ packetType :: rest →
        role.Exchanges packetType → role.handshake <+: front) ∧
      (packetTypes.filter fun packetType =>
        packetType.isHandshake || packetType.isAuth).Nodup ∧
      final ∈ role.waiting ++ [.established, .closing]) ∧
    ∀ exchanged, (∀ packetType ∈ exchanged, role.Exchanges packetType) →
      receiveAll role (initial role) (role.handshake ++ exchanged) = .ok .established := by
  refine ⟨?_, fun exchanged allowed => Course.receiveAll_established allowed⟩
  intro packetTypes final accepted
  have course := Course.of_receiveAll accepted
  refine ⟨course.established_iff, course.closing_iff, ?_, ?_,
    fun _ _ _ split exchanges => course.handshake_prefix split exchanges, course.handshake_nodup,
    course.mem_states⟩
  · rintro rfl packetType
    cases role <;> cases packetType <;> rfl
  · intro notOpen notClosed
    cases course with
    | handshaking number within =>
        refine ⟨List.take_prefix _ _, ?_⟩
        intro whole
        have lengths := congrArg List.length whole
        rw [List.length_take] at lengths
        omega
    | failed => exact absurd rfl notClosed
    | rejected => exact absurd rfl notClosed
    | established => exact absurd rfl notOpen
    | ended => exact absurd rfl notClosed

end ChatixProtocol
