import ChatixProtocol.Channel.Messages
import ChatixProtocol.EndToEnd.RoundTrip

/-! # Users of one server

Any number of users are connected to a server. They publish their keys, fetch each
other's and exchange messages, which the server hands on live or from its queue and
cannot read. Nothing but the lengths of names and plaintexts can stop a message.
-/

namespace ChatixProtocol

structure MessageServer (ι : Type) where
  link : ι → Link
  directory : String → Option E2ePublicKey

namespace Delivery

/-- The length of the fields around the sender's name and the content. -/
def overhead : Delivery → Nat
  | .live => 14
  | .queued _ => 22

/-- The packets a message takes, by the user they concern and the side that sends. -/
def route {ι : Type} (sender recipient : ι) : Delivery → List (ι × Role)
  | .live => [(sender, .client), (recipient, .server)]
  | .queued _ =>
      [(sender, .client), (recipient, .client), (recipient, .server), (recipient, .client)]

end Delivery

namespace MessageServer

variable {ι : Type} [DecidableEq ι]

/-- What happens on the connection of one user. -/
def on {α : Type} (user : ι) (act : Effect Link ProtocolError α) :
    Effect (MessageServer ι) ProtocolError α := fun server =>
  let ran := act (server.link user)
  (ran.1, { server with link := Function.update server.link user ran.2 })

/-- A user publishes its key, and the server keeps what it received. -/
def publish (aead : Aead) (user : ι) (name : String) (key : E2ePublicKey) :
    Effect (MessageServer ι) ProtocolError Unit := do
  let published : PublishE2eKeyPayload ← on user (Link.send aead .client .publishE2eKey ⟨key⟩)
  .modify fun server =>
    { server with directory := Function.update server.directory name (some published.key) }
  let _ ← on user (Link.send aead .server .publishE2eKeyResult ⟨true, ""⟩)

/-- A user asks for the key of a name, and goes on only with a key. -/
def fetch (aead : Aead) (user : ι) (name : String) :
    Effect (MessageServer ι) ProtocolError E2ePublicKey := do
  let request : FetchE2eKeyPayload ← on user (Link.send aead .client .fetchE2eKey ⟨name⟩)
  let server ← .get
  let answer : E2eKeyResponsePayload ← on user (Link.send aead .server .e2eKeyResponse
    ⟨request.targetUsername, server.directory request.targetUsername⟩)
  .lift (.ofOption .cryptoError answer.key)

/-- A message goes to the server, which hands it to its recipient. The recipient obtains
the name of the sender and the content. -/
def forward (aead : Aead) (sender recipient : ι) (senderName recipientName : String)
    (messageId : UInt64) (content : Bytes) :
    Delivery → Effect (MessageServer ι) ProtocolError (String × Bytes)
  | .live => do
      let received : SendMessagePayload ← on sender
        (Link.send aead .client .sendMessage ⟨messageId, recipientName, content⟩)
      let delivered : DeliverMessagePayload ← on recipient
        (Link.send aead .server .deliverMessage ⟨received.messageId, senderName, received.content⟩)
      pure (delivered.senderId, delivered.content)
  | .queued queueId => do
      let received : SendMessagePayload ← on sender
        (Link.send aead .client .sendMessage ⟨messageId, recipientName, content⟩)
      let _ ← on recipient (Link.send aead .client .fetchQueuedMessages {})
      let delivered : QueuedMessageDeliveryPayload ← on recipient
        (Link.send aead .server .queuedMessageDelivery
          ⟨queueId, received.messageId, senderName, received.content⟩)
      let _ ← on recipient (Link.send aead .client .ackQueuedMessage ⟨delivered.queueId⟩)
      pure (delivered.senderId, delivered.content)

/-! ## What the connections go through -/

/-- A packet was sent on the connection of one user. -/
def passed (server : MessageServer ι) (pass : ι × Role) : MessageServer ι :=
  { server with
    link := Function.update server.link pass.1
      ((server.link pass.1).carried pass.2 .established) }

def passedAll (server : MessageServer ι) (passes : List (ι × Role)) : MessageServer ι :=
  passes.foldl passed server

/-- All users are connected, and every side can send this many packets. -/
def Open (server : MessageServer ι) (left : Nat) : Prop :=
  ∀ user, (server.link user).Open left

section

variable {server after : MessageServer ι} {left : Nat}

theorem passed_same (server : MessageServer ι) (pass : ι × Role) :
    (server.passed pass).link pass.1 = (server.link pass.1).carried pass.2 .established :=
  Function.update_self ..

theorem passed_other (server : MessageServer ι) {pass : ι × Role} {user : ι}
    (different : user ≠ pass.1) : (server.passed pass).link user = server.link user :=
  Function.update_of_ne different ..

omit [DecidableEq ι] in
theorem Open.mono (opened : server.Open left) {fewer : Nat} (bound : fewer ≤ left) :
    server.Open fewer := by
  intro user
  exact (opened user).mono bound

theorem Open.passed (opened : server.Open (left + 1)) (pass : ι × Role) :
    (server.passed pass).Open left := by
  intro user
  by_cases same : user = pass.1
  · subst same
    rw [passed_same]
    exact (opened pass.1).carried pass.2
  · rw [passed_other server same]
    exact (opened user).mono (Nat.le_succ left)

theorem Open.passedAll (passes : List (ι × Role)) (opened : server.Open (left + passes.length)) :
    (server.passedAll passes).Open left := by
  induction passes generalizing server with
  | nil => exact opened
  | cons pass passes induction => exact induction (opened.passed pass)

theorem directory_passedAll (server : MessageServer ι) (passes : List (ι × Role)) :
    (server.passedAll passes).directory = server.directory := by
  induction passes generalizing server with
  | nil => rfl
  | cons pass passes induction => exact induction (server.passed pass)

theorem on_eq_ok_iff {α : Type} {user : ι} {act : Effect Link ProtocolError α} {value : α} :
    on user act server = (.ok value, after) ↔
      ∃ link, act (server.link user) = (.ok value, link) ∧
        after = { server with link := Function.update server.link user link } := by
  rw [on]
  rcases act (server.link user) with ⟨outcome, link⟩
  simp only [Prod.mk.injEq]
  constructor
  · intro ran
    exact ⟨link, ⟨ran.1, rfl⟩, ran.2.symm⟩
  · intro ran
    rcases ran with ⟨_, ⟨succeeds, rfl⟩, same⟩
    exact ⟨succeeds, same.symm⟩

variable {aead : Aead} {maxPlaintext : Nat}

theorem on_send_eq_ok_iff (correct : aead.Correct maxPlaintext) (large : 65536 ≤ maxPlaintext)
    (opened : server.Open (left + 1)) (user : ι) (side : Role) {packetType : PacketType}
    {payload received : packetType.payloadFormat.Value}
    (measured : Message.Measured ⟨packetType, payload⟩)
    (exchanges : side.peer.Exchanges packetType) :
    on user (Link.send aead side packetType payload) server = (.ok received, after) ↔
      Message.Fits ⟨packetType, payload⟩ ∧ received = payload ∧
        after = server.passed (user, side) := by
  simp only [on_eq_ok_iff, Link.send_of_open correct large (opened user) measured exchanges]
  constructor
  · intro sent
    rcases sent with ⟨_, ⟨fits, rfl, rfl⟩, rfl⟩
    exact ⟨fits, rfl, rfl⟩
  · intro passes
    rcases passes with ⟨fits, rfl, rfl⟩
    exact ⟨_, ⟨fits, rfl, rfl⟩, rfl⟩

theorem on_send_of_fits (correct : aead.Correct maxPlaintext) (large : 65536 ≤ maxPlaintext)
    (opened : server.Open (left + 1)) (user : ι) (side : Role) {packetType : PacketType}
    {payload : packetType.payloadFormat.Value} (fits : Message.Fits ⟨packetType, payload⟩)
    (exchanges : side.peer.Exchanges packetType) :
    on user (Link.send aead side packetType payload) server =
      (.ok payload, server.passed (user, side)) :=
  (on_send_eq_ok_iff correct large opened user side fits.measured exchanges).mpr
    ⟨fits, rfl, rfl⟩

/-- A key is always published. -/
theorem publish_succeeds (correct : aead.Correct maxPlaintext) (large : 65536 ≤ maxPlaintext)
    (opened : server.Open (left + 2)) (user : ι) (name : String) (key : E2ePublicKey) :
    publish aead user name key server =
      (.ok (), { server.passedAll [(user, .client), (user, .server)] with
        directory := Function.update server.directory name (some key) }) := by
  have keyFits : Message.Fits ⟨.publishE2eKey, ⟨key⟩⟩ := Message.fits_of_fixedSize rfl
  have resultFits : Message.Fits ⟨.publishE2eKeyResult, ⟨true, ""⟩⟩ :=
    (Message.fits_iff_of_capped (.publishE2eKeyResult ⟨true, ""⟩)).mpr (Nat.zero_le _)
  have sends := on_send_of_fits correct large opened user .client keyFits (by decide)
  have kept : Open { server.passed (user, .client) with
      directory := Function.update server.directory name (some key) } (left + 1) :=
    opened.passed (user, .client)
  have answers := on_send_of_fits correct large kept user .server resultFits (by decide)
  refine Effect.bind_eq_ok_iff.mpr ⟨_, _, sends, ?_⟩
  refine Effect.bind_eq_ok_iff.mpr ⟨(), _, rfl, ?_⟩
  exact Effect.bind_eq_ok_iff.mpr ⟨_, _, answers, rfl⟩

/-- A key is fetched exactly if the name is short and the directory has one for it. -/
theorem fetch_eq_ok_iff (correct : aead.Correct maxPlaintext) (large : 65536 ≤ maxPlaintext)
    (opened : server.Open (left + 2)) (user : ι) {name : String} {key : E2ePublicKey} :
    fetch aead user name server = (.ok key, after) ↔
      name.utf8ByteSize ≤ 128 ∧ server.directory name = some key ∧
        after = server.passedAll [(user, .client), (user, .server)] := by
  have passedOpen := opened.passed (user, .client)
  constructor
  · intro fetched
    rcases Effect.bind_eq_ok_iff.mp fetched with ⟨request, _, asks, fetched⟩
    rcases (on_send_eq_ok_iff correct large opened user .client (Message.measured_fetchE2eKey _)
      (by decide)).mp asks with ⟨fits, rfl, rfl⟩
    rcases Effect.bind_eq_ok_iff.mp fetched with ⟨_, _, ⟨⟩, fetched⟩
    rcases Effect.bind_eq_ok_iff.mp fetched with ⟨answer, _, answers, found⟩
    rcases (on_send_eq_ok_iff correct large passedOpen user .server
      (Message.measured_e2eKeyResponse _) (by decide)).mp answers with ⟨_, rfl, rfl⟩
    rcases Prod.mk.inj found with ⟨known, rfl⟩
    exact ⟨(Message.fits_iff_of_capped (.fetchE2eKey ⟨name⟩)).mp fits,
      Outcome.ofOption_eq_ok_iff.mp known, rfl⟩
  · intro possible
    rcases possible with ⟨short, known, rfl⟩
    have asks := on_send_of_fits correct large opened user .client
      ((Message.fits_iff_of_capped (.fetchE2eKey ⟨name⟩)).mpr short) (by decide)
    have answers := on_send_of_fits correct large passedOpen user .server
      ((Message.fits_iff_of_capped (.e2eKeyResponse name key)).mpr short) (by decide)
    rw [← known] at answers
    refine Effect.bind_eq_ok_iff.mpr ⟨_, _, asks, ?_⟩
    refine Effect.bind_eq_ok_iff.mpr ⟨_, _, rfl, ?_⟩
    refine Effect.bind_eq_ok_iff.mpr ⟨_, _, answers, ?_⟩
    exact congrArg (·, _) (Outcome.ofOption_eq_ok_iff.mpr known)

section

variable {sender recipient : ι} {senderName recipientName : String} {messageId : UInt64}
  {content : Bytes} {result : String × Bytes}

theorem forward_live_eq_ok_iff (correct : aead.Correct maxPlaintext)
    (large : 65536 ≤ maxPlaintext) (opened : server.Open (left + 2))
    (small : content.length + 2 ^ 17 < 2 ^ 32) :
    forward aead sender recipient senderName recipientName messageId content .live server =
        (.ok result, after) ↔
      14 + recipientName.utf8ByteSize + content.length ≤ 65536 ∧
        14 + senderName.utf8ByteSize + content.length ≤ 65536 ∧
        result = (senderName, content) ∧
        after = server.passedAll [(sender, .client), (recipient, .server)] := by
  let message : SendMessagePayload := ⟨messageId, recipientName, content⟩
  let delivered : DeliverMessagePayload := ⟨messageId, senderName, content⟩
  have sentMeasured : Message.Measured ⟨.sendMessage, message⟩ :=
    Message.measured_sendMessage small
  have deliveredMeasured : Message.Measured ⟨.deliverMessage, delivered⟩ :=
    Message.measured_deliverMessage small
  have firstOpen := opened.passed (sender, .client)
  constructor
  · intro forwarded
    rcases Effect.bind_eq_ok_iff.mp forwarded with ⟨_, _, sends, forwarded⟩
    rcases (on_send_eq_ok_iff correct large opened sender .client sentMeasured
      (by decide)).mp sends with ⟨sentFits, rfl, rfl⟩
    rcases Effect.bind_eq_ok_iff.mp forwarded with ⟨_, _, delivers, ends⟩
    rcases (on_send_eq_ok_iff correct large firstOpen recipient .server deliveredMeasured
      (by decide)).mp delivers with ⟨deliveredFits, rfl, rfl⟩
    cases ends
    exact ⟨Message.fits_sendMessage_iff.mp sentFits,
      Message.fits_deliverMessage_iff.mp deliveredFits, rfl, rfl⟩
  · intro possible
    rcases possible with ⟨sentFits, deliveredFits, rfl, rfl⟩
    have sends := on_send_of_fits correct large opened sender .client
      ((@Message.fits_sendMessage_iff message).mpr sentFits) (by decide)
    have delivers := on_send_of_fits correct large firstOpen recipient .server
      ((@Message.fits_deliverMessage_iff delivered).mpr deliveredFits) (by decide)
    refine Effect.bind_eq_ok_iff.mpr ⟨_, _, sends, ?_⟩
    exact Effect.bind_eq_ok_iff.mpr ⟨_, _, delivers, rfl⟩

theorem forward_queued_eq_ok_iff (correct : aead.Correct maxPlaintext)
    (large : 65536 ≤ maxPlaintext) (opened : server.Open (left + 4))
    (small : content.length + 2 ^ 17 < 2 ^ 32) (queueId : UInt64) :
    forward aead sender recipient senderName recipientName messageId content (.queued queueId)
        server = (.ok result, after) ↔
      14 + recipientName.utf8ByteSize + content.length ≤ 65536 ∧
        22 + senderName.utf8ByteSize + content.length ≤ 65536 ∧
        result = (senderName, content) ∧
        after = server.passedAll [(sender, .client), (recipient, .client), (recipient, .server),
          (recipient, .client)] := by
  let message : SendMessagePayload := ⟨messageId, recipientName, content⟩
  let delivered : QueuedMessageDeliveryPayload := ⟨queueId, messageId, senderName, content⟩
  have sentMeasured : Message.Measured ⟨.sendMessage, message⟩ :=
    Message.measured_sendMessage small
  have deliveredMeasured : Message.Measured ⟨.queuedMessageDelivery, delivered⟩ :=
    Message.measured_queuedMessageDelivery small
  have fetchFits : Message.Fits ⟨.fetchQueuedMessages, {}⟩ := Message.fits_of_fixedSize rfl
  have ackFits : Message.Fits ⟨.ackQueuedMessage, ⟨queueId⟩⟩ := Message.fits_of_fixedSize rfl
  have firstOpen := opened.passed (sender, .client)
  have secondOpen := firstOpen.passed (recipient, .client)
  have thirdOpen := secondOpen.passed (recipient, .server)
  have fetches := on_send_of_fits correct large firstOpen recipient .client fetchFits (by decide)
  have acknowledges := on_send_of_fits correct large thirdOpen recipient .client ackFits
    (by decide)
  constructor
  · intro forwarded
    rcases Effect.bind_eq_ok_iff.mp forwarded with ⟨_, _, sends, forwarded⟩
    rcases (on_send_eq_ok_iff correct large opened sender .client sentMeasured
      (by decide)).mp sends with ⟨sentFits, rfl, rfl⟩
    rcases Effect.bind_eq_ok_iff.mp forwarded with ⟨_, _, fetched, forwarded⟩
    cases fetches.symm.trans fetched
    rcases Effect.bind_eq_ok_iff.mp forwarded with ⟨_, _, delivers, forwarded⟩
    rcases (on_send_eq_ok_iff correct large secondOpen recipient .server deliveredMeasured
      (by decide)).mp delivers with ⟨deliveredFits, rfl, rfl⟩
    rcases Effect.bind_eq_ok_iff.mp forwarded with ⟨_, _, acknowledged, ends⟩
    cases acknowledges.symm.trans acknowledged
    cases ends
    exact ⟨Message.fits_sendMessage_iff.mp sentFits,
      Message.fits_queuedMessageDelivery_iff.mp deliveredFits, rfl, rfl⟩
  · intro possible
    rcases possible with ⟨sentFits, deliveredFits, rfl, rfl⟩
    have sends := on_send_of_fits correct large opened sender .client
      ((@Message.fits_sendMessage_iff message).mpr sentFits) (by decide)
    have delivers := on_send_of_fits correct large secondOpen recipient .server
      ((@Message.fits_queuedMessageDelivery_iff delivered).mpr deliveredFits) (by decide)
    refine Effect.bind_eq_ok_iff.mpr ⟨_, _, sends, ?_⟩
    refine Effect.bind_eq_ok_iff.mpr ⟨_, _, fetches, ?_⟩
    refine Effect.bind_eq_ok_iff.mpr ⟨_, _, delivers, ?_⟩
    exact Effect.bind_eq_ok_iff.mpr ⟨_, _, acknowledges, rfl⟩

/-- A content is handed on exactly if it fits beside the recipient's name on its way to
the server, and beside the sender's on its way from there. -/
theorem forward_eq_ok_iff (correct : aead.Correct maxPlaintext) (large : 65536 ≤ maxPlaintext)
    (opened : server.Open (left + 4)) (small : content.length + 2 ^ 17 < 2 ^ 32)
    (delivery : Delivery) :
    forward aead sender recipient senderName recipientName messageId content delivery server =
        (.ok result, after) ↔
      14 + recipientName.utf8ByteSize + content.length ≤ 65536 ∧
        delivery.overhead + senderName.utf8ByteSize + content.length ≤ 65536 ∧
        result = (senderName, content) ∧
        after = server.passedAll (delivery.route sender recipient) := by
  cases delivery with
  | live => exact forward_live_eq_ok_iff correct large opened small
  | queued queueId => exact forward_queued_eq_ok_iff correct large opened small queueId

end

end

end MessageServer

end ChatixProtocol
