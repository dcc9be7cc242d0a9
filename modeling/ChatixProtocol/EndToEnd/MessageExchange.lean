import ChatixProtocol.EndToEnd.MessageServer
import ChatixProtocol.Handshake.Completion

/-! # Messages between users

Users publish generated keys and write to each other in any order. A run completes
exactly if both ends of every message have published their keys and the message is
short enough, and each recipient then obtains the sender's plaintext.
-/

namespace ChatixProtocol

structure E2eUser where
  name : String
  secret : E2eSecretKey
  key : E2ePublicKey

/-- Users with generated key pairs hold keys that belong together. -/
theorem E2eUser.keys_of_generated {ι : Type} {suite : E2eSuite} {users : ι → E2eUser}
    (generated : ∀ user, ∃ randomness, generateE2eKeypair suite randomness =
      .ok ((users user).secret, (users user).key)) (user : ι) :
    (users user).key = (users user).secret.publicKey suite := by
  rcases generated user with ⟨randomness, pair⟩
  exact publicKey_of_generateE2eKeypair pair

inductive ServerEvent (ι : Type) where
  | publish (user : ι)
  | message (sender recipient : ι) (delivery : Delivery) (messageId : UInt64)
      (randomness : E2eRandomness) (plaintext : Bytes)

namespace MessageServer

variable {ι : Type} [DecidableEq ι]

/-- The sender fetches the recipient's key, and the recipient the key of the sender that
the server named. -/
def exchange (suite : E2eSuite) (aead : Aead) (users : ι → E2eUser) (sender recipient : ι)
    (delivery : Delivery) (messageId : UInt64) (randomness : E2eRandomness) (plaintext : Bytes) :
    Effect (MessageServer ι) ProtocolError Bytes := do
  let recipientKey ← fetch aead sender (users recipient).name
  let blob ← .lift (encryptAndSign suite randomness plaintext recipientKey.x25519Public
    recipientKey.mlKemEk (users sender).secret.dsaSigningSeed)
  let (senderName, content) ← forward aead sender recipient (users sender).name
    (users recipient).name messageId blob delivery
  let senderKey ← fetch aead recipient senderName
  .lift (verifyAndDecrypt suite content (users recipient).secret.x25519Secret
    (users recipient).secret.mlKemSeed senderKey.dsaVerifyingKey)

/-- What recipients obtain in one event. -/
def step (suite : E2eSuite) (aead : Aead) (users : ι → E2eUser) :
    ServerEvent ι → Effect (MessageServer ι) ProtocolError (List (ι × Bytes))
  | .publish user => do
      publish aead user (users user).name (users user).key
      pure []
  | .message sender recipient delivery messageId randomness plaintext => do
      let received ← exchange suite aead users sender recipient delivery messageId randomness
        plaintext
      pure [(recipient, received)]

def run (suite : E2eSuite) (aead : Aead) (users : ι → E2eUser) :
    List (ServerEvent ι) → Effect (MessageServer ι) ProtocolError (List (ι × Bytes))
  | [] => pure []
  | event :: events => do
      let received ← step suite aead users event
      let later ← run suite aead users events
      pure (received ++ later)

end MessageServer

namespace ServerEvent

variable {ι : Type}

/-- The users who have published their keys after the event. -/
def published (before : List ι) : ServerEvent ι → List ι
  | .publish user => user :: before
  | .message _ _ _ _ _ _ => before

/-- Both ends have published their keys, the generator gave a nonce, both names can be
asked for, and the blob fits beside either. -/
def Possible (users : ι → E2eUser) (before : List ι) : ServerEvent ι → Prop
  | .publish _ => True
  | .message sender recipient delivery _ randomness plaintext =>
      sender ∈ before ∧ recipient ∈ before ∧ randomness.nonce.isSome = true ∧
        (users sender).name.utf8ByteSize ≤ 128 ∧ (users recipient).name.utf8ByteSize ≤ 128 ∧
        14 + (users recipient).name.utf8ByteSize + (minBlobLen + plaintext.length) ≤ 65536 ∧
        delivery.overhead + (users sender).name.utf8ByteSize +
          (minBlobLen + plaintext.length) ≤ 65536

/-- Every event is possible when it happens. -/
def AllPossible (users : ι → E2eUser) : (before : List ι) → List (ServerEvent ι) → Prop
  | _, [] => True
  | before, event :: events =>
      event.Possible users before ∧ AllPossible users (event.published before) events

/-- What was written to whom. -/
def written : ServerEvent ι → List (ι × Bytes)
  | .publish _ => []
  | .message _ recipient _ _ _ plaintext => [(recipient, plaintext)]

/-- A plaintext too long for any length field is never written. -/
def Measured : ServerEvent ι → Prop
  | .publish _ => True
  | .message _ _ _ _ _ plaintext => plaintext.length + 2 ^ 18 < 2 ^ 32

end ServerEvent

/-! ## Encryption to a user -/

/-- The libraries behave as documented, and seal what fits into a packet. -/
structure E2eSuite.Works (suite : E2eSuite) (maxPlaintext : Nat) : Prop where
  commutes : suite.x25519.Commutes
  encapsulates : suite.mlKem.Encapsulates
  inverts : suite.mlKem.Inverts
  expands : suite.hkdfExpand.Total
  correct : suite.aead.Correct maxPlaintext
  large : 65536 ≤ maxPlaintext
  signs : suite.dsa.Correct

section

variable {suite : E2eSuite} {maxPlaintext : Nat} {randomness : E2eRandomness}
  {plaintext : Bytes} {sender recipient : E2eSecretKey}

/-- A blob for a user is as long as its fields, and the user decrypts it. -/
theorem E2eSuite.Works.decrypts (works : suite.Works maxPlaintext) {blob : Bytes}
    (encrypted : encryptAndSign suite randomness plaintext (recipient.publicKey suite).x25519Public
      (recipient.publicKey suite).mlKemEk sender.dsaSigningSeed = .ok blob) :
    randomness.nonce.isSome = true ∧ blob.length = minBlobLen + plaintext.length ∧
      verifyAndDecrypt suite blob recipient.x25519Secret recipient.mlKemSeed
        (sender.publicKey suite).dsaVerifyingKey = .ok plaintext := by
  let call : E2eCall := {
    randomness
    plaintext
    recipientX25519Pk := (recipient.publicKey suite).x25519Public
    recipientMlKemEk := (recipient.publicKey suite).mlKemEk
  }
  rcases E2eCall.encryptAndSign_eq_ok_iff.mp (show call.encryptAndSign suite _ = .ok blob from
    encrypted) with ⟨part, sealed, rfl⟩
  rcases E2eCall.sealContent_eq_ok_iff.mp sealed with ⟨exchange, contentKey, encrypts⟩
  have tagged := works.correct.length_sealed encrypts.sealed
  refine ⟨?_, ?_, encrypts.accepted_signed works.commutes works.inverts works.correct.inverts rfl
    rfl (works.signs sender.dsaSigningSeed part.bytes)⟩
  · rw [encrypts.drawn]
    rfl
  · have blobTagged : part.ciphertext.length = plaintext.length + gcmTagLen := tagged
    rw [List.length_append, part.length_bytes, FixedBytes.length_bytes, blobTagged, minBlobLen]
    omega

/-- Every plaintext that fits into a packet is encrypted for every user. -/
theorem E2eSuite.Works.encrypts (works : suite.Works maxPlaintext)
    (drawn : randomness.nonce.isSome = true) (short : plaintext.length ≤ 65536) :
    ∃ blob, encryptAndSign suite randomness plaintext (recipient.publicKey suite).x25519Public
      (recipient.publicKey suite).mlKemEk sender.dsaSigningSeed = .ok blob := by
  rcases randomness with ⟨ephemeral, coins, nonce⟩
  rcases Option.isSome_iff_exists.mp drawn with ⟨nonce, rfl⟩
  have seals (key : FixedBytes 32) (nonce : FixedBytes nonceLen) :=
    works.correct.exists_sealed key nonce [] (Nat.le_trans short works.large)
  rcases E2eCall.exists_encrypts works.encapsulates works.expands seals ephemeral coins nonce
    (recipient.publicKey suite).x25519Public recipient.mlKemSeed with
    ⟨exchange, contentKey, part, encrypts⟩
  have sealed := E2eCall.sealContent_eq_ok_iff.mpr ⟨exchange, contentKey, encrypts⟩
  exact ⟨_, E2eCall.encryptAndSign_eq_ok_iff.mpr ⟨part, sealed, rfl⟩⟩

end

/-! ## One event -/

namespace MessageServer

variable {ι : Type} [DecidableEq ι]

/-- The directory holds the keys of exactly these users. -/
def Registered (users : ι → E2eUser) (before : List ι) (server : MessageServer ι) : Prop :=
  ∀ user, server.directory (users user).name = if user ∈ before then some (users user).key else none

/-- The packets one message takes, with the keys fetched for it. -/
def messageRoute (sender recipient : ι) (delivery : Delivery) : List (ι × Role) :=
  [(sender, .client), (sender, .server)] ++ delivery.route sender recipient ++
    [(recipient, .client), (recipient, .server)]

section

variable {users : ι → E2eUser} {before : List ι} {server after : MessageServer ι}

theorem Registered.key_eq (registered : server.Registered users before) {user : ι}
    {key : E2ePublicKey} :
    server.directory (users user).name = some key ↔ user ∈ before ∧ key = (users user).key := by
  rw [registered user]
  by_cases known : user ∈ before
  · simp [known, eq_comm]
  · simp [known]

theorem Registered.passedAll (registered : server.Registered users before)
    (passes : List (ι × Role)) : (server.passedAll passes).Registered users before := by
  intro user
  rw [directory_passedAll]
  exact registered user

theorem Registered.publish (registered : server.Registered users before)
    (distinct : Function.Injective fun user => (users user).name) {user : ι}
    (updated : after.directory =
      Function.update server.directory (users user).name (some (users user).key)) :
    after.Registered users (user :: before) := by
  intro other
  rw [updated]
  by_cases same : other = user
  · subst same
    simp
  · have names : (users other).name ≠ (users user).name := fun equal => same (distinct equal)
    simp [names, same, registered other]

variable {suite : E2eSuite} {e2eMaxPlaintext : Nat} {aead : Aead} {maxPlaintext left : Nat}

/-- The states an exchange goes through. -/
structure ExchangeStates (users : ι → E2eUser) (before : List ι) (server : MessageServer ι)
    (left : Nat) (sender recipient : ι) (delivery : Delivery) : Prop where
  asked : (server.passedAll [(sender, .client), (sender, .server)]).Open (left + 2 + 4)
  handed : ((server.passedAll [(sender, .client), (sender, .server)]).passedAll
    (delivery.route sender recipient)).Open (left + 2)
  registered : Registered users before ((server.passedAll
    [(sender, .client), (sender, .server)]).passedAll (delivery.route sender recipient))

theorem exchangeStates (opened : server.Open (left + 8))
    (registered : server.Registered users before) (sender recipient : ι) (delivery : Delivery) :
    ExchangeStates users before server left sender recipient delivery where
  asked := Open.passedAll _ opened
  handed := by
    have route : (delivery.route sender recipient).length ≤ 4 := by
      cases delivery with
      | live => exact Nat.le_of_ble_eq_true rfl
      | queued queueId => exact Nat.le_of_ble_eq_true rfl
    have asked : (server.passedAll [(sender, .client), (sender, .server)]).Open (left + 2 + 4) :=
      Open.passedAll _ opened
    exact Open.passedAll _ (asked.mono (Nat.add_le_add_left route (left + 2)))
  registered := (registered.passedAll _).passedAll _

theorem passedAll_messageRoute (server : MessageServer ι) (sender recipient : ι)
    (delivery : Delivery) :
    server.passedAll (messageRoute sender recipient delivery) =
      ((server.passedAll [(sender, .client), (sender, .server)]).passedAll
        (delivery.route sender recipient)).passedAll
          [(recipient, .client), (recipient, .server)] := by
  rw [messageRoute, MessageServer.passedAll, List.foldl_append, List.foldl_append]
  rfl

/-- A message that arrived was possible, and arrived unchanged. -/
theorem possible_of_exchange (works : suite.Works e2eMaxPlaintext)
    (correct : aead.Correct maxPlaintext) (large : 65536 ≤ maxPlaintext)
    (keys : ∀ user, (users user).key = (users user).secret.publicKey suite)
    (opened : server.Open (left + 8)) (registered : server.Registered users before)
    {sender recipient : ι} {delivery : Delivery} {messageId : UInt64}
    {randomness : E2eRandomness} {plaintext received : Bytes}
    (small : plaintext.length + 2 ^ 18 < 2 ^ 32)
    (exchanged : exchange suite aead users sender recipient delivery messageId randomness plaintext
      server = (.ok received, after)) :
    (ServerEvent.message sender recipient delivery messageId randomness plaintext).Possible users
        before ∧
      received = plaintext ∧
      after = server.passedAll (messageRoute sender recipient delivery) := by
  have states := exchangeStates opened registered sender recipient delivery
  have startOpen : server.Open (left + 6 + 2) := opened
  rcases Effect.bind_eq_ok_iff.mp exchanged with ⟨recipientKey, _, fetched, exchanged⟩
  rcases (fetch_eq_ok_iff correct large startOpen sender).mp fetched with
    ⟨recipientShort, known, rfl⟩
  rcases registered.key_eq.mp known with ⟨recipientKnown, rfl⟩
  rcases Effect.bind_eq_ok_iff.mp exchanged with ⟨blob, _, encrypted, exchanged⟩
  rcases Effect.lift_eq_ok_iff.mp encrypted with ⟨encrypts, rfl⟩
  rw [keys recipient] at encrypts
  rcases works.decrypts encrypts with ⟨drawn, length, decrypts⟩
  have blobSmall : blob.length + 2 ^ 17 < 2 ^ 32 := by
    rw [length, show minBlobLen = 4457 from rfl]
    omega
  rcases Effect.bind_eq_ok_iff.mp exchanged with ⟨_, _, forwarded, exchanged⟩
  rcases (forward_eq_ok_iff correct large states.asked blobSmall delivery).mp forwarded with
    ⟨sentFits, deliveredFits, rfl, rfl⟩
  rcases Effect.bind_eq_ok_iff.mp exchanged with ⟨senderKey, _, fetchedSender, exchanged⟩
  rcases (fetch_eq_ok_iff correct large states.handed recipient).mp fetchedSender with
    ⟨senderShort, senderFound, rfl⟩
  rcases states.registered.key_eq.mp senderFound with ⟨senderKnown, rfl⟩
  rcases Effect.lift_eq_ok_iff.mp exchanged with ⟨opens, rfl⟩
  rw [keys sender, decrypts] at opens
  rw [length] at sentFits deliveredFits
  exact ⟨⟨senderKnown, recipientKnown, drawn, senderShort, recipientShort, sentFits,
    deliveredFits⟩, (Outcome.ok.inj opens).symm, (passedAll_messageRoute _ _ _ _).symm⟩

/-- A possible message arrives. -/
theorem exchange_of_possible (works : suite.Works e2eMaxPlaintext)
    (correct : aead.Correct maxPlaintext) (large : 65536 ≤ maxPlaintext)
    (keys : ∀ user, (users user).key = (users user).secret.publicKey suite)
    (opened : server.Open (left + 8)) (registered : server.Registered users before)
    {sender recipient : ι} {delivery : Delivery} {messageId : UInt64}
    {randomness : E2eRandomness} {plaintext : Bytes}
    (possible : (ServerEvent.message sender recipient delivery messageId randomness
      plaintext).Possible users before) :
    exchange suite aead users sender recipient delivery messageId randomness plaintext server =
      (.ok plaintext, server.passedAll (messageRoute sender recipient delivery)) := by
  have states := exchangeStates opened registered sender recipient delivery
  have startOpen : server.Open (left + 6 + 2) := opened
  rcases possible with ⟨senderKnown, recipientKnown, drawn, senderShort, recipientShort, sentFits,
    deliveredFits⟩
  have asks := (fetch_eq_ok_iff correct large startOpen sender).mpr
    ⟨recipientShort, registered.key_eq.mpr ⟨recipientKnown, rfl⟩, rfl⟩
  have short : plaintext.length ≤ 65536 := by omega
  rcases works.encrypts drawn short with ⟨blob, encrypts⟩
  rcases works.decrypts encrypts with ⟨_, length, decrypts⟩
  rw [← keys recipient] at encrypts
  rw [← keys sender] at decrypts
  have blobSmall : blob.length + 2 ^ 17 < 2 ^ 32 := by
    rw [length]
    omega
  rw [← length] at sentFits deliveredFits
  have forwards : forward aead sender recipient (users sender).name (users recipient).name
      messageId blob delivery _ = (.ok ((users sender).name, blob), _) :=
    (forward_eq_ok_iff correct large states.asked blobSmall delivery).mpr
      ⟨sentFits, deliveredFits, rfl, rfl⟩
  have asksSender := (fetch_eq_ok_iff correct large states.handed recipient).mpr
    ⟨senderShort, states.registered.key_eq.mpr ⟨senderKnown, rfl⟩, rfl⟩
  rw [passedAll_messageRoute]
  refine Effect.bind_eq_ok_iff.mpr ⟨_, _, asks, ?_⟩
  refine Effect.bind_eq_ok_iff.mpr ⟨_, _, Effect.lift_eq_ok_iff.mpr ⟨encrypts, rfl⟩, ?_⟩
  refine Effect.bind_eq_ok_iff.mpr ⟨_, _, forwards, ?_⟩
  refine Effect.bind_eq_ok_iff.mpr ⟨_, _, asksSender, ?_⟩
  exact Effect.lift_eq_ok_iff.mpr ⟨decrypts, rfl⟩

/-! ## Runs -/

theorem possible_of_step (works : suite.Works e2eMaxPlaintext)
    (correct : aead.Correct maxPlaintext) (large : 65536 ≤ maxPlaintext)
    (distinct : Function.Injective fun user => (users user).name)
    (keys : ∀ user, (users user).key = (users user).secret.publicKey suite)
    (opened : server.Open (left + 8)) (registered : server.Registered users before)
    {event : ServerEvent ι} (measured : event.Measured) {received : List (ι × Bytes)}
    (stepped : step suite aead users event server = (.ok received, after)) :
    event.Possible users before ∧ received = event.written ∧ after.Open left ∧
      after.Registered users (event.published before) := by
  cases event with
  | publish user =>
      have publishOpen : server.Open (left + 6 + 2) := opened
      have publishes := publish_succeeds correct large publishOpen user (users user).name
        (users user).key
      rcases Effect.bind_eq_ok_iff.mp stepped with ⟨_, _, published, ends⟩
      cases publishes.symm.trans published
      cases ends
      have passed : (server.passedAll [(user, .client), (user, .server)]).Open (left + 6) :=
        Open.passedAll _ publishOpen
      exact ⟨trivial, rfl, passed.mono (Nat.le_add_right left 6),
        registered.publish distinct rfl⟩
  | message sender recipient delivery messageId randomness plaintext =>
      rcases Effect.bind_eq_ok_iff.mp stepped with ⟨_, _, exchanged, ends⟩
      rcases possible_of_exchange works correct large keys opened registered measured exchanged with
        ⟨possible, rfl, rfl⟩
      cases ends
      have states := exchangeStates opened registered sender recipient delivery
      rw [passedAll_messageRoute]
      exact ⟨possible, rfl, Open.passedAll _ states.handed, states.registered.passedAll _⟩

theorem step_of_possible (works : suite.Works e2eMaxPlaintext)
    (correct : aead.Correct maxPlaintext) (large : 65536 ≤ maxPlaintext)
    (keys : ∀ user, (users user).key = (users user).secret.publicKey suite)
    (opened : server.Open (left + 8)) (registered : server.Registered users before)
    {event : ServerEvent ι} (possible : event.Possible users before) :
    ∃ after, step suite aead users event server = (.ok event.written, after) := by
  cases event with
  | publish user =>
      have publishOpen : server.Open (left + 6 + 2) := opened
      have publishes := publish_succeeds correct large publishOpen user (users user).name
        (users user).key
      exact ⟨_, Effect.bind_eq_ok_iff.mpr ⟨_, _, publishes, rfl⟩⟩
  | message sender recipient delivery messageId randomness plaintext =>
      have arrives := exchange_of_possible works correct large keys opened registered possible
      exact ⟨_, Effect.bind_eq_ok_iff.mpr ⟨_, _, arrives, rfl⟩⟩

theorem run_of_possible (works : suite.Works e2eMaxPlaintext)
    (correct : aead.Correct maxPlaintext) (large : 65536 ≤ maxPlaintext)
    (distinct : Function.Injective fun user => (users user).name)
    (keys : ∀ user, (users user).key = (users user).secret.publicKey suite)
    (events : List (ServerEvent ι)) (measured : ∀ event ∈ events, event.Measured)
    (opened : server.Open (8 * events.length)) (registered : server.Registered users before)
    (possible : ServerEvent.AllPossible users before events) :
    ∃ after, run suite aead users events server =
      (.ok (events.flatMap ServerEvent.written), after) := by
  induction events generalizing server before with
  | nil => exact ⟨server, rfl⟩
  | cons event events induction =>
      have room : server.Open (8 * events.length + 8) := opened
      rcases possible with ⟨now, later⟩
      rcases step_of_possible works correct large keys room registered now with ⟨middle, steps⟩
      rcases possible_of_step works correct large distinct keys room registered
        (measured event List.mem_cons_self) steps with ⟨_, _, middleOpen, middleRegistered⟩
      rcases induction (fun event member => measured event (List.mem_cons_of_mem _ member))
        middleOpen middleRegistered later with ⟨after, runs⟩
      refine ⟨after, Effect.bind_eq_ok_iff.mpr ⟨_, middle, steps, ?_⟩⟩
      exact Effect.bind_eq_ok_iff.mpr ⟨_, after, runs, rfl⟩

theorem possible_of_run (works : suite.Works e2eMaxPlaintext)
    (correct : aead.Correct maxPlaintext) (large : 65536 ≤ maxPlaintext)
    (distinct : Function.Injective fun user => (users user).name)
    (keys : ∀ user, (users user).key = (users user).secret.publicKey suite)
    (events : List (ServerEvent ι)) (measured : ∀ event ∈ events, event.Measured)
    (opened : server.Open (8 * events.length)) (registered : server.Registered users before)
    {received : List (ι × Bytes)}
    (completed : run suite aead users events server = (.ok received, after)) :
    ServerEvent.AllPossible users before events := by
  induction events generalizing server before received with
  | nil => trivial
  | cons event events induction =>
      have room : server.Open (8 * events.length + 8) := opened
      rcases Effect.bind_eq_ok_iff.mp completed with ⟨_, middle, stepped, completed⟩
      rcases possible_of_step works correct large distinct keys room registered
        (measured event List.mem_cons_self) stepped with ⟨now, _, middleOpen, middleRegistered⟩
      rcases Effect.bind_eq_ok_iff.mp completed with ⟨_, _, later, ends⟩
      cases ends
      exact ⟨now, induction (fun event member => measured event (List.mem_cons_of_mem _ member))
        middleOpen middleRegistered later⟩

end

end MessageServer

/-- Users of different names, with generated keys and connected to a server that knows
none of them yet, publish their keys and write to each other in any order. All of it
succeeds exactly if, at each message, both ends have published their keys, both names
can be asked for and the blob fits into the packets to and from the server. Recipients
then obtain exactly what was written to them, in order. -/
theorem messages_arrive_iff {ι : Type} [DecidableEq ι] (suite : E2eSuite)
    (e2eMaxPlaintext : Nat) (works : suite.Works e2eMaxPlaintext) (aead : Aead)
    (maxPlaintext : Nat) (correct : aead.Correct maxPlaintext) (large : 65536 ≤ maxPlaintext)
    (users : ι → E2eUser) (distinct : Function.Injective fun user => (users user).name)
    (generated : ∀ user, ∃ randomness, generateE2eKeypair suite randomness =
      .ok ((users user).secret, (users user).key))
    (events : List (ServerEvent ι)) (measured : ∀ event ∈ events, event.Measured)
    (link : ι → Link) (opened : ∀ user, (link user).Open (8 * events.length)) :
    ((∃ received after, MessageServer.run suite aead users events ⟨link, fun _ => none⟩ =
        (.ok received, after)) ↔ ServerEvent.AllPossible users [] events) ∧
    ∀ received after, MessageServer.run suite aead users events ⟨link, fun _ => none⟩ =
        (.ok received, after) → received = events.flatMap ServerEvent.written := by
  have keys := E2eUser.keys_of_generated generated
  have connected : MessageServer.Open ⟨link, fun _ => none⟩ (8 * events.length) := opened
  have registered : MessageServer.Registered users [] ⟨link, fun _ => none⟩ :=
    fun user => (if_neg List.not_mem_nil).symm
  have possible {received : List (ι × Bytes)} {after : MessageServer ι}
      (completed : MessageServer.run suite aead users events ⟨link, fun _ => none⟩ =
        (.ok received, after)) : ServerEvent.AllPossible users [] events :=
    MessageServer.possible_of_run works correct large distinct keys events measured
      connected registered completed
  have runs := MessageServer.run_of_possible works correct large distinct keys events measured
    connected registered
  constructor
  · constructor
    · intro completes
      rcases completes with ⟨received, after, completed⟩
      exact possible completed
    · intro allPossible
      rcases runs allPossible with ⟨after, completes⟩
      exact ⟨_, after, completes⟩
  · intro received after completed
    rcases runs (possible completed) with ⟨_, completes⟩
    cases completes.symm.trans completed
    rfl

/-! Two users publish their keys, and one writes to the other and to itself, on
connections that went through the handshake. -/

def letterSuite : E2eSuite :=
  { sampleOpenSuite with aead := .transparent 65536 }

def letterSecret (letter : UInt8) : E2eSecretKey where
  x25519Secret := .replicate 32 letter
  mlKemSeed := .replicate 64 letter
  dsaSigningSeed := .replicate 32 letter

def letterUser (second : Bool) : E2eUser :=
  if second then
    { name := "b", secret := letterSecret 98, key := (letterSecret 98).publicKey letterSuite }
  else
    { name := "a", secret := letterSecret 97, key := (letterSecret 97).publicKey letterSuite }

def letters : List (ServerEvent Bool) :=
  let randomness : E2eRandomness := {
    ephemeral := .replicate 32 1
    coins := .replicate 32 2
    nonce := some (.replicate nonceLen 3)
  }
  [.publish false, .publish true, .message false true (.queued 5) 1 randomness [1, 2, 3],
    .message false false .live 2 randomness [4]]

theorem letterUser_generated (second : Bool) :
    ∃ randomness, generateE2eKeypair letterSuite randomness =
      .ok ((letterUser second).secret, (letterUser second).key) := by
  let draws (letter : UInt8) : E2eKeypairRandomness :=
    ⟨.replicate 32 letter, some (.replicate 64 letter), .replicate 32 letter⟩
  cases second with
  | false => exact ⟨draws 97, generateE2eKeypair_eq _ _⟩
  | true => exact ⟨draws 98, generateE2eKeypair_eq _ _⟩

theorem letters_arrive :
    ∃ (link : Link) (after : MessageServer Bool),
      (∃ keys, Handshake.run sampleSession (.transparent fun _ _ => true) sampleHelloHash
        (.transparent 65536) shortClient shortServer .afterHellos .new = (.ok keys, link)) ∧
      MessageServer.run letterSuite (.transparent 65536) letterUser letters
        ⟨fun _ => link, fun _ => none⟩ = (.ok [(true, [1, 2, 3]), (false, [4])], after) := by
  have works : letterSuite.Works 65536 := {
    commutes := X25519.transparent_commutes
    encapsulates := fun _ _ => ⟨_, _, rfl⟩
    inverts := MlKem.transparent_inverts
    expands := fun _ _ => ⟨_, rfl⟩
    correct := Aead.transparent_correct 65536
    large := Nat.le_refl _
    signs := MlDsa.transparent_correct
  }
  have stands : Link.new.Stands (2 ^ 64 - 9 + 7) .awaitingServerHello .awaitingClientHello none :=
    Link.Stands.new
  rcases @Handshake.run_stands _ _ sampleHelloHash _ _ _ _ _ _ shortClient_honest stands
    .afterHellos (by decide) (by decide) (by decide) with ⟨keys, link, completed, afterStands⟩
  have distinct : Function.Injective fun second => (letterUser second).name := by
    intro left right same
    cases left <;> cases right
    · rfl
    · exact absurd same (by decide)
    · exact absurd same (by decide)
    · rfl
  have measured : ∀ event ∈ letters, event.Measured := by
    simp [letters, ServerEvent.Measured]
  have arrive := messages_arrive_iff letterSuite 65536 works (.transparent 65536) 65536
    (Aead.transparent_correct 65536) (Nat.le_refl _) letterUser distinct letterUser_generated
    letters measured (fun _ => link) (fun _ => afterStands.opened.mono (by decide))
  have toOther : false ∈ [true, false] ∧ true ∈ [true, false] := by decide
  have toItself : false ∈ [true, false] ∧ false ∈ [true, false] := by decide
  have possible : ServerEvent.AllPossible letterUser [] letters :=
    ⟨trivial, trivial, ⟨toOther.1, toOther.2, rfl, by decide, by decide, by decide, by decide⟩,
      ⟨toItself.1, toItself.2, rfl, by decide, by decide, by decide, by decide⟩, trivial⟩
  rcases arrive.1.mpr possible with ⟨received, after, completes⟩
  cases arrive.2 received after completes
  exact ⟨link, after, ⟨_, completed⟩, completes⟩

end ChatixProtocol
