import ChatixProtocol.EndToEnd.SenderAuthenticity
import ChatixProtocol.Handshake.SessionIsolation

/-! # Every use of the cipher

Connections and messages seal with one cipher, under keys from one key derivation. As
long as no two sides of a kind have the same key pair and no two messages the same key
pair and nonce, all of them together never seal twice with one key and nonce, whatever
keys the network puts into the handshakes.
-/

namespace ChatixProtocol

open Execution

/-- A key and a nonce to seal with. -/
abbrev CipherUse := FixedBytes 32 × FixedBytes 12

def SealCall.use (call : SealCall) : CipherUse :=
  (call.key, call.nonce)

/-! ## Any number of codecs -/

/-- A write moves the counter forward. It makes at most one call, under the session's
key and with the number that it moves past. -/
theorem Party.write_uses (sealing : Aead) (packetType : PacketType) (flags : UInt8)
    (payload : Bytes) (writer : Writer) (calls : List SealCall) (party : Party) :
    let result := party.write sealing packetType flags payload writer calls
    (party.codec.nextSendSeq ≤ result.1.codec.nextSendSeq ∧ result.2 = calls) ∨
      ∃ cipher call, party.codec.session = some cipher ∧
        party.codec.nextSendSeq < result.1.codec.nextSendSeq ∧ result.2 = calls ++ [call] ∧
        call.use = (cipher.outboundKey, seqNonce party.codec.nextSendSeq) := by
  intro result
  rcases Party.writePacket_effect sealing packetType flags payload party.codec writer calls with
    ⟨codec, after⟩ | ⟨notLast, codec, after⟩ | ⟨cipher, notLast, secured, codec, after⟩
  · exact .inl ⟨UInt64.le_of_eq (congrArg (·.nextSendSeq) codec).symm, after⟩
  · refine .inl ⟨?_, after⟩
    change party.codec.nextSendSeq ≤ (PacketCodec.writePacket _ _ _ _ _).2.codec.nextSendSeq
    rw [codec]
    exact UInt64.le_of_lt (lt_add_one notLast)
  · refine .inr ⟨cipher, _, secured, ?_, after, rfl⟩
    change party.codec.nextSendSeq < (PacketCodec.writePacket _ _ _ _ _).2.codec.nextSendSeq
    rw [codec]
    exact lt_add_one notLast

/-- Every call used the key of a session its party may set and a number below the
party's counter, and no two calls the same. -/
structure Network.UsesDistinct {ι : Type} (schedule : KeySchedule ι) (network : Network ι) :
    Prop where
  numbered : ∀ call ∈ network.calls, ∃ party cipher seq, schedule party cipher ∧
    seq < (network.party party).codec.nextSendSeq ∧
      call.use = (cipher.outboundKey, seqNonce seq)
  distinct : (network.calls.map SealCall.use).Nodup

/-- Parties that seal under different keys. -/
def KeySchedule.Separate {ι : Type} (schedule : KeySchedule ι) : Prop :=
  ∀ left right cipher cipher', schedule left cipher → schedule right cipher' →
    cipher.outboundKey = cipher'.outboundKey → left = right

namespace Network.UsesDistinct

variable {ι : Type} {schedule : KeySchedule ι} {network : Network ι}

theorem new (schedule : KeySchedule ι) : Network.new.UsesDistinct schedule where
  numbered := by simp [Network.new]
  distinct := List.nodup_nil

variable [DecidableEq ι] {acting : ι} {party : Party}

theorem counter_set (forward :
      (network.party acting).codec.nextSendSeq ≤ party.codec.nextSendSeq) (other : ι) :
    (network.party other).codec.nextSendSeq ≤
      ((network.set acting party).party other).codec.nextSendSeq := by
  by_cases same : other = acting
  · subst same
    rwa [set_same]
  · rw [set_other same]
    exact UInt64.le_refl _

/-- Numbers stay below the counters when one moves forward. -/
theorem set_forward (holds : network.UsesDistinct schedule)
    (forward : (network.party acting).codec.nextSendSeq ≤ party.codec.nextSendSeq) :
    (network.set acting party).UsesDistinct schedule where
  numbered := by
    intro call member
    rcases holds.numbered call member with ⟨owner, cipher, seq, scheduled, below, use⟩
    exact ⟨owner, cipher, seq, scheduled,
      UInt64.lt_of_lt_of_le below (counter_set forward owner), use⟩
  distinct := holds.distinct

theorem set_sealed (separate : schedule.Separate) (holds : network.UsesDistinct schedule)
    {cipher : SessionCipher} (scheduled : schedule acting cipher) {call : SealCall}
    (use : call.use = (cipher.outboundKey, seqNonce (network.party acting).codec.nextSendSeq))
    (forward : (network.party acting).codec.nextSendSeq < party.codec.nextSendSeq) :
    UsesDistinct schedule
      { network.set acting party with calls := network.calls ++ [call] } where
  numbered := by
    intro other member
    rcases List.mem_append.mp member with earlier | newest
    · exact (holds.set_forward (UInt64.le_of_lt forward)).numbered other earlier
    · rw [List.mem_singleton.mp newest]
      refine ⟨acting, cipher, _, scheduled, ?_, use⟩
      change _ < ((network.set acting party).party acting).codec.nextSendSeq
      rwa [set_same]
  distinct := by
    have unused : call.use ∉ network.calls.map SealCall.use := by
      intro used
      rcases List.mem_map.mp used with ⟨other, member, same⟩
      rcases holds.numbered other member with ⟨owner, cipher', seq, scheduled', below, use'⟩
      rw [use, use', Prod.mk.injEq] at same
      have sameParty := separate owner acting _ _ scheduled' scheduled same.1
      rw [sameParty, seqNonce_injective same.2] at below
      exact UInt64.lt_irrefl _ below
    rw [List.map_append, List.map_singleton, ← List.concat_eq_append]
    exact holds.distinct.concat unused

theorem step {opening : Aead} (separate : schedule.Separate)
    (sound : network.Sound opening schedule) (event : NetworkEvent ι)
    (holds : network.UsesDistinct schedule) :
    (network.step opening event).UsesDistinct schedule := by
  cases event with
  | establish acting outboundKey inboundKey => exact holds.set_forward (UInt64.le_refl _)
  | write acting sealing writer packetType flags payload =>
      have uses := Party.write_uses sealing packetType flags payload writer network.calls
        (network.party acting)
      unfold Network.step
      dsimp only at uses ⊢
      generalize (network.party acting).write sealing packetType flags payload writer
        network.calls = result at uses
      rcases result with ⟨party, calls⟩
      rcases uses with ⟨forward, rfl⟩ | ⟨cipher, call, secured, forward, rfl, use⟩
      · exact holds.set_forward forward
      · exact holds.set_sealed separate ((sound.parties acting).session cipher secured) use
          forward
  | read acting reader =>
      have taken := Party.read_step opening reader (network.party acting)
      unfold Network.step
      dsimp only
      generalize (network.party acting).read opening reader = result at taken
      cases taken with
      | silent codec session counter => exact holds.set_forward (counter ▸ UInt64.le_refl _)
      | returned => exact holds.set_forward (UInt64.le_refl _)

theorem after (opening : Aead) (events : List (NetworkEvent ι))
    (separate : KeySchedule.Separate (NetworkEvent.schedule events)) :
    (Network.after opening events).UsesDistinct (NetworkEvent.schedule events) := by
  refine (run_invariant_of_mem (fun network : Network ι =>
    network.Sound opening (NetworkEvent.schedule events) ∧
      network.UsesDistinct (NetworkEvent.schedule events)) ?_
    ⟨Network.Sound.new opening _, new _⟩).2
  intro network event member both
  refine ⟨both.1.step event ?_, both.2.step separate both.1 event⟩
  rintro party outboundKey inboundKey rfl
  exact member

end Network.UsesDistinct

/-! ## Messages -/

/-- What the encryption seals with, if it comes to that. -/
def E2eCall.use (suite : E2eSuite) (call : E2eCall) : Option CipherUse :=
  match senderExchange suite call.randomness call.recipientX25519Pk call.recipientMlKemEk with
  | .ok exchange =>
      match exchange.contentKey suite.hkdfExpand, call.randomness.nonce with
      | .ok contentKey, some nonce => some (contentKey, nonce)
      | _, _ => none
  | _ => none

theorem E2eCall.use_eq_some_iff {suite : E2eSuite} {call : E2eCall} {use : CipherUse} :
    call.use suite = some use ↔ ∃ exchange,
      senderExchange suite call.randomness call.recipientX25519Pk call.recipientMlKemEk =
        .ok exchange ∧
      exchange.contentKey suite.hkdfExpand = .ok use.1 ∧ call.randomness.nonce = some use.2 := by
  rw [E2eCall.use]
  cases senderExchange suite call.randomness call.recipientX25519Pk call.recipientMlKemEk with
  | ok exchange =>
      cases derived : exchange.contentKey suite.hkdfExpand <;>
        cases drawn : call.randomness.nonce <;> simp [derived, Prod.ext_iff]
      exact fun _ => Option.some_inj.symm
  | err error => simp
  | panic => simp

theorem E2eCall.Encrypts.use {suite : E2eSuite} {call : E2eCall} {exchange : E2eExchange}
    {contentKey : FixedBytes 32} {part : SignedPart}
    (encrypts : call.Encrypts suite exchange contentKey part) :
    call.use suite = some (contentKey, part.nonce) :=
  E2eCall.use_eq_some_iff.mpr ⟨exchange, encrypts.exchanged, encrypts.derived, encrypts.drawn⟩

theorem senderX25519Pk_of_senderExchange {suite : E2eSuite} {randomness : E2eRandomness}
    {recipientX25519Pk : FixedBytes 32} {recipientMlKemEk : FixedBytes mlKem768EkSize}
    {exchange : E2eExchange}
    (exchanged : senderExchange suite randomness recipientX25519Pk recipientMlKemEk =
      .ok exchange) :
    exchange.senderX25519Pk = suite.x25519.publicKey randomness.ephemeral := by
  simp only [senderExchange, Outcome.bind_eq_ok_iff, Outcome.pure_eq_ok,
    Outcome.ok.injEq] at exchanged
  rcases exchanged with ⟨_, _, _, _, rfl⟩
  rfl

/-! ## Derivations that occur -/

/-- The public key a side draws for its handshake. -/
def SessionOrigin.ownX25519Pk (suite : SessionSuite) : SessionOrigin → FixedBytes 32
  | .client state _ _ => state.x25519Public
  | .server randomness _ _ => suite.x25519.publicKey randomness.ephemeral

/-- The derivation of a key in one of the handshakes or for one of the messages. -/
inductive Occurs {ι : Type} (session : SessionSuite) (e2e : E2eSuite)
    (origin : ι → SessionOrigin) (messages : List E2eCall) : KeyDerivation → Prop
  | session {side : ι} {inputs : HandshakeInputs} (sealer : Role)
      (derives : (origin side).inputs session = some inputs) :
      Occurs session e2e origin messages (inputs.derivation sealer)
  | message {call : E2eCall} {exchange : E2eExchange} (written : call ∈ messages)
      (exchanged : senderExchange e2e call.randomness call.recipientX25519Pk
        call.recipientMlKemEk = .ok exchange) :
      Occurs session e2e origin messages exchange.derivation

theorem SessionOrigin.ownX25519Pk_of_inputs {suite : SessionSuite} {origin : SessionOrigin}
    {inputs : HandshakeInputs} (derives : origin.inputs suite = some inputs) :
    origin.ownX25519Pk suite =
      match origin.role with
      | .client => inputs.clientX25519Pk
      | .server => inputs.serverX25519Pk := by
  cases origin with
  | client state serverX25519Pk mlKemCiphertext =>
      rcases Option.map_eq_some_iff.mp derives with ⟨_, _, rfl⟩
      rfl
  | server randomness clientX25519Pk clientMlKemEk =>
      rcases Option.map_eq_some_iff.mp derives with ⟨_, _, rfl⟩
      rfl

/-- Two of the derivations differ and give one key. -/
def KeysClash {ι : Type} (session : SessionSuite) (e2e : E2eSuite)
    (origin : ι → SessionOrigin) (messages : List E2eCall) : Prop :=
  ∃ left right, Occurs session e2e origin messages left ∧
    Occurs session e2e origin messages right ∧ left.Collides session.hkdfExpand right

theorem Occurs.eq_of_expand {ι : Type} {session : SessionSuite} {e2e : E2eSuite}
    {origin : ι → SessionOrigin} {messages : List E2eCall}
    (noClash : ¬KeysClash session e2e origin messages) {left right : KeyDerivation}
    {derived : FixedBytes 32} (leftOccurs : Occurs session e2e origin messages left)
    (rightOccurs : Occurs session e2e origin messages right)
    (leftExpands : session.hkdfExpand left.ikm left.info = some derived)
    (rightExpands : session.hkdfExpand right.ikm right.info = some derived) : left = right := by
  by_contra different
  refine noClash ⟨left, right, leftOccurs, rightOccurs, ?_, derived, leftExpands, rightExpands⟩
  intro same
  rw [Prod.mk.injEq] at same
  exact different (KeyDerivation.eq_of_inputs same.1 same.2)

/-! ## All of them together -/

section

variable {ι : Type} {session : SessionSuite} {e2e : E2eSuite} {origin : ι → SessionOrigin}
  {keys : ι → SessionKeys} {events : List (NetworkEvent ι)} {messages : List E2eCall}

/-- Sides with key pairs of their own seal under different keys. -/
theorem SetsOwnKeys.separate (setsOwn : SetsOwnKeys session origin keys events)
    (noClash : ¬KeysClash session e2e origin messages)
    (ownPairs : ∀ left right, (origin left).role = (origin right).role →
      (origin left).ownX25519Pk session = (origin right).ownX25519Pk session → left = right) :
    KeySchedule.Separate (NetworkEvent.schedule events) := by
  intro left right cipher cipher' leftSets rightSets sameKey
  rw [(setsOwn.own left _ _ leftSets).1, (setsOwn.own right _ _ rightSets).1] at sameKey
  rcases SessionOrigin.expand_of_sessionKeys (setsOwn.derived left) with
    ⟨inputs, leftInputs, leftExpands⟩
  rcases SessionOrigin.expand_of_sessionKeys (setsOwn.derived right) with
    ⟨inputs', rightInputs, rightExpands⟩
  have leftKey := leftExpands (origin left).role
  rw [sameKey] at leftKey
  rcases HandshakeInputs.eq_of_derivation (Occurs.eq_of_expand noClash (.session _ leftInputs)
    (.session _ rightInputs) leftKey (rightExpands (origin right).role)) with
    ⟨rfl, sameRole⟩
  refine ownPairs left right sameRole ?_
  rw [SessionOrigin.ownX25519Pk_of_inputs leftInputs, sameRole,
    SessionOrigin.ownX25519Pk_of_inputs rightInputs]

/-- Messages that share their use of the cipher share the key pair and the nonce. -/
theorem E2eCall.draws_eq_of_use (oneKdf : e2e.hkdfExpand = session.hkdfExpand)
    (noClash : ¬KeysClash session e2e origin messages) {left right : E2eCall}
    (leftWritten : left ∈ messages) (rightWritten : right ∈ messages) {use : CipherUse}
    (leftUses : left.use e2e = some use) (rightUses : right.use e2e = some use) :
    e2e.x25519.publicKey left.randomness.ephemeral =
        e2e.x25519.publicKey right.randomness.ephemeral ∧
      left.randomness.nonce = right.randomness.nonce := by
  rcases E2eCall.use_eq_some_iff.mp leftUses with ⟨exchange, exchanged, derived, drawn⟩
  rcases E2eCall.use_eq_some_iff.mp rightUses with ⟨exchange', exchanged', derived', drawn'⟩
  rw [oneKdf] at derived derived'
  have same : exchange.derivation = exchange'.derivation :=
    Occurs.eq_of_expand noClash (.message leftWritten exchanged)
      (.message rightWritten exchanged') (E2eExchange.contentKey_eq_ok_iff.mp derived)
      (E2eExchange.contentKey_eq_ok_iff.mp derived')
  refine ⟨?_, drawn.trans drawn'.symm⟩
  rw [← senderX25519Pk_of_senderExchange exchanged,
    ← senderX25519Pk_of_senderExchange exchanged']
  exact congrArg KeyDerivation.ownX25519Pk same

/-- A session and a message never use the cipher under one key. -/
theorem E2eCall.key_ne_outbound (setsOwn : SetsOwnKeys session origin keys events)
    (oneKdf : e2e.hkdfExpand = session.hkdfExpand)
    (noClash : ¬KeysClash session e2e origin messages) {call : E2eCall}
    (written : call ∈ messages) {use : CipherUse} (uses : call.use e2e = some use) (side : ι) :
    (keys side).outbound (origin side).role ≠ use.1 := by
  intro sameKey
  rcases E2eCall.use_eq_some_iff.mp uses with ⟨exchange, exchanged, derived, _⟩
  rcases SessionOrigin.expand_of_sessionKeys (setsOwn.derived side) with
    ⟨inputs, derives, expands⟩
  have expanded := expands (origin side).role
  rw [sameKey] at expanded
  rw [oneKdf] at derived
  have same : inputs.derivation (origin side).role = exchange.derivation :=
    Occurs.eq_of_expand noClash (.session _ derives) (.message written exchanged) expanded
      (E2eExchange.contentKey_eq_ok_iff.mp derived)
  have purpose := congrArg KeyDerivation.purpose same
  cases role : (origin side).role <;> rw [role] at purpose <;> cases purpose

end

/-- Any number of sides set the sessions they derived in their handshakes, write and
read, over any network, and any number of messages are encrypted to any keys. If sides of
one role have different key pairs and messages different key pairs or nonces, all calls
of the cipher together use different keys or nonces, unless two of the derivations that
occur differ and give one key. -/
theorem cipher_uses_distinct {ι : Type} [DecidableEq ι] (session : SessionSuite)
    (e2e : E2eSuite) (oneKdf : e2e.hkdfExpand = session.hkdfExpand) (opening : Aead)
    (origin : ι → SessionOrigin) (keys : ι → SessionKeys)
    (derived : ∀ side, (origin side).sessionKeys session = .ok (keys side))
    (events : List (NetworkEvent ι))
    (ownKeys : ∀ side outboundKey inboundKey,
      NetworkEvent.establish side outboundKey inboundKey ∈ events →
        outboundKey = (keys side).outbound (origin side).role ∧
          inboundKey = (keys side).inbound (origin side).role)
    (ownPairs : ∀ left right, (origin left).role = (origin right).role →
      (origin left).ownX25519Pk session = (origin right).ownX25519Pk session → left = right)
    (messages : List E2eCall)
    (freshDraws : (messages.map fun call =>
      (e2e.x25519.publicKey call.randomness.ephemeral, call.randomness.nonce)).Nodup) :
    ((Network.after opening events).calls.map SealCall.use ++
        messages.filterMap (E2eCall.use e2e)).Nodup ∨
      KeysClash session e2e origin messages := by
  have setsOwn : SetsOwnKeys session origin keys events := ⟨derived, ownKeys⟩
  by_cases noClash : KeysClash session e2e origin messages
  · exact .inr noClash
  left
  have sessions := Network.UsesDistinct.after opening events (setsOwn.separate noClash ownPairs)
  refine List.nodup_append.mpr ⟨sessions.distinct, ?_, ?_⟩
  · rw [List.Nodup, List.pairwise_filterMap]
    rw [List.Nodup, List.pairwise_map] at freshDraws
    refine freshDraws.imp_of_mem ?_
    rintro left right leftWritten rightWritten different use leftUses _ rightUses rfl
    rcases E2eCall.draws_eq_of_use oneKdf noClash leftWritten rightWritten leftUses rightUses with
      ⟨samePair, sameNonce⟩
    exact different (Prod.ext samePair sameNonce)
  · rintro use member _ uses rfl
    rcases List.mem_map.mp member with ⟨call, recorded, rfl⟩
    rcases List.mem_filterMap.mp uses with ⟨message, written, messageUses⟩
    rcases sessions.numbered call recorded with ⟨side, cipher, seq, scheduled, _, use⟩
    refine E2eCall.key_ne_outbound setsOwn oneKdf noClash written messageUses side ?_
    rw [use, (setsOwn.own side _ _ scheduled).1]

/-! A ping under a session, and two messages that differ in their nonces. -/

def labelledE2e : E2eSuite :=
  { sampleSuite (.transparent fun _ _ => true) with hkdfExpand := labelledExpand }

def twinMessages : List E2eCall :=
  [sampleCall,
    { sampleCall with
      randomness := { sampleCall.randomness with nonce := some (.replicate nonceLen 9) } }]

theorem twinMessages_use :
    (twinMessages.filterMap (E2eCall.use labelledE2e)).length = 2 := by
  simp [twinMessages, E2eCall.use, senderExchange, E2eExchange.contentKey, deriveE2eKey,
    labelledE2e, labelledExpand, sampleSuite, sampleCall, Outcome.ofOption]

theorem ping_and_messages_use_the_cipher :
    ((Network.after (.ofCalls [labelledPingCall]) labelledPings).calls.length = 1 ∧
      (twinMessages.filterMap (E2eCall.use labelledE2e)).length = 2) ∧
      (((Network.after (.ofCalls [labelledPingCall]) labelledPings).calls.map SealCall.use ++
          twinMessages.filterMap (E2eCall.use labelledE2e)).Nodup ∨
        KeysClash labelledSession labelledE2e sampleOrigin twinMessages) := by
  refine ⟨⟨by decide, twinMessages_use⟩, cipher_uses_distinct labelledSession labelledE2e rfl
    (.ofCalls [labelledPingCall]) sampleOrigin (fun _ => labelledKeys) sampleOrigin_sessionKeys
    labelledPings ?_ ?_ twinMessages (by decide)⟩
  · intro side outboundKey inboundKey member
    simp only [labelledPings, List.mem_cons, NetworkEvent.establish.injEq, reduceCtorEq,
      or_false, List.not_mem_nil] at member
    rcases member with ⟨rfl, rfl, rfl⟩ | ⟨rfl, rfl, rfl⟩ <;> exact ⟨rfl, rfl⟩
  · intro left right sameRole _
    cases left <;> cases right
    · rfl
    · cases sameRole
    · cases sameRole
    · rfl

end ChatixProtocol
