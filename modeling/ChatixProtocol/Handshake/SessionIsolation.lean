import ChatixProtocol.Channel.Network
import ChatixProtocol.Crypto.KeySeparation
import ChatixProtocol.Handshake.ServerAuthentication

/-! # Sessions do not mix

Any number of clients and of servers' sessions run at once, and the network hands
any bytes to any of them. Both directions' keys depend on everything that entered
the handshake, so a side opens only what its partner in the same handshake sealed.
-/

namespace ChatixProtocol

/-- What one side of a handshake derives its session keys from. -/
inductive SessionOrigin where
  | client (state : ClientHandshakeState) (serverX25519Pk : FixedBytes 32)
      (mlKemCiphertext : FixedBytes mlKem768CtSize)
  | server (randomness : ServerRandomness) (clientX25519Pk : FixedBytes 32)
      (clientMlKemEk : FixedBytes mlKem768EkSize)
  deriving DecidableEq

/-- The secrets two sides of a handshake share, and its public values. -/
structure HandshakeInputs where
  x25519Shared : FixedBytes 32
  kyberShared : FixedBytes 32
  clientX25519Pk : FixedBytes 32
  serverX25519Pk : FixedBytes 32
  mlKemCt : FixedBytes mlKem768CtSize
  deriving DecidableEq

/-- The derivation of the key a side seals with. -/
def HandshakeInputs.derivation (inputs : HandshakeInputs) (sealer : Role) : KeyDerivation where
  purpose :=
    match sealer with
    | .client => .clientToServer
    | .server => .serverToClient
  x25519Shared := inputs.x25519Shared
  kyberShared := inputs.kyberShared
  ownX25519Pk := inputs.clientX25519Pk
  peerX25519Pk := inputs.serverX25519Pk
  mlKemCt := inputs.mlKemCt

/-- Each key is the output of the key derivation on its derivation's inputs. -/
theorem HandshakeInputs.expand_of_deriveKeys {hkdfExpand : HkdfExpand} {inputs : HandshakeInputs}
    {keys : SessionKeys}
    (derives : deriveKeys hkdfExpand inputs.x25519Shared.bytes inputs.kyberShared.bytes
      (handshakeContext inputs.clientX25519Pk inputs.serverX25519Pk inputs.mlKemCt) = .ok keys)
    (sealer : Role) :
    hkdfExpand (inputs.derivation sealer).ikm (inputs.derivation sealer).info =
      some (keys.outbound sealer) := by
  cases sealer with
  | client => exact (deriveKeys_eq_ok_iff.mp derives).1
  | server => exact (deriveKeys_eq_ok_iff.mp derives).2

theorem HandshakeInputs.eq_of_derivation {left right : HandshakeInputs} {sealer sealer' : Role}
    (same : left.derivation sealer = right.derivation sealer') :
    left = right ∧ sealer = sealer' := by
  rcases left with ⟨x25519Shared, kyberShared, clientPk, serverPk, mlKemCt⟩
  rcases right with ⟨x25519Shared', kyberShared', clientPk', serverPk', mlKemCt'⟩
  cases sealer <;> cases sealer' <;> cases same <;> exact ⟨rfl, rfl⟩

namespace SessionOrigin

def role : SessionOrigin → Role
  | .client _ _ _ => .client
  | .server _ _ _ => .server

/-- The keys as the code derives them on either side. -/
def sessionKeys (suite : SessionSuite) : SessionOrigin → Outcome ProtocolError SessionKeys
  | .client state serverX25519Pk mlKemCiphertext =>
      state.deriveSessionKeys suite serverX25519Pk mlKemCiphertext
  | .server randomness clientX25519Pk clientMlKemEk => do
      let state ← ServerHandshakeState.respond suite randomness clientX25519Pk clientMlKemEk
      pure state.sessionKeys

/-- What the keys are derived from. A client without its secret and a server that
cannot encapsulate have nothing to derive them from. -/
def inputs (suite : SessionSuite) : SessionOrigin → Option HandshakeInputs
  | .client state serverX25519Pk mlKemCiphertext => state.mlKemDk.map fun dk => {
      x25519Shared := suite.x25519.diffieHellman state.x25519Secret serverX25519Pk
      kyberShared := suite.mlKem.decapsulate dk mlKemCiphertext
      clientX25519Pk := state.x25519Public
      serverX25519Pk
      mlKemCt := mlKemCiphertext
    }
  | .server randomness clientX25519Pk clientMlKemEk =>
      (suite.mlKem.encapsulate clientMlKemEk randomness.coins).map fun encapsulated => {
        x25519Shared := suite.x25519.diffieHellman randomness.ephemeral clientX25519Pk
        kyberShared := encapsulated.2
        clientX25519Pk
        serverX25519Pk := suite.x25519.publicKey randomness.ephemeral
        mlKemCt := encapsulated.1
      }

theorem expand_of_sessionKeys {suite : SessionSuite} {origin : SessionOrigin}
    {keys : SessionKeys} (derived : origin.sessionKeys suite = .ok keys) :
    ∃ inputs, origin.inputs suite = some inputs ∧ ∀ sealer,
      suite.hkdfExpand (inputs.derivation sealer).ikm (inputs.derivation sealer).info =
        some (keys.outbound sealer) := by
  cases origin with
  | client state serverX25519Pk mlKemCiphertext =>
      simp only [sessionKeys, ClientHandshakeState.deriveSessionKeys, Outcome.bind_eq_ok_iff,
        Outcome.ofOption_eq_ok_iff, tryIntoArray_eq_ok_iff] at derived
      rcases derived with ⟨dk, held, ct, sameCt, expands⟩
      cases FixedBytes.ext sameCt
      let inputs : HandshakeInputs := {
        x25519Shared := suite.x25519.diffieHellman state.x25519Secret serverX25519Pk
        kyberShared := suite.mlKem.decapsulate dk mlKemCiphertext
        clientX25519Pk := state.x25519Public
        serverX25519Pk
        mlKemCt := mlKemCiphertext
      }
      refine ⟨inputs, ?_, HandshakeInputs.expand_of_deriveKeys expands⟩
      rw [SessionOrigin.inputs, held, Option.map_some]
  | server randomness clientX25519Pk clientMlKemEk =>
      rcases Outcome.bind_eq_ok_iff.mp derived with ⟨state, responded, same⟩
      cases same
      rcases ServerHandshakeState.respond_eq_ok_iff.mp responded with
        ⟨_, kyberShared, encapsulated, expands⟩
      let inputs : HandshakeInputs := {
        x25519Shared := suite.x25519.diffieHellman randomness.ephemeral clientX25519Pk
        kyberShared
        clientX25519Pk
        serverX25519Pk := suite.x25519.publicKey randomness.ephemeral
        mlKemCt := state.mlKemCiphertext
      }
      refine ⟨inputs, ?_, HandshakeInputs.expand_of_deriveKeys expands⟩
      rw [SessionOrigin.inputs, encapsulated, Option.map_some]

end SessionOrigin

/-! ## Isolation -/

/-- The key one side seals with was derived like the key another opens with, from
different inputs. -/
def SessionOrigin.KeysCollide (suite : SessionSuite) (sealer opener : SessionOrigin) : Prop :=
  ∃ sealing opening, sealer.inputs suite = some sealing ∧ opener.inputs suite = some opening ∧
    (sealing.derivation sealer.role).Collides suite.hkdfExpand
      (opening.derivation opener.role.peer)

/-- Sides that use one key, one to seal and one to open, come from one handshake. -/
theorem SessionOrigin.same_handshake_or_collide {suite : SessionSuite}
    {sealer opener : SessionOrigin} {sealerKeys openerKeys : SessionKeys}
    (sealerDerived : sealer.sessionKeys suite = .ok sealerKeys)
    (openerDerived : opener.sessionKeys suite = .ok openerKeys)
    (sameKey : sealerKeys.outbound sealer.role = openerKeys.inbound opener.role) :
    (sealer.role = opener.role.peer ∧ sealer.inputs suite = opener.inputs suite) ∨
      sealer.KeysCollide suite opener := by
  rcases expand_of_sessionKeys sealerDerived with ⟨sealing, sealerInputs, sealerExpands⟩
  rcases expand_of_sessionKeys openerDerived with ⟨opening, openerInputs, openerExpands⟩
  have sealed := sealerExpands sealer.role
  have opened := openerExpands opener.role.peer
  rw [sameKey] at sealed
  by_cases same : sealing.derivation sealer.role = opening.derivation opener.role.peer
  · rcases HandshakeInputs.eq_of_derivation same with ⟨rfl, sameRole⟩
    exact .inl ⟨sameRole, sealerInputs.trans openerInputs.symm⟩
  · refine .inr ⟨sealing, opening, sealerInputs, openerInputs, ?_, _, sealed, opened⟩
    intro sameBytes
    rw [Prod.mk.injEq] at sameBytes
    exact same (KeyDerivation.eq_of_inputs sameBytes.1 sameBytes.2)

/-- Sides that set only the sessions they derived in their handshakes. -/
structure SetsOwnKeys {ι : Type} (suite : SessionSuite) (origin : ι → SessionOrigin)
    (keys : ι → SessionKeys) (events : List (NetworkEvent ι)) : Prop where
  derived : ∀ side, (origin side).sessionKeys suite = .ok (keys side)
  own : ∀ side outboundKey inboundKey,
    NetworkEvent.establish side outboundKey inboundKey ∈ events →
      outboundKey = (keys side).outbound (origin side).role ∧
        inboundKey = (keys side).inbound (origin side).role

/-- If a side has only one partner in its handshake, it receives what the partner sealed,
unless inputs of the key derivation collide. -/
theorem SetsOwnKeys.sublist_or_collide {ι : Type} [DecidableEq ι] {suite : SessionSuite}
    {opening : Aead} {origin : ι → SessionOrigin} {keys : ι → SessionKeys}
    {events : List (NetworkEvent ι)} (setsOwn : SetsOwnKeys suite origin keys events)
    {receiver partner : ι}
    (opensOnly : opening.OpensOnlySealedUnder ((keys receiver).inbound (origin receiver).role)
      (Network.after opening events).calls)
    (onlyPartner : ∀ side, (origin side).role = (origin receiver).role.peer →
      (origin side).inputs suite = (origin receiver).inputs suite → side = partner) :
    ((Network.after opening events).party receiver).received.Sublist
        ((Network.after opening events).party partner).sent ∨
      ∃ side, (origin side).KeysCollide suite (origin receiver) := by
  have sound : (Network.after opening events).Sound opening (NetworkEvent.schedule events) :=
    Network.Sound.after opening events
  by_cases collides : ∃ side, (origin side).KeysCollide suite (origin receiver)
  · exact .inr collides
  left
  refine sound.sublist_of_partner
    (fun cipher scheduled => (setsOwn.own receiver _ _ scheduled).2) ?_ opensOnly
  intro side cipher scheduled sameKey
  rw [(setsOwn.own side _ _ scheduled).1] at sameKey
  rcases SessionOrigin.same_handshake_or_collide (setsOwn.derived side)
    (setsOwn.derived receiver) sameKey with ⟨sameRole, sameInputs⟩ | collision
  · exact onlyPartner side sameRole sameInputs
  · exact absurd ⟨side, collision⟩ collides

/-- Any number of sides set the sessions they derived in their handshakes, write and
read, over any network. If only one side of the other role took part in a side's
handshake, the packets returned to the latter are a subsequence of those its partner
sealed, or two different inputs of the key derivation collide. -/
theorem sessions_isolated {ι : Type} [DecidableEq ι] (suite : SessionSuite) (opening : Aead)
    (origin : ι → SessionOrigin) (keys : ι → SessionKeys)
    (derived : ∀ side, (origin side).sessionKeys suite = .ok (keys side))
    (events : List (NetworkEvent ι))
    (ownKeys : ∀ side outboundKey inboundKey,
      NetworkEvent.establish side outboundKey inboundKey ∈ events →
        outboundKey = (keys side).outbound (origin side).role ∧
          inboundKey = (keys side).inbound (origin side).role)
    (receiver partner : ι)
    (opensOnly : opening.OpensOnlySealedUnder ((keys receiver).inbound (origin receiver).role)
      (Network.after opening events).calls)
    (onlyPartner : ∀ side, (origin side).role = (origin receiver).role.peer →
      (origin side).inputs suite = (origin receiver).inputs suite → side = partner) :
    let network := Network.after opening events
    (network.party receiver).received.Sublist (network.party partner).sent ∨
      ∃ side, (origin side).KeysCollide suite (origin receiver) := by
  intro network
  have setsOwn : SetsOwnKeys suite origin keys events := ⟨derived, ownKeys⟩
  exact setsOwn.sublist_or_collide opensOnly onlyPartner

/-! A client and its server, with a key derivation that keeps the label. -/

def labelledExpand : HkdfExpand := fun ikm info =>
  some (.ofPrefix 32 (info.reverse.take 6 ++ ikm))

def labelledSession : SessionSuite :=
  { sampleSession with hkdfExpand := labelledExpand }

def labelledKeys : SessionKeys where
  clientToServer := .ofPrefix 32 ([49, 118, 45, 115, 50, 99] ++ List.replicate 26 4)
  serverToClient := .ofPrefix 32 ([49, 118, 45, 99, 50, 115] ++ List.replicate 26 4)

def sampleOrigin : Role → SessionOrigin
  | .client => .client sampleClient sampleServerState.x25519Public sampleServerState.mlKemCiphertext
  | .server => .server sampleServerCall.randomness sampleClient.x25519Public sampleClient.mlKemEk

theorem labelledExpand_label (ikm context label : Bytes) (long : 6 ≤ label.length) :
    labelledExpand ikm (context ++ label) =
      some (.ofPrefix 32 (label.reverse.take 6 ++ ikm)) := by
  rw [labelledExpand, List.reverse_append, List.take_append_of_le_length (by simpa using long)]

theorem labelledKeys_derived (context : Bytes) :
    deriveKeys labelledExpand (List.replicate 32 4) (List.replicate 32 4) context =
      .ok labelledKeys := by
  rw [deriveKeys_eq_ok_iff, labelledExpand_label _ _ _ (by decide),
    labelledExpand_label _ _ _ (by decide)]
  exact ⟨by decide, by decide⟩

def labelledServerState : ServerHandshakeState :=
  { sampleServerState with sessionKeys := labelledKeys }

theorem labelledServerState_responds :
    ServerHandshakeState.respond labelledSession sampleServerCall.randomness
      sampleClient.x25519Public sampleClient.mlKemEk = .ok labelledServerState := by
  have shared : labelledSession.x25519.diffieHellman sampleServerCall.randomness.ephemeral
      sampleClient.x25519Public = .replicate 32 4 := by decide
  refine ServerHandshakeState.respond_eq_ok_iff.mpr ⟨rfl, .replicate 32 4, rfl, ?_⟩
  rw [shared]
  exact labelledKeys_derived _

theorem sampleOrigin_sessionKeys (role : Role) :
    (sampleOrigin role).sessionKeys labelledSession = .ok labelledKeys := by
  cases role with
  | client =>
      have held : sampleClient.mlKemDk = some (.replicate 64 2) := rfl
      have shared : labelledSession.x25519.diffieHellman sampleClient.x25519Secret
          sampleServerState.x25519Public = .replicate 32 4 := by decide
      have decapsulated : labelledSession.mlKem.decapsulate (.replicate 64 2)
          sampleServerState.mlKemCiphertext = .replicate 32 4 :=
        FixedBytes.ofPrefix_ofPrefix (.replicate 32 4) (by decide)
      simp only [sampleOrigin, SessionOrigin.sessionKeys, ClientHandshakeState.deriveSessionKeys,
        held, Outcome.ofOption, Outcome.ok_bind, tryIntoArray_bytes, shared, decapsulated]
      exact labelledKeys_derived _
  | server => exact Outcome.bind_eq_ok_iff.mpr ⟨_, labelledServerState_responds, rfl⟩

def labelledPingCall : SealCall :=
  { pingCall with key := labelledKeys.clientToServer }

def labelledPings : List (NetworkEvent Role) :=
  [.establish .client labelledKeys.clientToServer labelledKeys.serverToClient,
    .establish .server labelledKeys.serverToClient labelledKeys.clientToServer,
    .write .client (.ofCalls [labelledPingCall]) PacketCodec.openStream .ping 0
      (List.replicate 8 7),
    .read .server ⟨pingFrame, .earlyEof⟩]

theorem labelled_ping_isolated :
    ((Network.after (.ofCalls [labelledPingCall]) labelledPings).party .server).received.length =
        1 ∧
      (((Network.after (.ofCalls [labelledPingCall]) labelledPings).party
          .server).received.Sublist
        ((Network.after (.ofCalls [labelledPingCall]) labelledPings).party .client).sent ∨
        ∃ side, (sampleOrigin side).KeysCollide labelledSession (sampleOrigin .server)) := by
  refine ⟨by decide, sessions_isolated labelledSession (.ofCalls [labelledPingCall]) sampleOrigin
    (fun _ => labelledKeys) sampleOrigin_sessionKeys labelledPings ?_ .server .client ?_ ?_⟩
  · intro side outboundKey inboundKey member
    simp only [labelledPings, List.mem_cons, NetworkEvent.establish.injEq, reduceCtorEq,
      or_false, List.not_mem_nil] at member
    rcases member with ⟨rfl, rfl, rfl⟩ | ⟨rfl, rfl, rfl⟩ <;> exact ⟨rfl, rfl⟩
  · intro nonce aad ciphertext plaintext opens
    have recorded : (Network.after (.ofCalls [labelledPingCall]) labelledPings).calls =
        [labelledPingCall] := by decide
    rw [recorded]
    exact Aead.mem_of_openInPlace_ofCalls opens
  · intro side otherRole _
    cases side with
    | client => rfl
    | server => exact absurd otherRole (by decide)

end ChatixProtocol
