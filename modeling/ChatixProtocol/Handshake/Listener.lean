import ChatixProtocol.Codec.Ceilings
import ChatixProtocol.Channel.Endpoints
import ChatixProtocol.Handshake.Gate

/-! # What a side can be made to accept

One side reads whatever the network gives it, checks every packet against its state, and
sets its session once it has accepted a given number of packets. What it then accepts is
described exactly: by the codec one packet at a time, and by the state machine as a whole.
-/

namespace ChatixProtocol

open Execution ConnectionState

structure Listener where
  codec : PacketCodec
  state : ConnectionState
  accepted : List RawPacket

namespace Listener

def new (role : Role) : Listener where
  codec := .new
  state := .initial role
  accepted := []

/-- The state after a packet, if it is one the side waits for. -/
def admits (role : Role) (state : ConnectionState) (packet : RawPacket) :
    Outcome ProtocolError ConnectionState := do
  let packetType ← PacketType.fromU8 packet.header.packetType
  state.receive role packetType

/-- A packet that is not read or not waited for is passed over. -/
def read (aead : Aead) (role : Role) (listener : Listener) (reader : Reader) : Listener :=
  let ran := PacketCodec.readPacket aead ⟨listener.codec, reader⟩
  match ran.1 with
  | .ok packet =>
      match admits role listener.state packet with
      | .ok state => { codec := ran.2.codec, state, accepted := listener.accepted ++ [packet] }
      | _ => { listener with codec := ran.2.codec }
  | _ => { listener with codec := ran.2.codec }

def establish (cipher : SessionCipher) (listener : Listener) : Listener :=
  { listener with
    codec := listener.codec.establishSession cipher.outboundKey cipher.inboundKey }

/-- The session in force when the given number of packets have been accepted. -/
def sessionAt (cipher : SessionCipher) (point number : Nat) : Option SessionCipher :=
  if number < point then none else some cipher

/-- The caller sets its session at the point. -/
def prepare (cipher : SessionCipher) (point : Nat) (listener : Listener) : Listener :=
  if listener.accepted.length < point then listener else listener.establish cipher

def step (aead : Aead) (role : Role) (cipher : SessionCipher) (point : Nat)
    (listener : Listener) (reader : Reader) : Listener :=
  (listener.prepare cipher point).read aead role reader

def after (aead : Aead) (role : Role) (cipher : SessionCipher) (point : Nat)
    (readers : List Reader) : Listener :=
  run (step aead role cipher point) (new role) readers

end Listener

/-! ## One packet -/

/-- The packets that some bytes can make a codec return: in the clear before the session,
afterwards only what its inbound key opens. -/
inductive RawPacket.Readable (aead : Aead) : Option SessionCipher → RawPacket → Prop
  | plain {packetType : PacketType} {flags : UInt8} {sequence : UInt64} {payload : Bytes}
      (unmarked : PacketHeader.marksEncrypted flags = false)
      (within : payload.length ≤ packetType.maxPayloadSize.toNat) :
      Readable aead none
        ⟨.new packetType.asU8 flags (UInt32.ofNat payload.length) sequence, payload⟩
  | opened {cipher : SessionCipher} {packetType : PacketType} {flags : UInt8}
      {sequence : UInt64} {ciphertext plaintext : Bytes}
      (marked : PacketHeader.marksEncrypted flags = true)
      (within : ciphertext.length ≤ packetType.maxPayloadSize.toNat + gcmTagLen)
      (opens : aead.openInPlace cipher.inboundKey (seqNonce sequence)
        (headerAad packetType.asU8 flags).bytes ciphertext = some plaintext) :
      Readable aead (some cipher)
        ⟨.new packetType.asU8 flags (UInt32.ofNat plaintext.length) sequence, plaintext⟩

namespace PacketCodec

variable {aead : Aead} {codec : PacketCodec}

theorem readable_of_openFrame {session : Option SessionCipher} {header : PacketHeader}
    {body : Bytes} {packet : RawPacket} (admitted : admitHeader session header = .ok ())
    (complete : body.length = header.payloadLen.toNat)
    (opened : openFrame aead session header body = .ok packet) :
    packet.Readable aead session := by
  rcases admitHeader_eq_ok_iff.mp admitted with ⟨valid, secured, packetType, known, fits⟩
  have built := (PacketHeader.validate_eq_ok_iff.mp valid).2
  have announced : header.payloadLen = UInt32.ofNat body.length := by
    rw [complete]
    exact UInt32.ofNat_toNat.symm
  rw [UInt32.le_iff_toNat_le, toNat_maxForType, ← complete] at fits
  rw [PacketType.fromU8_eq_ok_iff] at known
  rcases openFrame_eq_ok_iff.mp opened with ⟨plain, rfl⟩ | ⟨marked, plaintext, opens, rfl⟩
  · have unsecured : session = none := by
      cases session with
      | none => rfl
      | some cipher => exact absurd (secured rfl) (Bool.eq_false_iff.mp plain)
    have untagged : PacketHeader.tagLen header.flags = 0 := if_neg (Bool.eq_false_iff.mp plain)
    rw [untagged, Nat.add_zero] at fits
    rw [unsecured, built, announced, known]
    exact .plain plain fits
  · rcases Option.bind_eq_some_iff.mp opens with ⟨cipher, rfl, inPlace⟩
    have tagged : PacketHeader.tagLen header.flags = gcmTagLen := if_pos marked
    rw [tagged] at fits
    have same : { header with payloadLen := UInt32.ofNat plaintext.length } =
        PacketHeader.new packetType.asU8 header.flags (UInt32.ofNat plaintext.length)
          header.sequence := by
      rw [built, known]
      rfl
    rw [same]
    rw [known] at inPlace
    exact .opened marked fits inPlace

theorem exists_reader_of_openFrame {header : PacketHeader} {body : Bytes} {packet : RawPacket}
    (admitted : admitHeader codec.session header = .ok ()) (fresh : codec.IsFresh header.sequence)
    (complete : body.length = header.payloadLen.toNat)
    (opened : openFrame aead codec.session header body = .ok packet) :
    ∃ reader reader', readPacket aead ⟨codec, reader⟩ =
      (.ok packet, ⟨codec.received packet.header.sequence, reader'⟩) := by
  refine ⟨⟨header.toBytes.bytes ++ (body ++ []), .earlyEof⟩, ⟨[], .earlyEof⟩, ?_⟩
  rw [readPacket_of_frame [] admitted fresh complete, opened, openFrame_sequence opened]

theorem exists_reader {packet : RawPacket} (readable : packet.Readable aead codec.session)
    (fresh : codec.IsFresh packet.header.sequence) :
    ∃ reader reader', readPacket aead ⟨codec, reader⟩ =
      (.ok packet, ⟨codec.received packet.header.sequence, reader'⟩) := by
  generalize inForce : codec.session = session at readable
  have announced {packetType : PacketType} {length : Nat}
      (within : length ≤ packetType.maxPayloadSize.toNat + gcmTagLen) :
      (UInt32.ofNat length).toNat = length := by
    have bound := packetType.maxPayloadSize_le
    have tag : gcmTagLen = 16 := rfl
    exact UInt32.toNat_ofNat_of_lt' (by unfold UInt32.size; omega)
  cases readable with
  | @plain packetType flags sequence payload unmarked within =>
      have length := announced (Nat.le_add_right_of_le within)
      have admitted : admitHeader codec.session
          (.new packetType.asU8 flags (UInt32.ofNat payload.length) sequence) = .ok () := by
        rw [inForce, admitHeader_new, length]
        exact ⟨nofun, Nat.le_add_right_of_le within⟩
      exact exists_reader_of_openFrame admitted fresh length.symm
        (openFrame_eq_ok_iff.mpr (.inl ⟨unmarked, rfl⟩))
  | @opened cipher packetType flags sequence ciphertext plaintext marked within opens =>
      have length := announced within
      have tagged : PacketHeader.tagLen flags = gcmTagLen := if_pos marked
      have admitted : admitHeader codec.session
          (.new packetType.asU8 flags (UInt32.ofNat ciphertext.length) sequence) = .ok () := by
        rw [admitHeader_new, length, tagged]
        exact ⟨fun _ => marked, within⟩
      have opened : openedPayload aead codec.session
          (.new packetType.asU8 flags (UInt32.ofNat ciphertext.length) sequence) ciphertext =
            some plaintext := by
        rw [inForce]
        exact opens
      exact exists_reader_of_openFrame admitted fresh length.symm
        (openFrame_eq_ok_iff.mpr (.inr ⟨marked, plaintext, opened, rfl⟩))

end PacketCodec

/-- A read that returns a packet found it in a fresh frame that it could read. -/
theorem PacketCodec.readable_of_readPacket {aead : Aead} {codec codec' : PacketCodec}
    {reader reader' : Reader} {packet : RawPacket}
    (ran : readPacket aead ⟨codec, reader⟩ = (.ok packet, ⟨codec', reader'⟩)) :
    packet.Readable aead codec.session ∧ codec.IsFresh packet.header.sequence ∧
      codec' = codec.received packet.header.sequence := by
  rcases exists_frame_of_readPacket ran with
    ⟨header, body, _, admitted, fresh, complete, opened, moved⟩
  rw [openFrame_sequence opened]
  exact ⟨readable_of_openFrame admitted complete opened, fresh, moved⟩

/-! ## One read -/

namespace Listener

variable {aead : Aead} {role : Role} {listener : Listener} {packet : RawPacket}
  {state next : ConnectionState}

theorem admits_eq_ok_iff :
    admits role state packet = .ok next ↔ ∃ packetType,
      packet.header.packetType = packetType.asU8 ∧ state.receive role packetType = .ok next := by
  simp only [admits, Outcome.bind_eq_ok_iff, PacketType.fromU8_eq_ok_iff]

/-- The listener after a packet was accepted. -/
def took (listener : Listener) (packet : RawPacket) (state : ConnectionState) : Listener where
  codec := listener.codec.received packet.header.sequence
  state := state
  accepted := listener.accepted ++ [packet]

/-- A read may move the window, or accepts one packet. -/
inductive ReadStep (aead : Aead) (role : Role) (listener : Listener) : Listener → Prop
  | silent {codec : PacketCodec} (session : codec.session = listener.codec.session)
      (window : ∀ seq, codec.IsFresh seq → listener.codec.IsFresh seq) :
      ReadStep aead role listener { listener with codec }
  | accepted {packet : RawPacket} {state : ConnectionState}
      (readable : packet.Readable aead listener.codec.session)
      (fresh : listener.codec.IsFresh packet.header.sequence)
      (admitted : admits role listener.state packet = .ok state) :
      ReadStep aead role listener (listener.took packet state)

theorem isFresh_of_received {codec : PacketCodec} {seq other : UInt64} (fresh : codec.IsFresh seq)
    (later : (codec.received seq).IsFresh other) : codec.IsFresh other :=
  fun last known => UInt64.lt_trans (fresh last known) (later seq rfl)

theorem read_step (aead : Aead) (role : Role) (listener : Listener) (reader : Reader) :
    listener.ReadStep aead role (listener.read aead role reader) := by
  rcases reader with ⟨input, ending⟩
  rcases ran : PacketCodec.readPacket aead ⟨listener.codec, input, ending⟩ with
    ⟨result, codec, rest, ending'⟩
  have session := (PacketCodec.readPacket_session aead ⟨listener.codec, input, ending⟩).1
  rw [ran] at session
  have window : ∀ seq, codec.IsFresh seq → listener.codec.IsFresh seq := by
    cases PacketCodec.readPacket_cases input ran with
    | shortHeader => exact fun _ fresh => fresh
    | refused => exact fun _ fresh => fresh
    | stale => exact fun _ fresh => fresh
    | shortPayload _ fresh => exact fun _ => isFresh_of_received fresh
    | frame _ fresh => exact fun _ => isFresh_of_received fresh
  rw [read, ran]
  dsimp only
  cases result with
  | err error => exact .silent session window
  | panic => exact .silent session window
  | ok packet =>
      dsimp only
      cases admitted : admits role listener.state packet with
      | err error => exact .silent session window
      | panic => exact .silent session window
      | ok state =>
          rcases PacketCodec.readable_of_readPacket ran with ⟨readable, fresh, rfl⟩
          exact .accepted readable fresh admitted

theorem exists_read (readable : packet.Readable aead listener.codec.session)
    (fresh : listener.codec.IsFresh packet.header.sequence)
    (admitted : admits role listener.state packet = .ok state) :
    ∃ reader, listener.read aead role reader = listener.took packet state := by
  rcases PacketCodec.exists_reader readable fresh with ⟨reader, reader', ran⟩
  refine ⟨reader, ?_⟩
  rw [read, ran]
  simp only [admitted]
  rfl

/-! ## Whole runs -/

/-- The types of the accepted packets led to the state. -/
def Led (role : Role) (packets : List RawPacket) (state : ConnectionState) : Prop :=
  ∃ packetTypes : List PacketType,
    packetTypes.map PacketType.asU8 = packets.map (·.header.packetType) ∧
      receiveAll role (initial role) packetTypes = .ok state

theorem led_concat_iff {packets : List RawPacket} :
    Led role (packets ++ [packet]) next ↔
      ∃ state, Led role packets state ∧ admits role state packet = .ok next := by
  constructor
  · intro led
    rcases led with ⟨packetTypes, spelled, accepted⟩
    rw [List.map_append, List.map_singleton] at spelled
    rcases List.map_eq_append_iff.mp spelled with ⟨front, back, rfl, frontSpelled, backSpelled⟩
    rcases List.map_eq_singleton_iff.mp backSpelled with ⟨packetType, rfl, same⟩
    rcases receiveAll_concat_eq_ok_iff.mp accepted with ⟨middle, before, received⟩
    exact ⟨middle, ⟨front, frontSpelled, before⟩,
      admits_eq_ok_iff.mpr ⟨packetType, same.symm, received⟩⟩
  · intro led
    rcases led with ⟨state, ⟨packetTypes, spelled, accepted⟩, admitted⟩
    rcases admits_eq_ok_iff.mp admitted with ⟨packetType, same, received⟩
    refine ⟨packetTypes ++ [packetType], ?_,
      receiveAll_concat_eq_ok_iff.mpr ⟨state, accepted, received⟩⟩
    rw [List.map_append, List.map_append, spelled, List.map_singleton, List.map_singleton, same]

theorem led_unique {packets : List RawPacket} {left right : ConnectionState}
    (leftLed : Led role packets left) (rightLed : Led role packets right) : left = right := by
  rcases leftLed with ⟨packetTypes, spelled, accepted⟩
  rcases rightLed with ⟨packetTypes', spelled', accepted'⟩
  have same : packetTypes = packetTypes' :=
    (List.map_injective_iff.mpr PacketType.asU8_injective) (spelled.trans spelled'.symm)
  rw [same] at accepted
  exact Outcome.ok.inj (accepted.symm.trans accepted')

/-- What holds of a listener after any run. -/
structure Sound (aead : Aead) (role : Role) (cipher : SessionCipher) (point : Nat)
    (listener : Listener) : Prop where
  increasing : listener.accepted.Pairwise fun earlier later =>
    earlier.header.sequence < later.header.sequence
  newer : ∀ seq, listener.codec.IsFresh seq →
    ∀ packet ∈ listener.accepted, packet.header.sequence < seq
  led : Led role listener.accepted listener.state
  readable : ∀ (index : Nat) (packet : RawPacket), listener.accepted[index]? = some packet →
    packet.Readable aead (sessionAt cipher point index)
  unsecured : listener.accepted.length < point → listener.codec.session = none

section

variable {cipher : SessionCipher} {point : Nat}

theorem Sound.new : (Listener.new role).Sound aead role cipher point where
  increasing := List.Pairwise.nil
  newer := by simp [Listener.new]
  led := ⟨[], rfl, rfl⟩
  readable := by simp [Listener.new]
  unsecured _ := rfl

theorem Sound.prepare (sound : listener.Sound aead role cipher point) :
    (listener.prepare cipher point).Sound aead role cipher point ∧
      (listener.prepare cipher point).codec.session =
        sessionAt cipher point listener.accepted.length ∧
      (listener.prepare cipher point).accepted = listener.accepted ∧
      (listener.prepare cipher point).state = listener.state ∧
      ∀ seq, listener.codec.IsFresh seq → (listener.prepare cipher point).codec.IsFresh seq := by
  rw [Listener.prepare, sessionAt]
  by_cases early : listener.accepted.length < point
  · rw [if_pos early, if_pos early]
    exact ⟨sound, sound.unsecured early, rfl, rfl, fun _ fresh => fresh⟩
  · rw [if_neg early, if_neg early]
    have established : (listener.establish cipher).Sound aead role cipher point :=
      ⟨sound.increasing, sound.newer, sound.led, sound.readable, fun short => absurd short early⟩
    exact ⟨established, rfl, rfl, rfl, fun _ fresh => fresh⟩

theorem Sound.read (sound : listener.Sound aead role cipher point)
    (inForce : listener.codec.session = sessionAt cipher point listener.accepted.length)
    {after : Listener} (step : listener.ReadStep aead role after) :
    after.Sound aead role cipher point := by
  cases step with
  | silent session window =>
      exact ⟨sound.increasing, fun seq fresh => sound.newer seq (window seq fresh), sound.led,
        sound.readable, fun early => session.trans (sound.unsecured early)⟩
  | @accepted packet state readable fresh admitted =>
      rw [inForce] at readable
      refine ⟨?_, ?_, led_concat_iff.mpr ⟨_, sound.led, admitted⟩, ?_, ?_⟩
      · refine List.pairwise_append.mpr ⟨sound.increasing, List.pairwise_singleton _ _, ?_⟩
        intro earlier member later last
        rw [List.mem_singleton.mp last]
        exact sound.newer _ fresh earlier member
      · intro seq later other member
        rcases List.mem_append.mp member with earlier | last
        · exact sound.newer seq (isFresh_of_received fresh later) other earlier
        · rw [List.mem_singleton.mp last]
          exact later _ rfl
      · intro index other found
        change (listener.accepted ++ [packet])[index]? = some other at found
        rcases Nat.lt_trichotomy index listener.accepted.length with before | rfl | behind
        · rw [List.getElem?_append_left before] at found
          exact sound.readable index other found
        · rw [List.getElem?_concat_length] at found
          cases found
          exact readable
        · have length : (listener.accepted ++ [packet]).length ≤ index := by
            rw [List.length_append]
            exact behind
          rw [List.getElem?_eq_none length] at found
          cases found
      · intro early
        change (listener.accepted ++ [packet]).length < point at early
        rw [List.length_append] at early
        exact sound.unsecured (Nat.lt_of_add_right_lt early)

theorem Sound.after (readers : List Reader) :
    (after aead role cipher point readers).Sound aead role cipher point := by
  refine run_invariant _ ?_ .new readers
  intro listener reader sound
  rcases sound.prepare with ⟨prepared, inForce, same, _, _⟩
  exact prepared.read (inForce.trans (by rw [same])) (read_step ..)

theorem exists_after {packets : List RawPacket}
    (increasing : packets.Pairwise fun earlier later =>
      earlier.header.sequence < later.header.sequence)
    (led : Led role packets state)
    (readable : ∀ (index : Nat) (packet : RawPacket), packets[index]? = some packet →
      packet.Readable aead (sessionAt cipher point index)) :
    ∃ readers, (after aead role cipher point readers).accepted = packets ∧
      ∀ seq, (∀ packet ∈ packets, packet.header.sequence < seq) →
        (after aead role cipher point readers).codec.IsFresh seq := by
  induction packets using List.reverseRecOn generalizing state with
  | nil => exact ⟨[], rfl, fun _ _ => PacketCodec.isFresh_of_none rfl⟩
  | append_singleton packets packet induction =>
      rcases List.pairwise_append.mp increasing with ⟨before, _, below⟩
      rcases led_concat_iff.mp led with ⟨middle, middleLed, admitted⟩
      have earlier (index : Nat) (other : RawPacket) (found : packets[index]? = some other) :
          other.Readable aead (sessionAt cipher point index) := by
        refine readable index other ?_
        rwa [List.getElem?_append_left (List.getElem?_eq_some_iff.mp found).1]
      rcases induction before middleLed earlier with ⟨readers, accepted, fresh⟩
      have sound := @Sound.after aead role cipher point readers
      have reached : (after aead role cipher point readers).state = middle :=
        led_unique sound.led (accepted ▸ middleLed)
      rcases sound.prepare with ⟨_, inForce, same, sameState, keepsFresh⟩
      rw [accepted] at inForce same
      have next := readable packets.length packet List.getElem?_concat_length
      rw [← inForce] at next
      rw [← reached, ← sameState] at admitted
      rcases exists_read next (keepsFresh _ (fresh _ fun other member =>
        below other member packet (List.mem_singleton.mpr rfl))) admitted with ⟨reader, taken⟩
      have ran : after aead role cipher point (readers ++ [reader]) =
          ((after aead role cipher point readers).prepare cipher point).took packet state :=
        (run_append _ _ _ _).trans taken
      refine ⟨readers ++ [reader], ?_, ?_⟩
      · rw [ran, took, same]
      · intro seq newer
        rw [ran]
        rintro last ⟨⟩
        exact newer packet (by simp)

/-- A key that opens nothing adds nothing to what was accepted before the session. -/
theorem Sound.length_le (sound : listener.Sound aead role cipher point)
    (keyless : ∀ nonce aad ciphertext,
      aead.openInPlace cipher.inboundKey nonce aad ciphertext = none) :
    listener.accepted.length ≤ point := by
  by_contra more
  have inside : point < listener.accepted.length := Nat.not_le.mp more
  have found := List.getElem?_eq_getElem inside
  generalize listener.accepted[point] = packet at found
  have readable := sound.readable point packet found
  rw [sessionAt, if_neg (Nat.lt_irrefl point)] at readable
  cases readable with
  | opened _ _ opens =>
      rw [keyless] at opens
      cases opens

/-- Fewer packets than the handshake has are part of it, or part of it and one packet that
gives it up. -/
theorem exists_handshake_of_led {packets : List RawPacket} (led : Led role packets state)
    (few : packets.length ≤ role.handshake.length) :
    ∃ number, number ≤ packets.length ∧
      (packets.map (·.header.packetType) = (role.handshake.take number).map PacketType.asU8 ∨
        ∃ last, (last = .error ∨ last = .authReject) ∧ state = .closing ∧
          packets.map (·.header.packetType) =
            (role.handshake.take number ++ [last]).map PacketType.asU8) := by
  rcases led with ⟨packetTypes, spelled, accepted⟩
  have length := congrArg List.length spelled
  rw [List.length_map, List.length_map] at length
  rw [← length] at few ⊢
  rw [← spelled]
  cases Course.of_receiveAll accepted with
  | handshaking number within =>
      refine ⟨number, ?_, .inl rfl⟩
      rw [List.length_take]
      exact Nat.le_min.mpr ⟨Nat.le_refl _, within.le⟩
  | failed number within =>
      refine ⟨number, ?_, .inr ⟨_, .inl rfl, rfl, rfl⟩⟩
      rw [List.length_append, List.length_take, Nat.min_eq_left within.le]
      exact Nat.le_add_right _ _
  | rejected client =>
      refine ⟨3, ?_, .inr ⟨_, .inr rfl, rfl, rfl⟩⟩
      rw [client]
      decide
  | established exchanged =>
      rw [List.length_append] at few
      rw [List.length_eq_zero_iff.mp (by omega : exchanged.length = 0), List.append_nil]
      refine ⟨role.handshake.length, Nat.le_refl _, .inl ?_⟩
      rw [List.take_length]
  | ended exchanged =>
      rw [List.length_append, List.length_append, List.length_singleton] at few
      omega

end

end Listener

/-- Let a side set its session once it has accepted the given number of packets. It can be
made to accept exactly the lists of packets with growing numbers that its state machine
accepts, each in the clear before the session and opened by the inbound key afterwards. If
that key opens nothing and the session is set within the handshake, it accepts no more
packets than those before the session: part of the handshake, or part of it and one packet
that gives it up. -/
theorem acceptance_exact (aead : Aead) (role : Role) (cipher : SessionCipher) (point : Nat) :
    (∀ packets : List RawPacket,
      (∃ readers, (Listener.after aead role cipher point readers).accepted = packets) ↔
        (packets.Pairwise fun earlier later =>
          earlier.header.sequence < later.header.sequence) ∧
        (∃ state, Listener.Led role packets state) ∧
        ∀ (index : Nat) (packet : RawPacket), packets[index]? = some packet →
          packet.Readable aead (Listener.sessionAt cipher point index)) ∧
    ((∀ nonce aad ciphertext,
        aead.openInPlace cipher.inboundKey nonce aad ciphertext = none) →
      point ≤ role.handshake.length → ∀ readers,
        let reached := Listener.after aead role cipher point readers
        ∃ number, number ≤ point ∧
          (reached.accepted.map (·.header.packetType) =
              (role.handshake.take number).map PacketType.asU8 ∨
            ∃ last, (last = .error ∨ last = .authReject) ∧ reached.state = .closing ∧
              reached.accepted.map (·.header.packetType) =
                (role.handshake.take number ++ [last]).map PacketType.asU8)) := by
  constructor
  · intro packets
    constructor
    · intro reachable
      rcases reachable with ⟨readers, rfl⟩
      have sound := @Listener.Sound.after aead role cipher point readers
      exact ⟨sound.increasing, ⟨_, sound.led⟩, sound.readable⟩
    · intro fits
      rcases fits with ⟨increasing, ⟨state, led⟩, readable⟩
      rcases Listener.exists_after increasing led readable with ⟨readers, accepted, _⟩
      exact ⟨readers, accepted⟩
  · intro keyless early readers
    have sound := @Listener.Sound.after aead role cipher point readers
    have few := sound.length_le keyless
    rcases Listener.exists_handshake_of_led sound.led (few.trans early) with
      ⟨number, within, shape⟩
    exact ⟨number, within.trans few, shape⟩

/-! A server that sets its session after the hello, before a network without keys. -/

def plainHello : RawPacket where
  header := .new PacketType.clientHello.asU8 0 0 5
  payload := []

theorem plain_hello_accepted :
    (∃ readers, (Listener.after (.ofCalls []) .server
        ⟨.replicate 32 1, .replicate 32 2⟩ 1 readers).accepted = [plainHello]) ∧
      ∀ readers,
        let reached := Listener.after (.ofCalls []) .server
          ⟨.replicate 32 1, .replicate 32 2⟩ 1 readers
        ∃ number, number ≤ 1 ∧
          (reached.accepted.map (·.header.packetType) =
              (Role.server.handshake.take number).map PacketType.asU8 ∨
            ∃ last, (last = .error ∨ last = .authReject) ∧ reached.state = .closing ∧
              reached.accepted.map (·.header.packetType) =
                (Role.server.handshake.take number ++ [last]).map PacketType.asU8) := by
  have exact := acceptance_exact (.ofCalls []) .server ⟨.replicate 32 1, .replicate 32 2⟩ 1
  refine ⟨(exact.1 [plainHello]).mpr ⟨List.pairwise_singleton _ _, ?_, ?_⟩, exact.2 ?_ (by decide)⟩
  · exact ⟨.awaitingClientFinish, [.clientHello], rfl, rfl⟩
  · intro index packet found
    cases index with
    | zero =>
        cases found
        exact @RawPacket.Readable.plain _ .clientHello 0 5 [] rfl (Nat.zero_le _)
    | succ index => cases found
  · intro nonce aad ciphertext
    rfl

end ChatixProtocol
