import ChatixProtocol.Channel.Network

/-! # A lossy channel and nothing else

The network can make a receiver return any subsequence of what its peer sealed for
it, by losing frames. With a cipher that opens exactly what was sealed, it can make
the receiver return nothing but these.
-/

namespace ChatixProtocol

open Execution

/-- Under this key, exactly the sealed plaintexts are opened. -/
def Aead.OpensExactlySealedUnder (opening : Aead) (key : FixedBytes 32) (calls : List SealCall) :
    Prop :=
  ∀ nonce aad ciphertext plaintext,
    opening.openInPlace key nonce aad ciphertext = some plaintext ↔
      { key, nonce, aad, plaintext, sealed := some ciphertext } ∈ calls

/-- The ciphertexts of the cipher are longer than the plaintexts by the tag. -/
def Aead.AppendsTag (sealing : Aead) : Prop :=
  ∀ ⦃key nonce aad plaintext ciphertext⦄,
    sealing.sealInPlaceAppendTag key nonce aad plaintext = some ciphertext →
      ciphertext.length = plaintext.length + gcmTagLen

/-- Payloads are within the limit of their type. -/
def NetworkEvent.Fits {ι : Type} : NetworkEvent ι → Prop
  | .write _ sealing _ packetType _ payload =>
      sealing.AppendsTag ∧ payload.length ≤ packetType.maxPayloadSize.toNat
  | _ => True

/-! ## What was sealed can be read -/

/-- A call on record sealed the transfer, and its frame is within its type's ceiling. -/
structure Transfer.OnRecord (calls : List SealCall) (transfer : Transfer) (packetType : PacketType)
    (ciphertext : Bytes) : Prop where
  known : transfer.packet.header.packetType = packetType.asU8
  marked : PacketHeader.marksEncrypted transfer.packet.header.flags = true
  fits : transfer.packet.payload.length ≤ packetType.maxPayloadSize.toNat
  tagged : ciphertext.length = transfer.packet.payload.length + gcmTagLen
  carries : transfer.Carries ciphertext
  recorded : transfer.sealCall ciphertext ∈ calls

namespace Party

variable {opening : Aead} {party : Party} {transfer : Transfer} {cipher : SessionCipher}
  {calls : List SealCall} {packetType : PacketType} {ciphertext : Bytes}

/-- Served a transfer's frame, a party with its key returns the transfer. -/
theorem read_of_onRecord (onRecord : transfer.OnRecord calls packetType ciphertext)
    (secured : party.codec.session = some cipher) (key : transfer.key = cipher.inboundKey)
    (exactly : opening.OpensExactlySealedUnder cipher.inboundKey calls)
    (fresh : party.codec.IsFresh transfer.sequence) (ending : IoError) :
    party.read opening ⟨transfer.frame, ending⟩ = { party with
      codec := party.codec.received transfer.sequence
      received := party.received ++ [transfer] } := by
  let header := PacketHeader.new packetType.asU8 transfer.packet.header.flags
    (UInt32.ofNat ciphertext.length) transfer.sequence
  have bound := packetType.maxPayloadSize_le
  have fits := onRecord.fits
  have tagged := onRecord.tagged
  have tag : gcmTagLen = 16 := rfl
  have complete : ciphertext.length = (UInt32.ofNat ciphertext.length).toNat :=
    (UInt32.toNat_ofNat_of_lt' (by unfold UInt32.size; omega)).symm
  have frame : transfer.frame = header.toBytes.bytes ++ (ciphertext ++ []) := by
    rw [List.append_nil, onRecord.carries.frame, onRecord.known]
  have admitted : PacketCodec.admitHeader party.codec.session header = .ok () := by
    have allowed : ciphertext.length ≤ packetType.maxPayloadSize.toNat +
        PacketHeader.tagLen transfer.packet.header.flags := by
      rw [PacketHeader.tagLen, if_pos onRecord.marked]
      omega
    refine PacketCodec.admitHeader_new.mpr ⟨fun _ => onRecord.marked, ?_⟩
    rwa [← complete]
  have opens : PacketCodec.openFrame opening party.codec.session header ciphertext =
      .ok transfer.packet := by
    refine PacketCodec.openFrame_eq_ok_iff.mpr (.inr ⟨onRecord.marked,
      transfer.packet.payload, ?_, ?_⟩)
    · rw [PacketCodec.openedPayload, secured, Option.bind_some]
      apply (exactly _ _ _ _).mpr
      have recorded := onRecord.recorded
      rw [Transfer.sealCall, onRecord.known, key] at recorded
      exact recorded
    · have built := onRecord.carries.header
      rw [onRecord.known] at built
      rcases transfer with ⟨_, ⟨packetHeader, payload⟩, _⟩
      exact congrArg (RawPacket.mk · payload) built
  have ran : PacketCodec.readPacket opening
      ⟨party.codec, ⟨header.toBytes.bytes ++ (ciphertext ++ []), ending⟩⟩ = _ :=
    PacketCodec.readPacket_of_frame [] admitted fresh complete
  rw [← frame, opens] at ran
  rw [read, ran, secured]
  simp only [List.length_nil, Nat.sub_zero, List.take_length, ← key]
  rfl

theorem read_all (exactly : opening.OpensExactlySealedUnder cipher.inboundKey calls)
    {transfers : List Transfer}
    (onRecord : ∀ transfer ∈ transfers, transfer.key = cipher.inboundKey ∧
      ∃ packetType ciphertext, transfer.OnRecord calls packetType ciphertext)
    (increasing : Increasing (·.sequence.toNat) transfers)
    (secured : party.codec.session = some cipher)
    (fresh : ∀ transfer ∈ transfers, party.codec.IsFresh transfer.sequence) :
    (run (fun party reader => party.read opening reader) party
      (transfers.map fun transfer => ⟨transfer.frame, .earlyEof⟩)).received =
        party.received ++ transfers := by
  induction transfers generalizing party with
  | nil => exact (List.append_nil _).symm
  | cons first transfers induction =>
      rcases onRecord first List.mem_cons_self with ⟨key, packetType, ciphertext, recorded⟩
      have firstRead := read_of_onRecord recorded secured key exactly
        (fresh first List.mem_cons_self) .earlyEof
      rw [List.map_cons, run_cons, firstRead]
      have newer := (List.pairwise_cons.mp increasing).1
      let next : Party := { party with
        codec := party.codec.received first.sequence
        received := party.received ++ [first] }
      have nextFresh : ∀ transfer ∈ transfers, next.codec.IsFresh transfer.sequence := by
        intro transfer member last known
        cases known
        exact UInt64.lt_iff_toNat_lt.mpr (newer transfer member)
      have nextSecured : next.codec.session = some cipher := secured
      have later := induction
        (fun transfer member => onRecord transfer (List.mem_cons_of_mem _ member))
        (List.pairwise_cons.mp increasing).2 nextSecured nextFresh
      rw [later, List.append_assoc, List.singleton_append]

/-- Reads keep the session and the record of what was sent, and return what came under
the session's key. -/
theorem run_reads_frame (opening : Aead) (secured : party.codec.session = some cipher)
    (nothing : party.received = []) (readers : List Reader) :
    let reached := run (fun party reader => party.read opening reader) party readers
    reached.sent = party.sent ∧
      ∀ transfer ∈ reached.received, transfer.key = cipher.inboundKey := by
  refine (run_invariant (fun reached : Party => reached.codec.session = some cipher ∧
    reached.sent = party.sent ∧ ∀ transfer ∈ reached.received, transfer.key = cipher.inboundKey)
    ?_ ⟨secured, rfl, by simp [nothing]⟩ readers).2
  intro reached reader holds
  rcases holds with ⟨session, sent, keys⟩
  have taken := read_step opening reader reached
  generalize reached.read opening reader = result at taken
  cases taken with
  | silent codec same => exact ⟨same.trans session, sent, keys⟩
  | @returned cipher' transfer ciphertext secured' key =>
      refine ⟨session, sent, ?_⟩
      intro other member
      rcases List.mem_append.mp member with earlier | newest
      · exact keys other earlier
      · rw [session] at secured'
        cases secured'
        rw [List.mem_singleton.mp newest, key]

end Party

/-! ## Runs -/

/-- Everything a party has sent is on record. -/
def Network.SentOnRecord {ι : Type} (network : Network ι) : Prop :=
  ∀ party, ∀ transfer ∈ (network.party party).sent,
    ∃ packetType ciphertext, transfer.OnRecord network.calls packetType ciphertext

namespace Network

variable {ι : Type} [DecidableEq ι] {opening : Aead} {network : Network ι}

theorem sentOnRecord_set (onRecord : network.SentOnRecord) {acting : ι} {party : Party}
    {calls : List SealCall} (grows : network.calls ⊆ calls)
    (here : ∀ transfer ∈ party.sent, transfer ∈ (network.party acting).sent ∨
      ∃ packetType ciphertext, transfer.OnRecord calls packetType ciphertext) :
    SentOnRecord { network.set acting party with calls } := by
  have kept : ∀ owner, ∀ transfer ∈ (network.party owner).sent,
      ∃ packetType ciphertext, transfer.OnRecord calls packetType ciphertext := by
    intro owner transfer member
    rcases onRecord owner transfer member with ⟨packetType, ciphertext, recorded⟩
    exact ⟨packetType, ciphertext, { recorded with recorded := grows recorded.recorded }⟩
  intro owner transfer member
  change transfer ∈ ((network.set acting party).party owner).sent at member
  by_cases same : owner = acting
  · subst same
    rw [set_same] at member
    exact (here transfer member).elim (kept owner transfer) id
  · rw [set_other same] at member
    exact kept owner transfer member

theorem sentOnRecord_step (onRecord : network.SentOnRecord) (event : NetworkEvent ι)
    (fits : event.Fits) : (network.step opening event).SentOnRecord := by
  cases event with
  | establish acting outboundKey inboundKey =>
      exact sentOnRecord_set onRecord (List.Subset.refl _) fun _ => .inl
  | write acting sealing writer packetType flags payload =>
      have written := Party.write_step sealing packetType flags payload writer network.calls
        (network.party acting)
      rw [step]
      generalize (network.party acting).write sealing packetType flags payload writer
        network.calls = result at written
      cases written with
      | silent =>
          exact sentOnRecord_set onRecord (List.subset_append_left _ _) fun _ => .inl
      | @sent cipher transfer ciphertext notLast secured key packet carries sealed =>
          refine sentOnRecord_set onRecord (List.subset_append_left _ _) ?_
          intro other member
          rcases List.mem_append.mp member with earlier | newest
          · exact .inl earlier
          · rw [List.mem_singleton.mp newest]
            refine .inr ⟨packetType, ciphertext, ?_⟩
            exact {
              known := by rw [packet]; rfl
              marked := by
                rw [packet]
                exact PacketHeader.marksEncrypted_or flags
              fits := by
                rw [packet]
                exact fits.2
              tagged := by
                rw [packet]
                exact fits.1 sealed
              carries := carries
              recorded := List.mem_append_right _ (List.mem_singleton.mpr rfl)
            }
  | read acting reader =>
      have taken := Party.read_step opening reader (network.party acting)
      rw [step]
      generalize (network.party acting).read opening reader = result at taken
      cases taken with
      | silent => exact sentOnRecord_set onRecord (List.Subset.refl _) fun _ => .inl
      | returned => exact sentOnRecord_set onRecord (List.Subset.refl _) fun _ => .inl

theorem after_sentOnRecord (opening : Aead) {events : List (NetworkEvent ι)}
    (fits : ∀ event ∈ events, event.Fits) : (after opening events).SentOnRecord := by
  refine run_invariant_of_mem SentOnRecord (fun network event member onRecord =>
    sentOnRecord_step onRecord event (fits event member)) ?_
  intro party transfer member
  cases member

theorem after_unread (opening : Aead) {events : List (NetworkEvent ι)} {receiver : ι}
    (unread : ∀ reader, .read receiver reader ∉ events) :
    ((after opening events).party receiver).codec.lastRecvSeq = none ∧
      ((after opening events).party receiver).received = [] := by
  refine run_invariant_of_mem (fun network : Network ι =>
    (network.party receiver).codec.lastRecvSeq = none ∧
      (network.party receiver).received = []) ?_ ⟨rfl, rfl⟩
  intro network event member nothing
  cases event with
  | establish acting outboundKey inboundKey =>
      by_cases same : receiver = acting
      · subst same
        rw [step, set_same]
        exact nothing
      · rw [step, set_other same]
        exact nothing
  | write acting sealing writer packetType flags payload =>
      have written := Party.write_step sealing packetType flags payload writer network.calls
        (network.party acting)
      rw [step]
      generalize (network.party acting).write sealing packetType flags payload writer
        network.calls = result at written
      dsimp only
      by_cases same : receiver = acting
      · subst same
        rw [set_same]
        cases written with
        | silent session counter window => exact ⟨window.trans nothing.1, nothing.2⟩
        | sent => exact nothing
      · rw [set_other same]
        exact nothing
  | read acting reader =>
      have different : receiver ≠ acting := by
        rintro rfl
        exact unread reader member
      rw [step, set_other different]
      exact nothing

theorem run_reads (network : Network ι) (receiver : ι) (readers : List Reader) :
    run (step opening) network (readers.map (.read receiver)) =
      network.set receiver (run (fun party reader => party.read opening reader)
        (network.party receiver) readers) := by
  induction readers generalizing network with
  | nil => simp [set]
  | cons reader readers induction =>
      rw [List.map_cons, run_cons, induction, run_cons, step, set_same]
      simp [set]

theorem after_reads (opening : Aead) (events : List (NetworkEvent ι)) (receiver : ι)
    (readers : List Reader) :
    after opening (events ++ readers.map (.read receiver)) =
      (after opening events).set receiver (run (fun party reader => party.read opening reader)
        ((after opening events).party receiver) readers) := by
  rw [after, run_append]
  exact run_reads _ receiver readers

section

variable {events : List (NetworkEvent ι)} {receiver sender : ι} {cipher : SessionCipher}

theorem received_of_reads
    (secured : ((after opening events).party receiver).codec.session = some cipher)
    (nothing : ((after opening events).party receiver).received = [])
    (owned : ∀ party outboundKey inboundKey,
      .establish party outboundKey inboundKey ∈ events →
        outboundKey = cipher.inboundKey → party = sender)
    (exactly : opening.OpensExactlySealedUnder cipher.inboundKey (after opening events).calls)
    (readers : List Reader) :
    ((after opening (events ++ readers.map (.read receiver))).party receiver).received.Sublist
      (((after opening events).party sender).sent.filter
        fun transfer => decide (transfer.key = cipher.inboundKey)) := by
  have frame := Party.run_reads_frame opening secured nothing readers
  have ownedByKey : ∀ party used, NetworkEvent.schedule (events ++ readers.map (.read receiver))
      party used → decide (used.outboundKey = cipher.inboundKey) = true → party = sender := by
    intro party used scheduled same
    rcases List.mem_append.mp scheduled with early | late
    · exact owned party _ _ early (of_decide_eq_true same)
    · rcases List.mem_map.mp late with ⟨_, _, impossible⟩
      cases impossible
  have opensOnly : ∀ key, decide (key = cipher.inboundKey) = true →
      opening.OpensOnlySealedUnder key
        (after opening (events ++ readers.map (.read receiver))).calls := by
    intro key covered nonce aad ciphertext plaintext opens
    have same : key = cipher.inboundKey := of_decide_eq_true covered
    rw [same] at opens ⊢
    rw [after_reads]
    exact (exactly _ _ _ _).mp opens
  have contained := (Sound.after opening
    (events ++ readers.map (.read receiver))).sublist_of_owned receiver ownedByKey opensOnly
  rw [after_reads, set_same] at contained ⊢
  rw [List.filter_eq_self.mpr fun transfer member =>
    decide_eq_true (frame.2 transfer member)] at contained
  by_cases same : sender = receiver
  · subst same
    rwa [set_same, frame.1] at contained
  · rwa [set_other same] at contained

theorem reads_of_sublist
    (secured : ((after opening events).party receiver).codec.session = some cipher)
    (unseen : ((after opening events).party receiver).codec.lastRecvSeq = none)
    (exactly : opening.OpensExactlySealedUnder cipher.inboundKey (after opening events).calls)
    (fits : ∀ event ∈ events, event.Fits) {part : List Transfer}
    (contained : part.Sublist (((after opening events).party sender).sent.filter
      fun transfer => decide (transfer.key = cipher.inboundKey))) :
    ((after opening (events ++ (part.map fun transfer =>
        Reader.mk transfer.frame .earlyEof).map (.read receiver))).party receiver).received =
      ((after opening events).party receiver).received ++ part := by
  have sentIncreasing : Increasing (·.sequence.toNat) ((after opening events).party sender).sent :=
    increasing_map_iff.mp ((Sound.after opening events).parties sender).numbered.sentIncreasing
  have whole := contained.trans List.filter_sublist
  have onRecord : ∀ transfer ∈ part, transfer.key = cipher.inboundKey ∧
      ∃ packetType ciphertext, transfer.OnRecord (after opening events).calls
        packetType ciphertext := by
    intro transfer member
    rcases List.mem_filter.mp (contained.subset member) with ⟨sent, key⟩
    exact ⟨of_decide_eq_true key, after_sentOnRecord opening fits sender transfer sent⟩
  have fresh : ∀ transfer ∈ part,
      ((after opening events).party receiver).codec.IsFresh transfer.sequence :=
    fun transfer _ => PacketCodec.isFresh_of_none unseen
  rw [after_reads, set_same, Party.read_all exactly onRecord
    (List.Pairwise.sublist whole sentIncreasing) secured fresh]

end

end Network

/-! ## The guarantee -/

/-- After any run in which all writes stay within the limits, a receiver that has not
read yet and opens under a key that one sender seals with can be made to return
exactly the subsequences of what that sender sealed under the key. -/
theorem returnable_iff_sublist {ι : Type} [DecidableEq ι] (opening : Aead)
    (events : List (NetworkEvent ι)) (receiver sender : ι) (cipher : SessionCipher)
    (secured : ((Network.after opening events).party receiver).codec.session = some cipher)
    (unread : ∀ reader, NetworkEvent.read receiver reader ∉ events)
    (owned : ∀ party outboundKey inboundKey,
      NetworkEvent.establish party outboundKey inboundKey ∈ events →
        outboundKey = cipher.inboundKey → party = sender)
    (exactly : opening.OpensExactlySealedUnder cipher.inboundKey
      (Network.after opening events).calls)
    (fits : ∀ event ∈ events, event.Fits) (result : List Transfer) :
    (∃ readers : List Reader, ((Network.after opening
        (events ++ readers.map (.read receiver))).party receiver).received = result) ↔
      result.Sublist (((Network.after opening events).party sender).sent.filter
        fun transfer => decide (transfer.key = cipher.inboundKey)) := by
  have nothing := Network.after_unread opening unread
  constructor
  · rintro ⟨readers, rfl⟩
    exact Network.received_of_reads secured nothing.2 owned exactly readers
  · intro contained
    have returned := Network.reads_of_sublist secured nothing.1 exactly fits contained
    rw [nothing.2, List.nil_append] at returned
    exact ⟨_, returned⟩

/-! Two pings under one key, of which the network loses the first. -/

def secondPingCall : SealCall where
  key := .replicate 32 1
  nonce := seqNonce 2
  aad := [20, 1]
  plaintext := List.replicate 8 9
  sealed := some (List.replicate 8 9 ++ List.replicate 16 0)

def twoPings : List (NetworkEvent Role) :=
  let cipher := Aead.ofCalls [pingCall, secondPingCall]
  [.establish .client (.replicate 32 1) (.replicate 32 2),
    .establish .server (.replicate 32 2) (.replicate 32 1),
    .write .client cipher PacketCodec.openStream .ping 0 (List.replicate 8 7),
    .write .client cipher PacketCodec.openStream .ping 0 (List.replicate 8 9)]

def afterTwoPings : Network Role :=
  .after (.ofCalls [pingCall, secondPingCall]) twoPings

theorem pingCalls_appendTag : (Aead.ofCalls [pingCall, secondPingCall]).AppendsTag := by
  intro key nonce aad plaintext ciphertext sealed
  rcases Option.bind_eq_some_iff.mp sealed with ⟨call, found, result⟩
  have matching := List.find?_some found
  simp only [decide_eq_true_eq] at matching
  rw [← matching.2.2.2]
  rcases List.mem_pair.mp (List.mem_of_find?_eq_some found) with rfl | rfl
  · cases result
    rfl
  · cases result
    rfl

theorem pingCalls_openExactly : (Aead.ofCalls [pingCall, secondPingCall]).OpensExactlySealedUnder
    (.replicate 32 1) [pingCall, secondPingCall] := by
  intro nonce aad ciphertext plaintext
  refine ⟨Aead.mem_of_openInPlace_ofCalls, ?_⟩
  intro recorded
  rcases List.mem_pair.mp recorded with same | same
  · cases same
    decide
  · cases same
    decide

theorem second_ping_returnable :
    (∃ readers : List Reader, ((Network.after (.ofCalls [pingCall, secondPingCall])
        (twoPings ++ readers.map (.read .server))).party .server).received =
          (afterTwoPings.party .client).sent.drop 1) ↔
      ((afterTwoPings.party .client).sent.drop 1).Sublist ((afterTwoPings.party .client).sent.filter
        fun transfer => decide (transfer.key = .replicate 32 1)) := by
  refine returnable_iff_sublist (.ofCalls [pingCall, secondPingCall]) twoPings .server .client
    ⟨.replicate 32 2, .replicate 32 1⟩ (by decide) (by simp [twoPings]) ?_ ?_ ?_ _
  · intro party outboundKey inboundKey member same
    cases party with
    | client => rfl
    | server =>
        simp only [twoPings, List.mem_cons, NetworkEvent.establish.injEq, reduceCtorEq,
          false_and, true_and, false_or, or_false, List.not_mem_nil] at member
        rw [member.1] at same
        exact absurd same (by decide)
  · have recorded : (Network.after (.ofCalls [pingCall, secondPingCall]) twoPings).calls =
        [pingCall, secondPingCall] := by decide
    rw [recorded]
    exact pingCalls_openExactly
  · have small : 8 ≤ PacketType.ping.maxPayloadSize.toNat := by decide
    intro event member
    simp only [twoPings, List.mem_cons, List.not_mem_nil, or_false] at member
    rcases member with rfl | rfl | rfl | rfl
    · trivial
    · trivial
    · exact ⟨pingCalls_appendTag, small⟩
    · exact ⟨pingCalls_appendTag, small⟩

end ChatixProtocol
