import ChatixProtocol.EndToEnd.SafetyComparison

/-! # What the network can do with written messages

The end-to-end layer numbers nothing. Between users with genuine keys, the network can
make the reader accept any list of the messages written to it, in any order and any
number of times, and nothing else.
-/

namespace ChatixProtocol

open Execution

namespace Correspondence

section

variable {ι : Type} [DecidableEq ι] {suite : E2eSuite} {users : ι → E2eUser}

theorem own_map (user : ι) (received : List CorrespondentEvent) :
    own user (received.map (user, ·)) = received := by
  induction received with
  | nil => rfl
  | cons event received induction =>
      simp only [own, List.map_cons] at induction ⊢
      rw [List.filter_cons_of_pos (by simp), List.map_cons, induction]

omit [DecidableEq ι] in
/-- The network can hand over a call's message whenever it likes. -/
theorem exists_delivery {state : Correspondence ι} {listener speaker : ι}
    (genuine : ∀ user, (users user).key = (users user).secret.publicKey suite)
    (sound : (state speaker).Sound suite (users speaker))
    (commutes : suite.x25519.Commutes) (inverts : suite.mlKem.Inverts)
    (opens : suite.aead.Inverts)
    (signs : ∀ message ∈ signedBy suite (state.calls speaker),
      suite.dsa.verifyEncoded (users speaker).key.dsaVerifyingKey message
        (suite.dsa.sign (users speaker).secret.dsaSigningSeed message) = .ok ())
    (short : (users speaker).name.utf8ByteSize ≤ u16Max) {call : E2eCall}
    (made : call ∈ state.calls speaker) (measured : minBlobLen + call.plaintext.length ≤ u32Max)
    (toPk : call.recipientX25519Pk = (users listener).key.x25519Public)
    (toEk : call.recipientMlKemEk = (users listener).key.mlKemEk) :
    ∃ bytes, ∀ correspondent : Correspondent,
      correspondent.pinned (users speaker).name = some (users speaker).key →
      correspondent.step suite (users listener) (.receiveLive bytes) =
        { correspondent with
          accepted := correspondent.accepted ++ [((users speaker).name, call.plaintext)] } := by
  rcases List.mem_map.mp made with ⟨⟨contact, sent⟩, member, same⟩
  cases (same : sent = call)
  rcases sound.written _ member with ⟨_, _, _, _, blob, encrypted⟩
  rcases E2eCall.encryptAndSign_eq_ok_iff.mp encrypted with ⟨part, sealed, rfl⟩
  rcases E2eCall.sealContent_eq_ok_iff.mp sealed with ⟨exchange, contentKey, encrypts⟩
  have verified := signs part.bytes (mem_signedBy_iff.mpr ⟨_, made, part, sealed, rfl⟩)
  rw [genuine listener] at toPk toEk
  have decrypted := encrypts.accepted_signed commutes inverts opens toPk toEk verified
  have tagged := opens.length_sealed encrypts.sealed
  have encodes : ∃ bytes, DeliverMessagePayload.encode ⟨0, (users speaker).name, part.bytes ++
      (suite.dsa.sign (users speaker).secret.dsaSigningSeed part.bytes).bytes⟩ = .ok bytes := by
    refine (encodeMessagePayload_failsIff _ _ _).2.mpr ?_
    have split : minBlobLen = aesNonceEnd + gcmTagLen + mlDsa65SigSize := rfl
    dsimp only
    rw [List.length_append, part.length_bytes, FixedBytes.length_bytes]
    omega
  rcases encodes with ⟨bytes, encoded⟩
  exact ⟨bytes, fun correspondent known => Correspondent.step_receiveLive encoded known decrypted⟩

end

end Correspondence

/-- What single receptions add to a history, some list of receptions adds. -/
theorem Correspondent.exists_received {suite : E2eSuite} {user : E2eUser} {name : String}
    {key : E2ePublicKey} {plaintexts : List Bytes}
    (deliveries : ∀ plaintext ∈ plaintexts, ∃ bytes, ∀ correspondent : Correspondent,
      correspondent.pinned name = some key →
      correspondent.step suite user (.receiveLive bytes) =
        { correspondent with accepted := correspondent.accepted ++ [(name, plaintext)] })
    (start : Correspondent) (known : start.pinned name = some key) :
    ∃ received : List CorrespondentEvent,
      (run (step suite user) start received).accepted =
        start.accepted ++ plaintexts.map (name, ·) := by
  induction plaintexts generalizing start with
  | nil => exact ⟨[], by simp⟩
  | cons plaintext plaintexts induction =>
      rcases deliveries plaintext List.mem_cons_self with ⟨bytes, delivers⟩
      rcases induction (fun later member => deliveries later (List.mem_cons_of_mem _ member))
        { start with accepted := start.accepted ++ [(name, plaintext)] } known with
        ⟨received, accepts⟩
      refine ⟨.receiveLive bytes :: received, ?_⟩
      rw [run_cons, delivers start known, accepts, List.append_assoc]
      rfl

namespace Correspondence

/-- After any run, if a user has pinned a contact's genuine key, the network can make it
accept from that contact exactly the lists of plaintexts that the contact has written to
the user's keys: in any order, with any repetitions, and no others. Content keys do not
collide, and an encapsulation to another key decapsulates to another secret. -/
theorem redeliverable_iff {ι : Type} [DecidableEq ι] (suite : E2eSuite)
    (commutes : suite.x25519.Commutes) (inverts : suite.mlKem.Inverts)
    (opens : suite.aead.Inverts) (users : ι → E2eUser)
    (generated : ∀ user, ∃ randomness, generateE2eKeypair suite randomness =
      .ok ((users user).secret, (users user).key))
    (before : List (ι × CorrespondentEvent)) (listener speaker : ι)
    (pinned : (after suite users before listener).pinned (users speaker).name =
      some (users speaker).key)
    (signs : suite.dsa.VerifiesExactly (users speaker).secret.dsaSigningSeed
      (signedBy suite ((after suite users before).calls speaker)))
    (opensOnly : OpensOnlyAsSealed suite ((after suite users before).calls speaker))
    (separate : ∀ call ∈ (after suite users before).calls speaker,
      ¬call.CollidesFor suite (users listener).secret)
    (decapsulates : ∀ call ∈ (after suite users before).calls speaker,
      call.SharesWith suite (users listener).secret →
        call.recipientMlKemEk = (users listener).key.mlKemEk)
    (short : (users speaker).name.utf8ByteSize ≤ u16Max)
    (measured : ∀ call ∈ (after suite users before).calls speaker,
      minBlobLen + call.plaintext.length ≤ u32Max) (plaintexts : List Bytes) :
    (∃ received : List CorrespondentEvent,
      (after suite users (before ++ received.map (listener, ·)) listener).accepted =
        (after suite users before listener).accepted ++
          plaintexts.map ((users speaker).name, ·)) ↔
    ∀ plaintext ∈ plaintexts, ∃ call ∈ (after suite users before).calls speaker,
      call.plaintext = plaintext ∧
        call.recipientX25519Pk = (users listener).key.x25519Public ∧
        call.recipientMlKemEk = (users listener).key.mlKemEk := by
  have genuine := E2eUser.keys_of_generated generated
  constructor
  · intro received plaintext member
    rcases received with ⟨received, accepts⟩
    have sound : (after suite users (before ++ received.map (listener, ·)) listener).Sound suite
        (users listener) := after_sound _ listener
    have heard : ((users speaker).name, plaintext) ∈
        (after suite users (before ++ received.map (listener, ·)) listener).accepted := by
      rw [accepts]
      exact List.mem_append_right _ (List.mem_map_of_mem member)
    rcases sound.accepted _ heard with ⟨key, known, blob, decrypted⟩
    cases (pinned_append pinned).symm.trans known
    rw [genuine speaker] at decrypted
    rcases accepted_was_encrypted signs.only opensOnly decrypted with
      ⟨call, made, samePlaintext, shares | collides⟩
    · refine ⟨call, made, samePlaintext, ?_, decapsulates call made shares⟩
      rw [genuine listener]
      exact shares.recipientX25519Pk
    · exact absurd collides (separate call made)
  · intro written
    have signed : ∀ message ∈ signedBy suite ((after suite users before).calls speaker),
        suite.dsa.verifyEncoded (users speaker).key.dsaVerifyingKey message
          (suite.dsa.sign (users speaker).secret.dsaSigningSeed message) = .ok () := by
      rw [genuine speaker]
      exact signs.signs
    have deliveries : ∀ plaintext ∈ plaintexts, ∃ bytes, ∀ correspondent : Correspondent,
        correspondent.pinned (users speaker).name = some (users speaker).key →
        correspondent.step suite (users listener) (.receiveLive bytes) =
          { correspondent with
            accepted := correspondent.accepted ++ [((users speaker).name, plaintext)] } := by
      intro plaintext member
      rcases written plaintext member with ⟨call, made, rfl, toPk, toEk⟩
      exact exists_delivery genuine (after_sound before speaker) commutes inverts opens signed
        short made (measured call made) toPk toEk
    rcases Correspondent.exists_received deliveries _ pinned with ⟨received, accepts⟩
    refine ⟨received, ?_⟩
    rw [after_append, own_map]
    exact accepts

/-! After the meeting, the reader is made to accept the one message twice. -/

theorem sampleCall_separate :
    ¬sampleCall.CollidesFor (sampleSuite meetingDsa) (meetingUser false).secret := by
  intro collides
  rcases collides with ⟨exchange, contentKey, part, encrypts, different, _⟩
  rcases encrypts.unique (sampleCall_encrypts _) with ⟨rfl, rfl, rfl⟩
  have agreed : recipientExchange (sampleSuite meetingDsa)
      (meetingUser false).secret.x25519Secret (meetingUser false).secret.mlKemSeed
      samplePart.senderX25519Pk samplePart.mlKemCt = sampleExchange :=
    sampleCall_recipientExchange meetingDsa
  rw [agreed] at different
  exact different rfl

theorem meetingDsa_verifiesExactly :
    meetingDsa.VerifiesExactly (.replicate 32 7) [samplePart.bytes] where
  only := MlDsa.transparent_permits fun _ allowed =>
    List.contains_iff_mem.mp (Bool.and_eq_true_iff.mp allowed).2
  signs := by
    intro message member
    cases List.mem_singleton.mp member
    exact MlDsa.transparent_verifies (by simp)

theorem meeting_message_redelivered :
    ∃ received : List CorrespondentEvent,
      (after (sampleSuite meetingDsa) meetingUser (meeting ++ received.map (false, ·))
        false).accepted = [("b", [1, 2, 3]), ("b", [1, 2, 3])] := by
  have calls : (after (sampleSuite meetingDsa) meetingUser meeting).calls true = [sampleCall] :=
    calls_of_written (congrArg Correspondent.written writer_after_meeting)
  have redelivered := redeliverable_iff (sampleSuite meetingDsa) (sampleSuite_commutes _)
    (sampleSuite_inverts _) (sampleSuite_aead_inverts _) meetingUser meetingUser_generated meeting
    false true
  rw [calls, sampleCall_signed, reader_after_meeting] at redelivered
  refine (redelivered (Correspondent.new.pinned_pin "b" _) meetingDsa_verifiesExactly
    (sampleCall_opensOnly _) ?_ ?_ (by decide) ?_ [[1, 2, 3], [1, 2, 3]]).mpr ?_
  · intro call made
    cases List.mem_singleton.mp made
    exact sampleCall_separate
  · intro call made _
    cases List.mem_singleton.mp made
    rfl
  · intro call made
    cases List.mem_singleton.mp made
    decide
  · intro plaintext member
    refine ⟨sampleCall, List.mem_singleton.mpr rfl, ?_, rfl, rfl⟩
    rcases List.mem_cons.mp member with rfl | again
    · rfl
    · exact (List.mem_singleton.mp again).symm

end Correspondence

end ChatixProtocol
