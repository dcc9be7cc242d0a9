import ChatixProtocol.EndToEnd.Correspondents

/-! # Comparing safety numbers

Equal numbers on two screens say that both users have pinned each other's keys, up to
bundles whose fingerprints show the same digits. As pinned keys stay, one comparison
speaks for everything the two accept from each other in the whole run.
-/

namespace ChatixProtocol

open Execution

/-! ## Numbers -/

/-- Two bundles of a name whose fingerprints show the same digits. -/
def LookAlike (sha256 : Hash) (name : String) (shown real : E2ePublicKey) : Prop :=
  shown ≠ real ∧ chunkResidues (computeFingerprint sha256 name shown) =
    chunkResidues (computeFingerprint sha256 name real)

/-- Both screens show one number exactly if each side's view of either fingerprint shows
the same digits. -/
theorem safetyNumber_agree_iff {localId remoteId : String} (different : localId ≠ remoteId)
    {sha256 : Hash} {localKey remoteKey localSeen remoteSeen : E2ePublicKey} :
    safetyNumber sha256 localId localKey remoteId remoteSeen =
        safetyNumber sha256 remoteId remoteKey localId localSeen ↔
      chunkResidues (computeFingerprint sha256 localId localSeen) =
          chunkResidues (computeFingerprint sha256 localId localKey) ∧
        chunkResidues (computeFingerprint sha256 remoteId remoteSeen) =
          chunkResidues (computeFingerprint sha256 remoteId remoteKey) := by
  rw [safetyNumber_comm_of_ne different.symm, safetyNumber, safetyNumber]
  by_cases first : utf8Bytes localId ≤ utf8Bytes remoteId
  · rw [if_pos first, if_pos first, joinFingerprints_eq_iff]
    exact and_congr_left fun _ => eq_comm
  · rw [if_neg first, if_neg first, joinFingerprints_eq_iff, and_comm]
    exact and_congr_left fun _ => eq_comm

/-! ## Messages -/

/-- What verifies under a seed's key and opens is the plaintext of a call that the seed
signed, and the call was for whoever opened it. -/
theorem accepted_was_encrypted {suite : E2eSuite} {seed : FixedBytes 32} {calls : List E2eCall}
    (verifiesOnly : suite.dsa.VerifiesOnly seed (signedBy suite calls))
    (opensOnly : OpensOnlyAsSealed suite calls) {secret : E2eSecretKey} {blob plaintext : Bytes}
    (accepted : verifyAndDecrypt suite blob secret.x25519Secret secret.mlKemSeed
      (suite.dsa.verifyingKey seed) = .ok plaintext) :
    ∃ call ∈ calls, call.plaintext = plaintext ∧
      (call.SharesWith suite secret ∨ call.CollidesFor suite secret) := by
  rcases verifyAndDecrypt_eq_ok_iff.mp accepted with
    ⟨part, signature, _, _, verified, contentKey, derived, opened⟩
  rcases MlDsa.verifyEncoded_eq_ok_iff.mp verified with ⟨_, _, verifies⟩
  rcases mem_signedBy_iff.mp (verifiesOnly _ _ verifies) with ⟨call, made, sent, sealed, same⟩
  cases SignedPart.bytes_injective same
  exact ⟨call, made, plaintext_of_opened opensOnly made sealed derived opened⟩

namespace Correspondence

section

variable {ι : Type} (suite : E2eSuite) (users : ι → E2eUser) (state : Correspondence ι)

/-- The calls a user has made. -/
def calls (user : ι) : List E2eCall :=
  (state user).written.map (·.2)

/-- The listener has pinned the speaker's key. Whatever it accepted from the speaker, the
speaker wrote to a contact that has the listener's X25519 key, unless content keys
collide. -/
structure Hears (listener speaker : ι) : Prop where
  pinned : (state listener).pinned (users speaker).name = some (users speaker).key
  written : ∀ plaintext, ((users speaker).name, plaintext) ∈ (state listener).accepted →
    ∃ contact call, (contact, call) ∈ (state speaker).written ∧ call.plaintext = plaintext ∧
      ∃ key, (state speaker).pinned contact = some key ∧
        (key.x25519Public = (users listener).key.x25519Public ∨
          call.CollidesFor suite (users listener).secret)

/-- The listener has pinned another key that looks like the speaker's. -/
def Fooled (sha256 : Hash) (listener speaker : ι) : Prop :=
  ∃ key, (state listener).pinned (users speaker).name = some key ∧
    LookAlike sha256 (users speaker).name key (users speaker).key

variable {suite users state}

/-- A user who has pinned a speaker's key hears the speaker. -/
theorem Hears.of_pinned (sound : ∀ user, (state user).Sound suite (users user))
    (genuine : ∀ user, (users user).key = (users user).secret.publicKey suite)
    {listener speaker : ι}
    (pinned : (state listener).pinned (users speaker).name = some (users speaker).key)
    (verifiesOnly : suite.dsa.VerifiesOnly (users speaker).secret.dsaSigningSeed
      (signedBy suite (state.calls speaker)))
    (opensOnly : OpensOnlyAsSealed suite (state.calls speaker)) :
    Hears suite users state listener speaker where
  pinned := pinned
  written := by
    intro plaintext heard
    rcases (sound listener).accepted _ heard with ⟨key, known, blob, decrypted⟩
    cases pinned.symm.trans known
    rw [genuine speaker] at decrypted
    rcases accepted_was_encrypted verifiesOnly opensOnly decrypted with
      ⟨call, made, samePlaintext, toListener⟩
    rcases List.mem_map.mp made with ⟨⟨contact, _⟩, member, rfl⟩
    rcases (sound speaker).written _ member with ⟨contactKey, contactKnown, toPk, _⟩
    refine ⟨contact, _, member, samePlaintext, contactKey, contactKnown, ?_⟩
    rcases toListener with shares | collides
    · left
      rw [genuine listener, ← toPk]
      exact shares.recipientX25519Pk
    · exact .inr collides

/-- Users who see one number have pinned each other's keys, or keys that look like them. -/
theorem pinned_or_fooled {sha256 : Hash} {left right : ι}
    (distinct : (users left).name ≠ (users right).name) {number : String}
    (leftSees : (state left).safetyNumber sha256 (users left) (users right).name = some number)
    (rightSees : (state right).safetyNumber sha256 (users right) (users left).name =
      some number) :
    (Fooled users state sha256 left right ∨ Fooled users state sha256 right left) ∨
      ((state left).pinned (users right).name = some (users right).key ∧
        (state right).pinned (users left).name = some (users left).key) := by
  rcases Option.map_eq_some_iff.mp leftSees with ⟨seenRight, leftPinned, leftNumber⟩
  rcases Option.map_eq_some_iff.mp rightSees with ⟨seenLeft, rightPinned, rightNumber⟩
  rcases (safetyNumber_agree_iff distinct).mp (leftNumber.trans rightNumber.symm) with
    ⟨leftDigits, rightDigits⟩
  by_cases sameRight : seenRight = (users right).key
  · by_cases sameLeft : seenLeft = (users left).key
    · rw [sameRight] at leftPinned
      rw [sameLeft] at rightPinned
      exact .inr ⟨leftPinned, rightPinned⟩
    · exact .inl (.inr ⟨seenLeft, rightPinned, sameLeft, leftDigits⟩)
  · exact .inl (.inl ⟨seenRight, leftPinned, sameRight, rightDigits⟩)

end

/-- Two users compare their safety numbers once, in the middle of a run in which the
network gives everyone any bytes. If both see one number, then everything either accepts
from the other, before the comparison and after it, was written by the other, or one of
them had pinned a bundle that looks like the other's. -/
theorem comparison_authenticates {ι : Type} [DecidableEq ι] (suite : E2eSuite) (sha256 : Hash)
    (users : ι → E2eUser)
    (generated : ∀ user, ∃ randomness, generateE2eKeypair suite randomness =
      .ok ((users user).secret, (users user).key))
    (before later : List (ι × CorrespondentEvent)) (left right : ι)
    (distinct : (users left).name ≠ (users right).name) (number : String)
    (leftSees : (after suite users before left).safetyNumber sha256 (users left)
      (users right).name = some number)
    (rightSees : (after suite users before right).safetyNumber sha256 (users right)
      (users left).name = some number)
    (verifiesOnly : ∀ user ∈ [left, right],
      suite.dsa.VerifiesOnly (users user).secret.dsaSigningSeed
        (signedBy suite ((after suite users (before ++ later)).calls user)))
    (opensOnly : ∀ user ∈ [left, right],
      OpensOnlyAsSealed suite ((after suite users (before ++ later)).calls user)) :
    (Fooled users (after suite users before) sha256 left right ∨
        Fooled users (after suite users before) sha256 right left) ∨
      (Hears suite users (after suite users (before ++ later)) left right ∧
        Hears suite users (after suite users (before ++ later)) right left) := by
  have genuine := E2eUser.keys_of_generated generated
  have sound : ∀ user, (after suite users (before ++ later) user).Sound suite (users user) :=
    after_sound (before ++ later)
  rcases pinned_or_fooled distinct leftSees rightSees with fooled | ⟨leftPinned, rightPinned⟩
  · exact .inl fooled
  · right
    constructor
    · exact .of_pinned sound genuine (pinned_append leftPinned) (verifiesOnly right (by simp))
        (opensOnly right (by simp))
    · exact .of_pinned sound genuine (pinned_append rightPinned) (verifiesOnly left (by simp))
        (opensOnly left (by simp))

end Correspondence

/-! Two users exchange their keys through an honest network and compare. One has written to
the other, and its message arrives later. -/

/-- Only the writer signs, and only the sample message. -/
def meetingDsa : MlDsa :=
  .transparent fun seed message => seed = .replicate 32 7 && [samplePart.bytes].contains message

def meetingSecret (writer : Bool) : E2eSecretKey :=
  if writer then ⟨.replicate 32 8, .replicate 64 8, .replicate 32 7⟩
  else ⟨.replicate 32 4, .replicate 64 6, .replicate 32 9⟩

def meetingUser (writer : Bool) : E2eUser where
  name := if writer then "b" else "a"
  secret := meetingSecret writer
  key := (meetingSecret writer).publicKey (sampleSuite meetingDsa)

def keyResponseBytes (letter : UInt8) (key : E2ePublicKey) : Bytes :=
  [0, 1, letter] ++ 0 :: encodeE2ePublicKey key

def meeting : List (Bool × CorrespondentEvent) :=
  [(false, .receiveKey (keyResponseBytes 98 (meetingUser true).key)),
    (true, .receiveKey (keyResponseBytes 97 (meetingUser false).key)),
    (true, .write "a" sampleCall.randomness sampleCall.plaintext)]

def meetingBlob : Bytes :=
  samplePart.bytes ++ (meetingDsa.sign (.replicate 32 7) samplePart.bytes).bytes

theorem meetingBlob_decrypted :
    verifyAndDecrypt (sampleSuite meetingDsa) meetingBlob (.replicate 32 4) (.replicate 64 6)
      (meetingUser true).key.dsaVerifyingKey = .ok [1, 2, 3] := by
  refine samplePart_accepted (MlDsa.transparent_verifies ?_)
  simp [meetingSecret]

namespace Correspondence

theorem reader_after_meeting :
    after (sampleSuite meetingDsa) meetingUser meeting false =
      Correspondent.new.pin "b" (meetingUser true).key := by
  have own : own false meeting = [.receiveKey (keyResponseBytes 98 (meetingUser true).key)] := by
    simp [own, meeting]
  rw [after_eq, own, run_cons, run_nil]
  exact Correspondent.step_receiveKey (by rfl) rfl

theorem writer_after_meeting :
    after (sampleSuite meetingDsa) meetingUser meeting true =
      { Correspondent.new.pin "a" (meetingUser false).key with
        written := [("a", sampleCall)] } := by
  have received : Correspondent.new.step (sampleSuite meetingDsa) (meetingUser true)
      (.receiveKey (keyResponseBytes 97 (meetingUser false).key)) =
        Correspondent.new.pin "a" (meetingUser false).key :=
    Correspondent.step_receiveKey (by rfl) rfl
  have encrypted : sampleCall.encryptAndSign (sampleSuite meetingDsa)
      (meetingUser true).secret.dsaSigningSeed = .ok meetingBlob :=
    E2eCall.encryptAndSign_eq_ok_iff.mpr ⟨samplePart, sampleCall_sealed _, rfl⟩
  have toPk : sampleCall.recipientX25519Pk = (meetingUser false).key.x25519Public := rfl
  have toEk : sampleCall.recipientMlKemEk = (meetingUser false).key.mlKemEk := rfl
  have wrote := Correspondent.step_write (Correspondent.new.pinned_pin "a" _) toPk toEk encrypted
  rw [after_eq]
  have own : own true meeting = [.receiveKey (keyResponseBytes 97 (meetingUser false).key),
      .write "a" sampleCall.randomness sampleCall.plaintext] := by
    simp [own, meeting]
  rw [own, run_cons, received, run_cons, wrote, run_nil]
  rfl

theorem calls_of_written {ι : Type} {state : Correspondence ι} {user : ι}
    {written : List (String × E2eCall)} (same : (state user).written = written) :
    state.calls user = written.map (·.2) := by
  rw [calls, same]

theorem reader_after_delivery {bytes : Bytes}
    (encoded : DeliverMessagePayload.encode ⟨1, "b", meetingBlob⟩ = .ok bytes) :
    after (sampleSuite meetingDsa) meetingUser (meeting ++ [(false, .receiveLive bytes)]) false =
      { Correspondent.new.pin "b" (meetingUser true).key with
        accepted := [("b", [1, 2, 3])] } := by
  have own : own false [(false, .receiveLive bytes)] = [.receiveLive bytes] := by
    simp [own]
  rw [after_append, reader_after_meeting, own, run_cons, run_nil]
  exact Correspondent.step_receiveLive encoded (Correspondent.new.pinned_pin "b" _)
    meetingBlob_decrypted

theorem writer_after_delivery (bytes : Bytes) :
    after (sampleSuite meetingDsa) meetingUser (meeting ++ [(false, .receiveLive bytes)]) true =
      { Correspondent.new.pin "a" (meetingUser false).key with
        written := [("a", sampleCall)] } := by
  have own : own true [(false, .receiveLive bytes)] = [] := by
    simp [own]
  rw [after_append, writer_after_meeting, own, run_nil]

theorem sampleCall_signed :
    signedBy (sampleSuite meetingDsa) [sampleCall] = [samplePart.bytes] := by
  simp [signedBy, sampleCall_sealed]

theorem meetingUser_generated (writer : Bool) :
    ∃ randomness, generateE2eKeypair (sampleSuite meetingDsa) randomness =
      .ok ((meetingUser writer).secret, (meetingUser writer).key) := by
  let secret := meetingSecret writer
  exact ⟨⟨secret.x25519Secret, some secret.mlKemSeed, secret.dsaSigningSeed⟩,
    generateE2eKeypair_eq _ _⟩

theorem meeting_delivery_encodes :
    ∃ bytes, DeliverMessagePayload.encode ⟨1, "b", meetingBlob⟩ = .ok bytes := by
  refine (encodeMessagePayload_failsIff 1 "b" meetingBlob).2.mpr ?_
  have small : meetingBlob.length = 4460 := by
    rw [meetingBlob, List.length_append, samplePart.length_bytes, FixedBytes.length_bytes]
    rfl
  rw [small]
  decide

theorem meeting_authenticates :
    ∃ bytes, (after (sampleSuite meetingDsa) meetingUser
          (meeting ++ [(false, .receiveLive bytes)]) false).accepted = [("b", [1, 2, 3])] ∧
      ((Fooled meetingUser (after (sampleSuite meetingDsa) meetingUser meeting)
            (FixedBytes.ofPrefix 32) false true ∨
          Fooled meetingUser (after (sampleSuite meetingDsa) meetingUser meeting)
            (FixedBytes.ofPrefix 32) true false) ∨
        (Hears (sampleSuite meetingDsa) meetingUser (after (sampleSuite meetingDsa) meetingUser
              (meeting ++ [(false, .receiveLive bytes)])) false true ∧
          Hears (sampleSuite meetingDsa) meetingUser (after (sampleSuite meetingDsa) meetingUser
              (meeting ++ [(false, .receiveLive bytes)])) true false)) := by
  rcases meeting_delivery_encodes with ⟨bytes, encoded⟩
  have reader := reader_after_delivery encoded
  have writer := writer_after_delivery bytes
  refine ⟨bytes, by rw [reader], comparison_authenticates (sampleSuite meetingDsa)
    (FixedBytes.ofPrefix 32) meetingUser meetingUser_generated meeting
    [(false, .receiveLive bytes)] false true (by decide)
    (safetyNumber (FixedBytes.ofPrefix 32) "a" (meetingUser false).key "b" (meetingUser true).key)
    ?_ ?_ ?_ ?_⟩
  · rw [reader_after_meeting, Correspondent.safetyNumber]
    exact congrArg _ (Correspondent.new.pinned_pin "b" _)
  · rw [writer_after_meeting, safetyNumber_comm_of_ne (by decide)]
    exact congrArg _ (Correspondent.new.pinned_pin "a" _)
  · intro user _
    cases user with
    | false =>
        rw [calls_of_written (congrArg _ reader)]
        refine MlDsa.transparent_permits fun message allowed => ?_
        have wrongSeed :
            decide (FixedBytes.replicate 32 9 = FixedBytes.replicate 32 7) = false := by
          decide
        rw [show (meetingUser false).secret.dsaSigningSeed = .replicate 32 9 from rfl,
          wrongSeed] at allowed
        cases allowed
    | true =>
        rw [calls_of_written (congrArg _ writer)]
        refine MlDsa.transparent_permits fun message allowed => ?_
        rw [List.map_singleton, sampleCall_signed]
        exact List.contains_iff_mem.mp (Bool.and_eq_true_iff.mp allowed).2
  · intro user _
    cases user with
    | false =>
        rw [calls_of_written (congrArg _ reader)]
        intro call made
        cases made
    | true =>
        rw [calls_of_written (congrArg _ writer)]
        exact sampleCall_opensOnly _

end Correspondence

end ChatixProtocol
