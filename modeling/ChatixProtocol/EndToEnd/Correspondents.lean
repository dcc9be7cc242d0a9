import ChatixProtocol.Crypto.SafetyDigits
import ChatixProtocol.EndToEnd.MessageExchange
import ChatixProtocol.EndToEnd.SenderAuthenticity

/-! # Users who do not trust the server

Users pin the first key they are given for a name and refuse any other for it, and
write and read under pinned keys. Everything they receive is chosen by the network,
so a first key may be anyone's. Two users who once compare their safety numbers learn
whether all their messages, earlier and later, are each other's.
-/

namespace ChatixProtocol

open Execution

structure Correspondent where
  pinned : String → Option E2ePublicKey
  written : List (String × E2eCall)
  accepted : List (String × Bytes)

/-- What happens to one user. The network chooses the bytes. -/
inductive CorrespondentEvent where
  | receiveKey (bytes : Bytes)
  | write (contact : String) (randomness : E2eRandomness) (plaintext : Bytes)
  | receiveLive (bytes : Bytes)
  | receiveQueued (bytes : Bytes)

namespace Correspondent

def new : Correspondent where
  pinned := fun _ => none
  written := []
  accepted := []

def pin (correspondent : Correspondent) (name : String) (key : E2ePublicKey) : Correspondent :=
  { correspondent with pinned := Function.update correspondent.pinned name (some key) }

theorem pinned_pin (correspondent : Correspondent) (name : String) (key : E2ePublicKey) :
    (correspondent.pin name key).pinned name = some key := by
  simp [pin]

/-- The first key of a name is pinned, and later ones must be the same. -/
def keepKey (correspondent : Correspondent) (name : String) (fetched : E2ePublicKey) :
    Outcome ProtocolError Correspondent :=
  match correspondent.pinned name with
  | none => .ok (correspondent.pin name fetched)
  | some pinned => do
      verifyKeyUnchanged name pinned fetched
      pure correspondent

def encrypt (suite : E2eSuite) (user : E2eUser) (correspondent : Correspondent)
    (contact : String) (randomness : E2eRandomness) (plaintext : Bytes) :
    Outcome ProtocolError Correspondent := do
  let key ← .ofOption .cryptoError (correspondent.pinned contact)
  let call : E2eCall := {
    randomness
    plaintext
    recipientX25519Pk := key.x25519Public
    recipientMlKemEk := key.mlKemEk
  }
  let _ ← call.encryptAndSign suite user.secret.dsaSigningSeed
  pure { correspondent with written := correspondent.written ++ [(contact, call)] }

def decrypt (suite : E2eSuite) (user : E2eUser) (correspondent : Correspondent)
    (senderId : String) (content : Bytes) : Outcome ProtocolError Correspondent := do
  let key ← .ofOption .cryptoError (correspondent.pinned senderId)
  let plaintext ← verifyAndDecrypt suite content user.secret.x25519Secret user.secret.mlKemSeed
    key.dsaVerifyingKey
  pure { correspondent with accepted := correspondent.accepted ++ [(senderId, plaintext)] }

def handle (suite : E2eSuite) (user : E2eUser) (correspondent : Correspondent) :
    CorrespondentEvent → Outcome ProtocolError Correspondent
  | .receiveKey bytes => do
      let response ← (E2eKeyResponsePayload.decode bytes).mapError .io
      let fetched ← .ofOption .cryptoError response.key
      correspondent.keepKey response.username fetched
  | .write contact randomness plaintext =>
      correspondent.encrypt suite user contact randomness plaintext
  | .receiveLive bytes => do
      let payload ← (DeliverMessagePayload.decode bytes).mapError .io
      correspondent.decrypt suite user payload.senderId payload.content
  | .receiveQueued bytes => do
      let payload ← (QueuedMessageDeliveryPayload.decode bytes).mapError .io
      correspondent.decrypt suite user payload.senderId payload.content

/-- A failed event changes nothing. -/
def step (suite : E2eSuite) (user : E2eUser) (correspondent : Correspondent)
    (event : CorrespondentEvent) : Correspondent :=
  match correspondent.handle suite user event with
  | .ok next => next
  | _ => correspondent

/-- The number a user sees for a contact. -/
def safetyNumber (sha256 : Hash) (user : E2eUser) (correspondent : Correspondent)
    (contact : String) : Option String :=
  (correspondent.pinned contact).map fun key =>
    ChatixProtocol.safetyNumber sha256 user.name user.key contact key

/-! ## One event -/

/-- What an event can do. -/
inductive Moves (suite : E2eSuite) (user : E2eUser) (before : Correspondent) :
    Correspondent → Prop where
  | unchanged : Moves suite user before before
  | pinned (name : String) (key : E2ePublicKey) (unknown : before.pinned name = none) :
      Moves suite user before (before.pin name key)
  | wrote (contact : String) (key : E2ePublicKey) (known : before.pinned contact = some key)
      (call : E2eCall) (toPk : call.recipientX25519Pk = key.x25519Public)
      (toEk : call.recipientMlKemEk = key.mlKemEk) (blob : Bytes)
      (encrypted : call.encryptAndSign suite user.secret.dsaSigningSeed = .ok blob) :
      Moves suite user before { before with written := before.written ++ [(contact, call)] }
  | accepted (senderId : String) (key : E2ePublicKey) (known : before.pinned senderId = some key)
      (blob plaintext : Bytes)
      (decrypted : verifyAndDecrypt suite blob user.secret.x25519Secret user.secret.mlKemSeed
        key.dsaVerifyingKey = .ok plaintext) :
      Moves suite user before
        { before with accepted := before.accepted ++ [(senderId, plaintext)] }

section

variable {suite : E2eSuite} {user : E2eUser} {before next : Correspondent}

theorem moves_of_keepKey {name : String} {fetched : E2ePublicKey}
    (kept : before.keepKey name fetched = .ok next) : Moves suite user before next := by
  rw [keepKey] at kept
  cases known : before.pinned name with
  | none =>
      rw [known] at kept
      cases kept
      exact .pinned name fetched known
  | some key =>
      rw [known] at kept
      rcases Outcome.bind_eq_ok_iff.mp kept with ⟨_, _, same⟩
      cases same
      exact .unchanged

theorem moves_of_encrypt {contact : String} {randomness : E2eRandomness} {plaintext : Bytes}
    (wrote : before.encrypt suite user contact randomness plaintext = .ok next) :
    Moves suite user before next := by
  simp only [encrypt, Outcome.bind_eq_ok_iff, Outcome.ofOption_eq_ok_iff, Outcome.pure_eq_ok,
    Outcome.ok.injEq] at wrote
  rcases wrote with ⟨key, known, blob, encrypted, rfl⟩
  exact .wrote contact key known _ rfl rfl blob encrypted

theorem decrypt_eq_ok_iff {senderId : String} {content : Bytes} :
    before.decrypt suite user senderId content = .ok next ↔
      ∃ key, before.pinned senderId = some key ∧ ∃ plaintext,
        verifyAndDecrypt suite content user.secret.x25519Secret user.secret.mlKemSeed
            key.dsaVerifyingKey = .ok plaintext ∧
          next = { before with accepted := before.accepted ++ [(senderId, plaintext)] } := by
  simp only [decrypt, Outcome.bind_eq_ok_iff, Outcome.ofOption_eq_ok_iff, Outcome.pure_eq_ok,
    Outcome.ok.injEq]
  exact exists_congr fun key => and_congr_right fun _ => exists_congr fun plaintext =>
    and_congr_right fun _ => eq_comm

theorem moves_of_decrypt {senderId : String} {content : Bytes}
    (accepted : before.decrypt suite user senderId content = .ok next) :
    Moves suite user before next := by
  rcases decrypt_eq_ok_iff.mp accepted with ⟨key, known, plaintext, decrypted, rfl⟩
  exact .accepted senderId key known content plaintext decrypted

theorem moves_of_handle {event : CorrespondentEvent}
    (handled : before.handle suite user event = .ok next) : Moves suite user before next := by
  cases event with
  | receiveKey bytes =>
      rcases Outcome.bind_eq_ok_iff.mp handled with ⟨response, _, rest⟩
      rcases Outcome.bind_eq_ok_iff.mp rest with ⟨fetched, _, kept⟩
      exact moves_of_keepKey kept
  | write contact randomness plaintext => exact moves_of_encrypt handled
  | receiveLive bytes =>
      rcases Outcome.bind_eq_ok_iff.mp handled with ⟨payload, _, accepted⟩
      exact moves_of_decrypt accepted
  | receiveQueued bytes =>
      rcases Outcome.bind_eq_ok_iff.mp handled with ⟨payload, _, accepted⟩
      exact moves_of_decrypt accepted

theorem step_moves (suite : E2eSuite) (user : E2eUser) (before : Correspondent)
    (event : CorrespondentEvent) : Moves suite user before (before.step suite user event) := by
  rw [step]
  cases handled : before.handle suite user event with
  | ok next => exact moves_of_handle handled
  | err error => exact .unchanged
  | panic => exact .unchanged

theorem step_receiveKey {name : String} {key : E2ePublicKey} {bytes : Bytes}
    (encoded : E2eKeyResponsePayload.encode ⟨name, some key⟩ = .ok bytes)
    (unknown : before.pinned name = none) :
    before.step suite user (.receiveKey bytes) = before.pin name key := by
  have decoded := E2eKeyResponsePayload.canonical.decode_of_encode encoded
  simp [step, handle, decoded, keepKey, unknown, Outcome.mapError, Outcome.ofOption]

theorem step_write {contact : String} {key : E2ePublicKey} {call : E2eCall} {blob : Bytes}
    (known : before.pinned contact = some key) (toPk : call.recipientX25519Pk = key.x25519Public)
    (toEk : call.recipientMlKemEk = key.mlKemEk)
    (encrypted : call.encryptAndSign suite user.secret.dsaSigningSeed = .ok blob) :
    before.step suite user (.write contact call.randomness call.plaintext) =
      { before with written := before.written ++ [(contact, call)] } := by
  rcases call with ⟨randomness, plaintext, recipientPk, recipientEk⟩
  cases toPk
  cases toEk
  simp [step, handle, encrypt, known, encrypted, Outcome.ofOption]

theorem step_receiveLive {payload : DeliverMessagePayload} {key : E2ePublicKey}
    {bytes plaintext : Bytes} (encoded : payload.encode = .ok bytes)
    (known : before.pinned payload.senderId = some key)
    (decrypted : verifyAndDecrypt suite payload.content user.secret.x25519Secret
      user.secret.mlKemSeed key.dsaVerifyingKey = .ok plaintext) :
    before.step suite user (.receiveLive bytes) =
      { before with accepted := before.accepted ++ [(payload.senderId, plaintext)] } := by
  have decoded := DeliverMessagePayload.canonical.decode_of_encode encoded
  simp [step, handle, decoded, decrypt, known, decrypted, Outcome.mapError, Outcome.ofOption]

/-! ## What events preserve -/

/-- Pinned keys stay. -/
def Keeps (before after : Correspondent) : Prop :=
  ∀ name key, before.pinned name = some key → after.pinned name = some key

/-- Everything written and accepted went under a key that is still pinned. -/
structure Sound (suite : E2eSuite) (user : E2eUser) (correspondent : Correspondent) : Prop where
  written : ∀ entry ∈ correspondent.written, ∃ key, correspondent.pinned entry.1 = some key ∧
    entry.2.recipientX25519Pk = key.x25519Public ∧ entry.2.recipientMlKemEk = key.mlKemEk ∧
      ∃ blob, entry.2.encryptAndSign suite user.secret.dsaSigningSeed = .ok blob
  accepted : ∀ entry ∈ correspondent.accepted, ∃ key,
    correspondent.pinned entry.1 = some key ∧ ∃ blob, verifyAndDecrypt suite blob
      user.secret.x25519Secret user.secret.mlKemSeed key.dsaVerifyingKey = .ok entry.2

theorem Moves.keeps (moves : Moves suite user before next) : before.Keeps next := by
  intro other otherKey known
  cases moves with
  | unchanged => exact known
  | pinned name key unknown =>
      have different : other ≠ name := by
        intro same
        rw [same, unknown] at known
        cases known
      exact (Function.update_of_ne different _ _).trans known
  | wrote _ _ _ _ _ _ _ _ => exact known
  | accepted _ _ _ _ _ _ => exact known

theorem Sound.new : Correspondent.new.Sound suite user where
  written := by simp [Correspondent.new]
  accepted := by simp [Correspondent.new]

/-- The histories stay sound when keys are pinned. -/
theorem Sound.of_keeps (sound : before.Sound suite user) (keeps : before.Keeps next)
    (sameWritten : next.written = before.written)
    (sameAccepted : next.accepted = before.accepted) : next.Sound suite user where
  written := by
    intro entry member
    rw [sameWritten] at member
    rcases sound.written entry member with ⟨key, known, rest⟩
    exact ⟨key, keeps _ _ known, rest⟩
  accepted := by
    intro entry member
    rw [sameAccepted] at member
    rcases sound.accepted entry member with ⟨key, known, rest⟩
    exact ⟨key, keeps _ _ known, rest⟩

theorem Moves.sound (moves : Moves suite user before next) (sound : before.Sound suite user) :
    next.Sound suite user := by
  have keeps := moves.keeps
  cases moves with
  | unchanged => exact sound
  | pinned name key unknown => exact sound.of_keeps keeps rfl rfl
  | wrote contact key known call toPk toEk blob encrypted =>
      refine ⟨?_, sound.accepted⟩
      intro entry member
      rcases List.mem_append.mp member with earlier | now
      · exact sound.written entry earlier
      · cases List.mem_singleton.mp now
        exact ⟨key, known, toPk, toEk, blob, encrypted⟩
  | accepted senderId key known blob plaintext decrypted =>
      refine ⟨sound.written, ?_⟩
      intro entry member
      rcases List.mem_append.mp member with earlier | now
      · exact sound.accepted entry earlier
      · cases List.mem_singleton.mp now
        exact ⟨key, known, blob, decrypted⟩

/-! ## Whole runs -/

theorem run_keeps (suite : E2eSuite) (user : E2eUser) (correspondent : Correspondent)
    (events : List CorrespondentEvent) :
    correspondent.Keeps (run (step suite user) correspondent events) := by
  refine run_relates Keeps ?_ ?_ ?_ correspondent events
  · intro correspondent name key known
    exact known
  · intro first second third earlier later name key known
    exact later name key (earlier name key known)
  · intro correspondent event
    exact (step_moves suite user correspondent event).keeps

theorem Sound.run (sound : before.Sound suite user) (events : List CorrespondentEvent) :
    (Execution.run (step suite user) before events).Sound suite user :=
  run_invariant (Sound suite user)
    (fun correspondent event held => (step_moves suite user correspondent event).sound held)
    sound events

end

end Correspondent

/-! ## All users -/

/-- The state of every user. -/
abbrev Correspondence (ι : Type) := ι → Correspondent

namespace Correspondence

variable {ι : Type} [DecidableEq ι]

def step (suite : E2eSuite) (users : ι → E2eUser) (state : Correspondence ι)
    (event : ι × CorrespondentEvent) : Correspondence ι :=
  Function.update state event.1 ((state event.1).step suite (users event.1) event.2)

def after (suite : E2eSuite) (users : ι → E2eUser) (events : List (ι × CorrespondentEvent)) :
    Correspondence ι :=
  run (step suite users) (fun _ => .new) events

/-- What happens to one user in a run. -/
def own (user : ι) (events : List (ι × CorrespondentEvent)) : List CorrespondentEvent :=
  (events.filter (·.1 = user)).map (·.2)

variable {suite : E2eSuite} {users : ι → E2eUser}

/-- A user takes part in its own events only. -/
theorem run_eq (state : Correspondence ι) (events : List (ι × CorrespondentEvent)) (user : ι) :
    run (step suite users) state events user =
      run (Correspondent.step suite (users user)) (state user) (own user events) := by
  induction events generalizing state with
  | nil => rfl
  | cons event events induction =>
      rw [run_cons, induction]
      by_cases same : event.1 = user
      · subst same
        have stepped : step suite users state event event.1 =
            (state event.1).step suite (users event.1) event.2 := Function.update_self ..
        simp [own, stepped]
      · have stepped : step suite users state event user = state user :=
          Function.update_of_ne (Ne.symm same) ..
        simp [own, same, stepped]

theorem after_eq (events : List (ι × CorrespondentEvent)) (user : ι) :
    after suite users events user =
      run (Correspondent.step suite (users user)) .new (own user events) :=
  run_eq _ events user

theorem after_append (before later : List (ι × CorrespondentEvent)) (user : ι) :
    after suite users (before ++ later) user =
      run (Correspondent.step suite (users user)) (after suite users before user)
        (own user later) := by
  rw [after, run_append, run_eq]
  rfl

theorem after_sound (events : List (ι × CorrespondentEvent)) (user : ι) :
    (after suite users events user).Sound suite (users user) := by
  rw [after_eq]
  exact Correspondent.Sound.new.run _

/-- A pinned key is still pinned after any later events. -/
theorem pinned_append {before later : List (ι × CorrespondentEvent)} {user : ι} {name : String}
    {key : E2ePublicKey} (known : (after suite users before user).pinned name = some key) :
    (after suite users (before ++ later) user).pinned name = some key := by
  rw [after_append]
  exact Correspondent.run_keeps suite (users user) _ (own user later) name key known

end Correspondence

end ChatixProtocol
