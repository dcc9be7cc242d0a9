import ChatixProtocol.Crypto.Auth
import ChatixProtocol.Foundation.Utf8
import Mathlib.Logic.Function.Iterate

/-! # Safety numbers

A fingerprint is an iterated hash of an identifier and its public keys. The safety
number of two identities renders both fingerprints as decimal digits, for their users
to compare.
-/

namespace ChatixProtocol

def fingerprintIterations : Nat := 5200

abbrev fingerprintLen : Nat := 32

def digitSourceLen : Nat := 30

def serializePublicKey (publicKey : E2ePublicKey) : Bytes :=
  publicKey.x25519Public.bytes ++ publicKey.mlKemEk.bytes ++ publicKey.dsaVerifyingKey.bytes

/-! ## Fingerprints -/

/-- What one round hashes after the digest of the round before. -/
def roundInput (digest : FixedBytes fingerprintLen) (identifier : String)
    (publicKey : E2ePublicKey) : Bytes :=
  digest.bytes ++ utf8Bytes identifier ++ serializePublicKey publicKey

/-- The running digest after some extra rounds. -/
def digestAfter (sha256 : Hash) (identifier : String) (publicKey : E2ePublicKey)
    (rounds : Nat) : FixedBytes fingerprintLen :=
  Nat.iterate (fun digest => sha256 (roundInput digest identifier publicKey)) rounds
    (sha256 (utf8Bytes identifier ++ serializePublicKey publicKey))

def computeFingerprint (sha256 : Hash) (identifier : String) (publicKey : E2ePublicKey) :
    FixedBytes fingerprintLen :=
  digestAfter sha256 identifier publicKey fingerprintIterations

/-- Every byte string that is hashed on the way to a fingerprint. -/
def fingerprintInputs (sha256 : Hash) (identifier : String) (publicKey : E2ePublicKey) :
    List Bytes :=
  (utf8Bytes identifier ++ serializePublicKey publicKey) ::
    (List.range fingerprintIterations).map fun rounds =>
      roundInput (digestAfter sha256 identifier publicKey rounds) identifier publicKey

/-! ## Digits -/

/-- `format!("{value:05}")`, for any width -/
def zeroPadded (width value : Nat) : String :=
  String.ofList (List.leftpad width '0' (Nat.toDigits 10 value))

/-- Five bytes as a 40-bit integer, reduced to five digits. -/
def digitGroup (chunk : FixedBytes 5) : String :=
  let buf : FixedBytes 8 := ⟨[0, 0, 0] ++ chunk.bytes, by simp⟩
  zeroPadded 5 ((u64FromBeBytes buf).toNat % 100000)

def digitGroups (fingerprint : FixedBytes fingerprintLen) : List String :=
  (List.finRange (digitSourceLen / 5)).map fun index =>
    digitGroup (fingerprint.window (5 * index.val) 5 (by
      have inside : index.val < 6 := index.isLt
      rw [fingerprintLen]
      omega))

/-- Both fingerprints in one line. -/
def joinFingerprints (first second : FixedBytes fingerprintLen) : String :=
  String.intercalate " " (digitGroups first ++ digitGroups second)

/-- Identifiers are compared byte by byte. -/
def safetyNumber (sha256 : Hash) (localId : String) (localKey : E2ePublicKey)
    (remoteId : String) (remoteKey : E2ePublicKey) : String :=
  let localFingerprint := computeFingerprint sha256 localId localKey
  let remoteFingerprint := computeFingerprint sha256 remoteId remoteKey
  if utf8Bytes localId ≤ utf8Bytes remoteId then
    joinFingerprints localFingerprint remoteFingerprint
  else
    joinFingerprints remoteFingerprint localFingerprint

/-! ## Pinned keys -/

def verifyKeyUnchanged (identifier : String) (pinned fetched : E2ePublicKey) :
    Outcome ProtocolError Unit :=
  .refuseIf (pinned ≠ fetched) (.identityKeyChanged identifier)

/-- Exactly the pinned bundle passes, and any other is reported under its identifier. -/
theorem verifyKeyUnchanged_iff {identifier : String} {pinned fetched : E2ePublicKey} :
    (verifyKeyUnchanged identifier pinned fetched = .ok () ↔ pinned = fetched) ∧
      (verifyKeyUnchanged identifier pinned fetched = .err (.identityKeyChanged identifier) ↔
        pinned ≠ fetched) := by
  by_cases same : pinned = fetched <;> simp [verifyKeyUnchanged, Outcome.refuseIf, same]

/-! ## What a fingerprint commits to -/

theorem length_serializePublicKey (publicKey : E2ePublicKey) :
    (serializePublicKey publicKey).length = 3168 := by
  simp only [serializePublicKey, List.length_append, FixedBytes.length_bytes]
  rfl

theorem serializePublicKey_injective : Function.Injective serializePublicKey := by
  intro left right equal
  rcases left with ⟨x25519, mlKem, dsa⟩
  rcases right with ⟨x25519', mlKem', dsa'⟩
  simp only [serializePublicKey, List.append_assoc, FixedBytes.append_inj] at equal
  rcases equal with ⟨rfl, rfl, sameDsa⟩
  cases FixedBytes.ext sameDsa
  rfl

theorem roundInput_inj {digest digest' : FixedBytes fingerprintLen}
    {identifier identifier' : String} {publicKey publicKey' : E2ePublicKey} :
    roundInput digest identifier publicKey = roundInput digest' identifier' publicKey' ↔
      digest = digest' ∧ identifier = identifier' ∧ publicKey = publicKey' := by
  constructor
  · intro equal
    rw [roundInput, roundInput, List.append_assoc, List.append_assoc,
      FixedBytes.append_inj] at equal
    have keyLengths : (serializePublicKey publicKey).length =
        (serializePublicKey publicKey').length := by
      rw [length_serializePublicKey, length_serializePublicKey]
    have parts := List.append_inj' equal.2 keyLengths
    exact ⟨equal.1, utf8Bytes_injective parts.1, serializePublicKey_injective parts.2⟩
  · intro same
    rcases same with ⟨rfl, rfl, rfl⟩
    rfl

theorem digestAfter_succ (sha256 : Hash) (identifier : String) (publicKey : E2ePublicKey)
    (rounds : Nat) :
    digestAfter sha256 identifier publicKey (rounds + 1) =
      sha256 (roundInput (digestAfter sha256 identifier publicKey rounds) identifier
        publicKey) :=
  Function.iterate_succ_apply' _ _ _

/-- A fingerprint is the hash of what its last round hashes. -/
theorem exists_lastInput (sha256 : Hash) (identifier : String) (publicKey : E2ePublicKey) :
    ∃ digest, roundInput digest identifier publicKey ∈
        fingerprintInputs sha256 identifier publicKey ∧
      computeFingerprint sha256 identifier publicKey =
        sha256 (roundInput digest identifier publicKey) := by
  refine ⟨digestAfter sha256 identifier publicKey 5199, ?_, digestAfter_succ _ _ _ _⟩
  have lastRound : 5199 ∈ List.range fingerprintIterations := List.mem_range.mpr (by decide)
  exact List.mem_cons_of_mem _ (List.mem_map.mpr ⟨_, lastRound, rfl⟩)

/-- Equal fingerprints belong to the same identifier and the same keys, or the two
computations hashed two different byte strings to one digest. -/
theorem fingerprint_commits (sha256 : Hash) (identifier identifier' : String)
    (publicKey publicKey' : E2ePublicKey)
    (same : computeFingerprint sha256 identifier publicKey =
      computeFingerprint sha256 identifier' publicKey') :
    (identifier = identifier' ∧ publicKey.x25519Public = publicKey'.x25519Public ∧
        publicKey.mlKemEk = publicKey'.mlKemEk ∧
        publicKey.dsaVerifyingKey = publicKey'.dsaVerifyingKey) ∨
      ∃ left ∈ fingerprintInputs sha256 identifier publicKey,
        ∃ right ∈ fingerprintInputs sha256 identifier' publicKey',
          left ≠ right ∧ sha256 left = sha256 right := by
  rcases exists_lastInput sha256 identifier publicKey with ⟨digest, hashed, last⟩
  rcases exists_lastInput sha256 identifier' publicKey' with ⟨digest', hashed', last'⟩
  by_cases equal : roundInput digest identifier publicKey =
      roundInput digest' identifier' publicKey'
  · rcases roundInput_inj.mp equal with ⟨_, rfl, rfl⟩
    exact .inl ⟨rfl, rfl, rfl, rfl⟩
  · exact .inr ⟨_, hashed, _, hashed', equal, last.symm.trans (same.trans last')⟩

def uniformKey (byte : UInt8) : E2ePublicKey where
  x25519Public := .replicate 32 byte
  mlKemEk := .replicate mlKem768EkSize byte
  dsaVerifyingKey := .replicate mlDsa65VkSize byte

theorem constant_hash_collides :
    ("alice" = "bob" ∧ (uniformKey 1).x25519Public = (uniformKey 1).x25519Public ∧
        (uniformKey 1).mlKemEk = (uniformKey 1).mlKemEk ∧
        (uniformKey 1).dsaVerifyingKey = (uniformKey 1).dsaVerifyingKey) ∨
      ∃ left ∈ fingerprintInputs (fun _ => .replicate 32 0) "alice" (uniformKey 1),
        ∃ right ∈ fingerprintInputs (fun _ => .replicate 32 0) "bob" (uniformKey 1),
          left ≠ right ∧ FixedBytes.replicate 32 0 = FixedBytes.replicate 32 0 := by
  apply fingerprint_commits
  rcases exists_lastInput (fun _ => .replicate 32 0) "alice" (uniformKey 1) with ⟨_, _, last⟩
  rcases exists_lastInput (fun _ => .replicate 32 0) "bob" (uniformKey 1) with ⟨_, _, last'⟩
  exact last.trans last'.symm

/-! ## The order of the two sides -/

theorem safetyNumber_comm_of_ne {localId remoteId : String} (different : localId ≠ remoteId)
    (sha256 : Hash) (localKey remoteKey : E2ePublicKey) :
    safetyNumber sha256 localId localKey remoteId remoteKey =
      safetyNumber sha256 remoteId remoteKey localId localKey := by
  rw [safetyNumber, safetyNumber]
  by_cases first : utf8Bytes localId ≤ utf8Bytes remoteId
  · have last : ¬utf8Bytes remoteId ≤ utf8Bytes localId :=
      fun also => different (utf8Bytes_injective (List.le_antisymm first also))
    rw [if_pos first, if_neg last]
  · have last := (List.le_total (utf8Bytes localId) (utf8Bytes remoteId)).resolve_left first
    rw [if_neg first, if_pos last]

theorem safetyNumber_of_tie (sha256 : Hash) (identifier : String)
    (localKey remoteKey : E2ePublicKey) :
    safetyNumber sha256 identifier localKey identifier remoteKey =
      joinFingerprints (computeFingerprint sha256 identifier localKey)
        (computeFingerprint sha256 identifier remoteKey) := by
  rw [safetyNumber, if_pos (List.le_refl _)]

/-- A hash that tells one key bundle at the end of its input from all others. -/
def marksKey (publicKey : E2ePublicKey) : Hash := fun input =>
  if input.drop (input.length - 3168) = serializePublicKey publicKey then
    .replicate 32 0
  else
    .replicate 32 1

theorem computeFingerprint_marksKey (marked publicKey : E2ePublicKey) (identifier : String) :
    computeFingerprint (marksKey marked) identifier publicKey =
      if publicKey = marked then .replicate 32 0 else .replicate 32 1 := by
  rcases exists_lastInput (marksKey marked) identifier publicKey with ⟨digest, _, last⟩
  have key : (roundInput digest identifier publicKey).drop
      ((roundInput digest identifier publicKey).length - 3168) =
        serializePublicKey publicKey := by
    rw [roundInput, List.length_append, length_serializePublicKey, Nat.add_sub_cancel,
      List.drop_left]
  simp only [last, marksKey, key, serializePublicKey_injective.eq_iff]

theorem joinFingerprints_not_comm :
    joinFingerprints (.replicate 32 0) (.replicate 32 1) ≠
      joinFingerprints (.replicate 32 1) (.replicate 32 0) := by
  decide

theorem safetyNumber_ne_of_tie {localKey remoteKey : E2ePublicKey}
    (different : localKey ≠ remoteKey) (identifier : String) :
    safetyNumber (marksKey localKey) identifier localKey identifier remoteKey ≠
      safetyNumber (marksKey localKey) identifier remoteKey identifier localKey := by
  rw [safetyNumber_of_tie, safetyNumber_of_tie, computeFingerprint_marksKey,
    computeFingerprint_marksKey, if_pos rfl, if_neg different.symm]
  exact joinFingerprints_not_comm

/-- Both sides see the same safety number, whatever the hash, exactly if the identifiers
differ or the key bundles are the same. -/
theorem safetyNumber_symmetric_iff (localId remoteId : String)
    (localKey remoteKey : E2ePublicKey) :
    (∀ sha256, safetyNumber sha256 localId localKey remoteId remoteKey =
      safetyNumber sha256 remoteId remoteKey localId localKey) ↔
      localId ≠ remoteId ∨ localKey = remoteKey := by
  constructor
  · intro symmetric
    by_contra tie
    rw [not_or, not_not] at tie
    rcases tie with ⟨rfl, different⟩
    exact safetyNumber_ne_of_tie different localId (symmetric _)
  · intro distinguishable sha256
    rcases distinguishable with different | rfl
    · exact safetyNumber_comm_of_ne different sha256 localKey remoteKey
    · by_cases same : localId = remoteId
      · rw [same]
      · exact safetyNumber_comm_of_ne same sha256 localKey localKey

/-- Two devices of one user see different safety numbers. -/
theorem one_identifier_two_safetyNumbers :
    safetyNumber (marksKey (uniformKey 1)) "alice" (uniformKey 1) "alice" (uniformKey 2) ≠
      safetyNumber (marksKey (uniformKey 1)) "alice" (uniformKey 2) "alice" (uniformKey 1) :=
  safetyNumber_ne_of_tie (by decide) "alice"

end ChatixProtocol
