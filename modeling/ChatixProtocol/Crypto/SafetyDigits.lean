import ChatixProtocol.Crypto.SafetyNumber
import ChatixProtocol.Foundation.Text
import Mathlib.Data.Nat.ModEq

/-! # What a safety number shows

Each group of digits shows one chunk of a fingerprint up to a multiple of 100000. This
file proves that the line of all groups shows exactly these residues.
-/

namespace ChatixProtocol

theorem chunk_inside (index : Fin (digitSourceLen / 5)) :
    5 * index.val + 5 ≤ fingerprintLen := by
  have inside : index.val < 6 := index.isLt
  rw [fingerprintLen]
  omega

/-- One of the chunks the first 30 bytes of a fingerprint are cut into. -/
def fingerprintChunk (fingerprint : FixedBytes fingerprintLen)
    (index : Fin (digitSourceLen / 5)) : FixedBytes 5 :=
  fingerprint.window (5 * index.val) 5 (chunk_inside index)

/-- What a reader can tell about a fingerprint from its digits. -/
def chunkResidues (fingerprint : FixedBytes fingerprintLen) : List Nat :=
  (List.finRange (digitSourceLen / 5)).map fun index =>
    bigEndianValue (fingerprintChunk fingerprint index).bytes % 100000

/-- Twelve groups of five decimal digits, with single spaces between them. -/
def IsDigitLine (text : String) : Prop :=
  (text.toList.splitOn ' ').length = 12 ∧
    ∀ group ∈ text.toList.splitOn ' ',
      group.length = 5 ∧ ∀ digit ∈ group, digit.isDigit = true

/-! ## One group -/

theorem zeroPadded_eq (width value : Nat) :
    zeroPadded width value = String.ofList (paddedDigits 10 width value) :=
  rfl

theorem zeroPadded_injective (width : Nat) : Function.Injective (zeroPadded width) := by
  intro value value' same
  rw [zeroPadded_eq, zeroPadded_eq, String.ofList_inj] at same
  exact paddedDigits_injective (by decide) (by decide) width same

/-- The three zero bytes in front leave the chunk's value as it is. -/
theorem digitGroup_eq (chunk : FixedBytes 5) :
    digitGroup chunk = zeroPadded 5 (bigEndianValue chunk.bytes % 100000) := by
  have small : bigEndianValue chunk.bytes < 2 ^ 64 :=
    Nat.lt_of_lt_of_le chunk.bigEndianValue_lt (by decide)
  have placed : bigEndianValue ([0, 0, 0] ++ chunk.bytes) = bigEndianValue chunk.bytes := by
    simp [bigEndianValue]
  rw [digitGroup, u64FromBeBytes, placed, UInt64.toNat_ofNat_of_lt' small]

example : digitGroup ⟨[0, 0, 0, 1, 7], rfl⟩ = "00263" := by decide

theorem digitGroups_eq (fingerprint : FixedBytes fingerprintLen) :
    digitGroups fingerprint = (chunkResidues fingerprint).map (zeroPadded 5) := by
  rw [digitGroups, chunkResidues, List.map_map]
  apply List.map_congr_left
  intro index _
  exact digitGroup_eq (fingerprintChunk fingerprint index)

theorem length_chunkResidues (fingerprint : FixedBytes fingerprintLen) :
    (chunkResidues fingerprint).length = 6 := by
  rw [chunkResidues, List.length_map, List.length_finRange]
  rfl

theorem chunkResidues_lt {fingerprint : FixedBytes fingerprintLen} {residue : Nat}
    (member : residue ∈ chunkResidues fingerprint) : residue < 10 ^ 5 := by
  rcases List.mem_map.mp member with ⟨index, _, rfl⟩
  exact Nat.mod_lt _ (by decide)

theorem chunkResidues_eq_iff {fingerprint fingerprint' : FixedBytes fingerprintLen} :
    chunkResidues fingerprint = chunkResidues fingerprint' ↔
      ∀ index, bigEndianValue (fingerprintChunk fingerprint index).bytes ≡
        bigEndianValue (fingerprintChunk fingerprint' index).bytes [MOD 100000] := by
  rw [chunkResidues, chunkResidues, List.map_inj_left]
  constructor
  · intro same index
    exact same index (List.mem_finRange index)
  · intro congruent index _
    exact congruent index

/-! ## The line -/

section

variable (first second : FixedBytes fingerprintLen)

/-- The line is the padded residues of both fingerprints, joined. -/
theorem joinFingerprints_eq :
    joinFingerprints first second =
      (String.singleton ' ').intercalate
        ((chunkResidues first ++ chunkResidues second).map (zeroPadded 5)) := by
  rw [joinFingerprints, digitGroups_eq, digitGroups_eq, ← List.map_append]
  rfl

theorem length_shownResidues : (chunkResidues first ++ chunkResidues second).length = 12 := by
  rw [List.length_append, length_chunkResidues, length_chunkResidues]

theorem shownGroups_ne_nil :
    (chunkResidues first ++ chunkResidues second).map (zeroPadded 5) ≠ [] := by
  rw [← List.length_pos_iff, List.length_map, length_shownResidues]
  decide

variable {first second}

/-- Each group of a line is five digits. -/
theorem shownGroup_shape {group : String}
    (member : group ∈ (chunkResidues first ++ chunkResidues second).map (zeroPadded 5)) :
    group.length = 5 ∧ ∀ digit ∈ group.toList, digit.isDigit = true := by
  rcases List.mem_map.mp member with ⟨residue, shown, rfl⟩
  have small : residue < 10 ^ 5 := by
    rcases List.mem_append.mp shown with ofFirst | ofSecond
    · exact chunkResidues_lt ofFirst
    · exact chunkResidues_lt ofSecond
  rw [zeroPadded_eq, String.length_ofList, String.toList_ofList]
  refine ⟨length_paddedDigits (by decide) (by decide) small, ?_⟩
  intro digit inGroup
  exact isDigit_of_mem_paddedDigits (by decide) (by decide) inGroup

theorem space_not_mem_shownGroup {group : String}
    (member : group ∈ (chunkResidues first ++ chunkResidues second).map (zeroPadded 5)) :
    ' ' ∉ group.toList := by
  intro space
  cases (shownGroup_shape member).2 ' ' space

variable (first second)

theorem isDigitLine_joinFingerprints : IsDigitLine (joinFingerprints first second) := by
  rw [IsDigitLine, joinFingerprints_eq,
    splitOn_joined (fun _ => space_not_mem_shownGroup) (shownGroups_ne_nil first second)]
  refine ⟨by rw [List.length_map, List.length_map, length_shownResidues], ?_⟩
  intro group member
  rcases List.mem_map.mp member with ⟨word, shown, rfl⟩
  rw [String.length_toList]
  exact shownGroup_shape shown

theorem length_joinFingerprints : (joinFingerprints first second).length = 71 := by
  have sized := @length_joined ' ' _ 5 (fun _ member => (shownGroup_shape member).1)
    (shownGroups_ne_nil first second)
  rw [← joinFingerprints_eq, List.length_map, length_shownResidues] at sized
  omega

end

theorem joinFingerprints_eq_iff {first second first' second' : FixedBytes fingerprintLen} :
    joinFingerprints first second = joinFingerprints first' second' ↔
      chunkResidues first = chunkResidues first' ∧
        chunkResidues second = chunkResidues second' := by
  rw [joinFingerprints_eq, joinFingerprints_eq,
    joined_inj (fun _ => space_not_mem_shownGroup) (shownGroups_ne_nil first second)
      (fun _ => space_not_mem_shownGroup) (shownGroups_ne_nil first' second'),
    (List.map_injective_iff.mpr (zeroPadded_injective 5)).eq_iff]
  constructor
  · intro same
    exact List.append_inj same (by rw [length_chunkResidues, length_chunkResidues])
  · intro same
    rw [same.1, same.2]

/-- Two safety numbers are the same line exactly if all twelve chunks agree modulo 100000,
and every one is twelve groups of five digits. -/
theorem rendering_shows_residues (first second first' second' : FixedBytes fingerprintLen) :
    (joinFingerprints first second = joinFingerprints first' second' ↔
      ∀ index,
        bigEndianValue (fingerprintChunk first index).bytes ≡
            bigEndianValue (fingerprintChunk first' index).bytes [MOD 100000] ∧
          bigEndianValue (fingerprintChunk second index).bytes ≡
            bigEndianValue (fingerprintChunk second' index).bytes [MOD 100000]) ∧
    IsDigitLine (joinFingerprints first second) ∧
    (joinFingerprints first second).length = 71 := by
  refine ⟨?_, isDigitLine_joinFingerprints first second, length_joinFingerprints first second⟩
  rw [joinFingerprints_eq_iff, chunkResidues_eq_iff, chunkResidues_eq_iff, forall_and]

end ChatixProtocol
