import Mathlib.Data.List.Basic

/-! # Blocks cut from a sequence

A sequence is laid out in blocks, and only its front is available. Some of the
blocks lie in the front as a whole, and these are the first ones. -/

namespace ChatixProtocol.Blocks

variable {α : Type*}

/-- The number of blocks that lie within the first `limit` entries. -/
def whole : List (List α) → Nat → Nat
  | [], _ => 0
  | block :: blocks, limit =>
      if block.length ≤ limit then whole blocks (limit - block.length) + 1 else 0

theorem whole_cons_of_le {block : List α} {limit : Nat} (fits : block.length ≤ limit)
    (blocks : List (List α)) :
    whole (block :: blocks) limit = whole blocks (limit - block.length) + 1 := by
  rw [whole, if_pos fits]

theorem whole_cons_of_lt {block : List α} {limit : Nat} (cut : limit < block.length)
    (blocks : List (List α)) : whole (block :: blocks) limit = 0 := by
  rw [whole, if_neg (Nat.not_le.mpr cut)]

theorem whole_mono (blocks : List (List α)) {limit limit' : Nat} (longer : limit ≤ limit') :
    whole blocks limit ≤ whole blocks limit' := by
  induction blocks generalizing limit limit' with
  | nil => exact Nat.le_refl 0
  | cons block blocks induction =>
      by_cases fits : block.length ≤ limit
      · rw [whole_cons_of_le fits, whole_cons_of_le (Nat.le_trans fits longer)]
        exact Nat.succ_le_succ (induction (Nat.sub_le_sub_right longer _))
      · rw [whole_cons_of_lt (Nat.not_le.mp fits)]
        exact Nat.zero_le _

theorem whole_zero {blocks : List (List α)} (nonempty : ∀ block ∈ blocks, block ≠ []) :
    whole blocks 0 = 0 := by
  cases blocks with
  | nil => rfl
  | cons block blocks =>
      exact whole_cons_of_lt (List.length_pos_of_ne_nil (nonempty block List.mem_cons_self)) _

/-- A part of the first block holds the block only if it is the block. -/
theorem whole_part {block part : List α} {blocks : List (List α)} (cut : part <+: block)
    (nonempty : ∀ other ∈ blocks, other ≠ []) :
    whole (block :: blocks) part.length ≤ 1 ∧
      (part ≠ block → whole (block :: blocks) part.length = 0) := by
  have shorter := cut.length_le
  constructor
  · by_cases fits : block.length ≤ part.length
    · have none : whole blocks (part.length - block.length) = 0 := by
        rw [Nat.sub_eq_zero_of_le shorter, whole_zero nonempty]
      apply Nat.le_of_eq
      rw [whole_cons_of_le fits, none]
    · rw [whole_cons_of_lt (Nat.not_le.mp fits)]
      exact Nat.zero_le 1
  · intro different
    apply whole_cons_of_lt
    apply Nat.lt_of_le_of_ne shorter
    intro sameLength
    exact different (cut.eq_of_length sameLength)

end ChatixProtocol.Blocks
