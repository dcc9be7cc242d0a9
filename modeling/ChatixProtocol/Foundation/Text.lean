import Mathlib.Algebra.Order.Ring.Nat
import Mathlib.Data.List.Basic

namespace ChatixProtocol

/-! Numerals filled up with zeros, and lines of words with a separator between them. -/

/-! ## Padded numerals -/

/-- The digits of a number in the given base, filled up with zeros to a width. -/
def paddedDigits (base width value : Nat) : List Char :=
  List.leftpad width '0' (Nat.toDigits base value)

section

variable {base width value : Nat}

/-- Zeros in front do not change what a numeral denotes. -/
theorem ofDigitChars_paddedDigits (large : 1 < base) (decimal : base ≤ 10) :
    Nat.ofDigitChars base (paddedDigits base width value) 0 = value := by
  rw [paddedDigits, List.leftpad, Nat.ofDigitChars_append, Nat.ofDigitChars_replicate_zero,
    Nat.mul_zero, Nat.ofDigitChars_toDigits large decimal]

theorem paddedDigits_injective (large : 1 < base) (decimal : base ≤ 10) (width : Nat) :
    Function.Injective (paddedDigits base width) :=
  Function.LeftInverse.injective fun _ => ofDigitChars_paddedDigits large decimal

theorem length_paddedDigits (large : 1 < base) (positive : 0 < width)
    (fits : value < base ^ width) : (paddedDigits base width value).length = width := by
  rw [paddedDigits, List.length_leftpad]
  exact Nat.max_eq_left ((Nat.length_toDigits_le_iff large positive).mpr fits)

theorem isDigit_of_mem_paddedDigits (positive : 0 < base) (decimal : base ≤ 10) {digit : Char}
    (member : digit ∈ paddedDigits base width value) : digit.isDigit = true := by
  rcases List.mem_append.mp member with zero | written
  · rw [List.eq_of_mem_replicate zero]
    rfl
  · exact Nat.isDigit_of_mem_toDigits positive decimal written

end

/-! ## Joined words -/

section

variable {separator : Char} {words words' : List String}

/-- Words without the separator can be read back from their line. -/
theorem splitOn_joined (free : ∀ word ∈ words, separator ∉ word.toList) (some : words ≠ []) :
    ((String.singleton separator).intercalate words).toList.splitOn separator =
      words.map String.toList := by
  rw [String.toList_intercalate, String.toList_singleton]
  apply List.splitOn_intercalate
  · intro characters member
    rcases List.mem_map.mp member with ⟨word, inLine, rfl⟩
    exact free word inLine
  · simpa using some

theorem joined_inj (free : ∀ word ∈ words, separator ∉ word.toList) (some : words ≠ [])
    (free' : ∀ word ∈ words', separator ∉ word.toList) (some' : words' ≠ []) :
    (String.singleton separator).intercalate words =
      (String.singleton separator).intercalate words' ↔ words = words' := by
  constructor
  · intro same
    have split := congrArg (fun line : String => line.toList.splitOn separator) same
    simp only [splitOn_joined free some, splitOn_joined free' some'] at split
    exact List.map_injective_iff.mpr (fun _ _ => String.toList_inj.mp) split
  · intro same
    rw [same]

/-- Every word but the last takes one character more than its width. -/
theorem length_joined {width : Nat} (sized : ∀ word ∈ words, word.length = width)
    (some : words ≠ []) :
    ((String.singleton separator).intercalate words).length + 1 =
      words.length * (width + 1) := by
  induction words with
  | nil => exact absurd rfl some
  | cons word words induction =>
      have first : word.length = width := sized word (by simp)
      cases words with
      | nil => simp [first]
      | cons next words =>
          have rest := induction (fun other member => sized other (by simp [member])) (by simp)
          have grown : (word :: next :: words).length * (width + 1) =
              (next :: words).length * (width + 1) + (width + 1) := Nat.succ_mul _ _
          rw [String.intercalate_cons_cons, String.length_append, String.length_append,
            String.length_singleton, first, grown, ← rest]
          omega

end

end ChatixProtocol
