import ChatixProtocol.Foundation.Outcome

/-! # Hardened computations

A hardened computation performs the same steps as the code, and aborts wherever
a step goes wrong in any way: a conversion of unequal length that the code would
report as an error, a sum beyond a limit, a difference below zero. A computation
that agrees with its hardened form and does not panic performs no such step.
-/

namespace ChatixProtocol

/-- `left + right` on `usize`, which aborts beyond the limit. -/
def addWithin (limit left right : Nat) : Outcome ε Nat :=
  if left + right ≤ limit then .ok (left + right) else .panic

/-- `left.checked_add(right).ok_or(error)`, which aborts beyond the limit. -/
def checkedAddWithin (limit left right : Nat) (error : ε) : Outcome ε Nat := do
  let _ ← addWithin limit left right
  .ofOption error (usizeCheckedAdd left right)

/-- `left - right` on `usize` -/
def subtract (left right : Nat) : Outcome ε Nat :=
  if right ≤ left then .ok (left - right) else .panic

section

variable {limit left right : Nat}

theorem addWithin_eq_ok_iff {sum : Nat} :
    (addWithin limit left right : Outcome ε Nat) = .ok sum ↔
      left + right ≤ limit ∧ left + right = sum :=
  Outcome.ite_panic_eq_ok_iff

theorem addWithin_eq_panic_iff :
    (addWithin limit left right : Outcome ε Nat) = .panic ↔ limit < left + right :=
  Outcome.ite_panic_eq_panic_iff.trans Nat.not_le

theorem checkedAddWithin_eq_panic_iff {error : ε} :
    checkedAddWithin limit left right error = .panic ↔ limit < left + right := by
  rw [← addWithin_eq_panic_iff (ε := ε), checkedAddWithin]
  cases added : (addWithin limit left right : Outcome ε Nat) with
  | ok sum => cases usizeCheckedAdd left right <;> simp [Outcome.ofOption]
  | err => simp
  | panic => simp

theorem subtract_eq_ok_iff {difference : Nat} :
    (subtract left right : Outcome ε Nat) = .ok difference ↔
      right ≤ left ∧ left - right = difference :=
  Outcome.ite_panic_eq_ok_iff

theorem subtract_eq_panic_iff :
    (subtract left right : Outcome ε Nat) = .panic ↔ left < right :=
  Outcome.ite_panic_eq_panic_iff.trans Nat.not_le

end

namespace Outcome

theorem ofOption_bind (error : ε) (value? : Option α) (next : α → Option β) :
    ofOption error (value?.bind next) =
      ofOption error value? >>= fun value => ofOption error (next value) := by
  cases value? <;> rfl

/-- The plain computation does what the hardened one does, neither panics, and a
value satisfies the postcondition. -/
structure Agrees (hardened plain : Outcome ε α) (post : α → Prop) : Prop where
  same : hardened = plain
  returns : plain ≠ .panic
  holds : ∀ value, plain = .ok value → post value

/-- No postcondition. -/
abbrev Hardens (hardened plain : Outcome ε α) : Prop :=
  hardened.Agrees plain fun _ => True

namespace Agrees

/-! ## Composition -/

theorem ok {value : α} {post : α → Prop} (holds : post value) :
    (Outcome.ok value : Outcome ε α).Agrees (.ok value) post where
  same := rfl
  returns := by simp
  holds := by
    intro result same
    cases same
    exact holds

theorem err (error : ε) (post : α → Prop) :
    (Outcome.err error : Outcome ε α).Agrees (.err error) post where
  same := rfl
  returns := by simp
  holds := by simp

theorem bind {hardened plain : Outcome ε α} {hardenedNext plainNext : α → Outcome ε β}
    {middle : α → Prop} {post : β → Prop} (first : hardened.Agrees plain middle)
    (next : ∀ value, middle value → (hardenedNext value).Agrees (plainNext value) post) :
    (hardened >>= hardenedNext).Agrees (plain >>= plainNext) post := by
  rcases first with ⟨rfl, returns, holds⟩
  cases hardened with
  | ok value => exact next value (holds value rfl)
  | err error => exact err error post
  | panic => exact absurd rfl returns

theorem mono {hardened plain : Outcome ε α} {strong weak : α → Prop}
    (agrees : hardened.Agrees plain strong) (weaker : ∀ value, strong value → weak value) :
    hardened.Agrees plain weak where
  same := agrees.same
  returns := agrees.returns
  holds value computed := weaker value (agrees.holds value computed)

/-- A step that cannot fail and that only the hardened computation performs. -/
theorem passing {step : Outcome ε α} {value : α} {hardenedNext : α → Outcome ε β}
    {plain : Outcome ε β} {post : β → Prop} (passes : step = .ok value)
    (next : (hardenedNext value).Agrees plain post) :
    (step >>= hardenedNext).Agrees plain post := by
  rw [passes]
  exact next

/-! ## Early returns -/

theorem refuseIf (refused : Prop) [Decidable refused] (error : ε) :
    (Outcome.refuseIf refused error).Agrees (.refuseIf refused error) fun _ => ¬refused where
  same := rfl
  returns := refuseIf_ne_panic
  holds _ passed := refuseIf_eq_ok_iff.mp passed

theorem ofOption (error : ε) (value? : Option α) :
    (Outcome.ofOption error value?).Agrees (.ofOption error value?)
      fun value => value? = some value := by
  cases value? with
  | some value => exact ok rfl
  | none => exact err error _

/-! ## Arithmetic -/

theorem add {limit left right : Nat} {hardenedNext : Nat → Outcome ε β} {plain : Outcome ε β}
    {post : β → Prop} (within : left + right ≤ limit)
    (next : (hardenedNext (left + right)).Agrees plain post) :
    (addWithin limit left right >>= hardenedNext).Agrees plain post :=
  passing (addWithin_eq_ok_iff.mpr ⟨within, rfl⟩) next

theorem subtract {left right : Nat} {hardenedNext : Nat → Outcome ε β} {plain : Outcome ε β}
    {post : β → Prop} (within : right ≤ left)
    (next : (hardenedNext (left - right)).Agrees plain post) :
    (ChatixProtocol.subtract left right >>= hardenedNext).Agrees plain post :=
  passing (subtract_eq_ok_iff.mpr ⟨within, rfl⟩) next

theorem checkedAdd {limit left right : Nat} (error : ε) (within : left + right ≤ limit) :
    (checkedAddWithin limit left right error).Agrees
      (.ofOption error (usizeCheckedAdd left right)) fun sum => sum = left + right := by
  apply add within
  apply (ofOption error _).mono
  intro sum added
  exact (usizeCheckedAdd_eq_some_iff.mp added).2.symm

/-- Two checked additions in a row. -/
theorem checkedSum {limit first second third : Nat} (error : ε)
    (within : first + second + third ≤ limit) :
    (checkedAddWithin limit first second error >>=
      (checkedAddWithin limit · third error)).Agrees
      (.ofOption error ((usizeCheckedAdd first second).bind (usizeCheckedAdd · third)))
      fun sum => sum = first + second + third := by
  rw [ofOption_bind]
  apply bind (checkedAdd error (by omega))
  intro sum same
  subst same
  exact checkedAdd error within

/-! ## Slices -/

variable {bytes : Bytes}

theorem indexAt {index : Nat} (inside : index < bytes.length) :
    (ChatixProtocol.indexAt bytes index : Outcome ε UInt8).Hardens
      (ChatixProtocol.indexAt bytes index) := by
  rw [ChatixProtocol.indexAt, List.getElem?_eq_getElem inside]
  exact ok trivial

theorem slice {start stop : Nat} (ordered : start ≤ stop) (inside : stop ≤ bytes.length) :
    (ChatixProtocol.slice bytes start stop : Outcome ε Bytes).Agrees
      (ChatixProtocol.slice bytes start stop) fun part => part.length = stop - start := by
  rw [ChatixProtocol.slice, if_pos ⟨ordered, inside⟩]
  apply ok
  rw [List.length_drop, List.length_take_of_le inside]

theorem sliceFrom {start : Nat} (inside : start ≤ bytes.length) :
    (ChatixProtocol.sliceFrom bytes start : Outcome ε Bytes).Agrees
      (ChatixProtocol.sliceFrom bytes start) fun rest => rest.length = bytes.length - start := by
  rw [ChatixProtocol.sliceFrom, if_pos inside]
  exact ok List.length_drop

theorem splitAt {middle : Nat} (inside : middle ≤ bytes.length) :
    (ChatixProtocol.splitAt bytes middle : Outcome ε (Bytes × Bytes)).Agrees
      (ChatixProtocol.splitAt bytes middle)
      fun parts => parts.1.length = middle ∧ parts.2.length = bytes.length - middle := by
  rw [ChatixProtocol.splitAt, if_pos inside]
  exact ok ⟨List.length_take_of_le inside, List.length_drop⟩

/-! ## Conversions of equal length -/

theorem copyFromSlice {size : Nat} (sized : bytes.length = size) :
    (ChatixProtocol.copyFromSlice size bytes : Outcome ε (FixedBytes size)).Agrees
      (ChatixProtocol.copyFromSlice size bytes) fun array => array.bytes = bytes := by
  have same : bytes = (FixedBytes.mk bytes sized).bytes := rfl
  rw [copyFromSlice_eq_ok_iff.mpr same]
  exact ok rfl

/-- An equal length leaves no error to report. -/
theorem tryIntoArray {size : Nat} (error : ε) (sized : bytes.length = size) :
    (ChatixProtocol.copyFromSlice size bytes : Outcome ε (FixedBytes size)).Hardens
      (ChatixProtocol.tryIntoArray size bytes error) := by
  have same : bytes = (FixedBytes.mk bytes sized).bytes := rfl
  rw [copyFromSlice_eq_ok_iff.mpr same, tryIntoArray_eq_ok_iff.mpr same]
  exact ok trivial

end Agrees

end Outcome

end ChatixProtocol
