import ChatixProtocol.Foundation.Bytes

namespace ChatixProtocol

/-! The result of a fallible computation that may also abort. A function that
returns `Result` either succeeds, returns an error, or panics on an
out-of-range slice, index or array conversion. -/

inductive Outcome (ε : Type u) (α : Type v) where
  | ok (value : α)
  | err (error : ε)
  | panic
  deriving DecidableEq, Repr

namespace Outcome

def bind (first : Outcome ε α) (next : α → Outcome ε β) : Outcome ε β :=
  match first with
  | .ok value => next value
  | .err error => .err error
  | .panic => .panic

instance : Monad (Outcome ε) where
  pure := .ok
  bind := Outcome.bind

@[simp] theorem pure_eq_ok (value : α) : (pure value : Outcome ε α) = .ok value := (rfl)

@[simp] theorem ok_bind (value : α) (next : α → Outcome ε β) :
    (Outcome.ok value >>= next) = next value := (rfl)

@[simp] theorem err_bind (error : ε) (next : α → Outcome ε β) :
    ((Outcome.err error : Outcome ε α) >>= next) = .err error := (rfl)

@[simp] theorem panic_bind (next : α → Outcome ε β) :
    ((Outcome.panic : Outcome ε α) >>= next) = .panic := (rfl)

/-- A sequence succeeds exactly when both of its parts do. -/
@[simp] theorem bind_eq_ok_iff {first : Outcome ε α} {next : α → Outcome ε β} {result : β} :
    (first >>= next) = .ok result ↔ ∃ value, first = .ok value ∧ next value = .ok result := by
  cases first <;> simp

/-- The `?` operator between two error types: convert the error with `From`. -/
def mapError (convert : ε → ε') : Outcome ε α → Outcome ε' α
  | .ok value => .ok value
  | .err error => .err (convert error)
  | .panic => .panic

@[simp] theorem mapError_eq_ok_iff {convert : ε → ε'} {outcome : Outcome ε α} {value : α} :
    outcome.mapError convert = .ok value ↔ outcome = .ok value := by
  cases outcome <;> simp [mapError]

/-- `ok_or`: a missing value becomes the given error. -/
def ofOption (error : ε) : Option α → Outcome ε α
  | some value => .ok value
  | none => .err error

@[simp] theorem ofOption_eq_ok_iff {error : ε} {value? : Option α} {value : α} :
    ofOption error value? = .ok value ↔ value? = some value := by
  cases value? <;> simp [ofOption]

/-- The early return `if refused { return Err(error) }`. -/
def refuseIf (refused : Prop) [Decidable refused] (error : ε) : Outcome ε Unit :=
  if refused then .err error else .ok ()

@[simp] theorem refuseIf_eq_ok_iff {refused : Prop} [Decidable refused] {error : ε}
    {value : Unit} : refuseIf refused error = .ok value ↔ ¬refused := by
  rw [refuseIf]
  by_cases holds : refused <;> simp [holds]

theorem refuseIf_of_not {refused : Prop} [Decidable refused] {error : ε}
    (holds : ¬refused) : refuseIf refused error = .ok () :=
  refuseIf_eq_ok_iff.mpr holds

@[simp] theorem refuseIf_ne_panic {refused : Prop} [Decidable refused] {error : ε} :
    refuseIf refused error ≠ .panic := by
  rw [refuseIf]
  split <;> simp

/-- A computation that panics outside its precondition. -/
theorem ite_panic_eq_ok_iff {inside : Prop} [Decidable inside] {value result : α} :
    (if inside then .ok value else .panic : Outcome ε α) = .ok result ↔
      inside ∧ value = result := by
  by_cases holds : inside <;> simp [holds]

theorem ite_panic_eq_panic_iff {inside : Prop} [Decidable inside] {value : α} :
    (if inside then .ok value else .panic : Outcome ε α) = .panic ↔ ¬inside := by
  by_cases holds : inside <;> simp [holds]

end Outcome

/-! ## Slices

Every operation panics where the source's slice operation does. -/

/-- `bytes[index]` -/
def indexAt (bytes : Bytes) (index : Nat) : Outcome ε UInt8 :=
  match bytes[index]? with
  | some byte => .ok byte
  | none => .panic

/-- `&bytes[start..stop]` -/
def slice (bytes : Bytes) (start stop : Nat) : Outcome ε Bytes :=
  if start ≤ stop ∧ stop ≤ bytes.length then
    .ok ((bytes.take stop).drop start)
  else
    .panic

/-- `&bytes[start..]` -/
def sliceFrom (bytes : Bytes) (start : Nat) : Outcome ε Bytes :=
  if start ≤ bytes.length then .ok (bytes.drop start) else .panic

/-- `bytes.split_at(middle)` -/
def splitAt (bytes : Bytes) (middle : Nat) : Outcome ε (Bytes × Bytes) :=
  if middle ≤ bytes.length then
    .ok (bytes.take middle, bytes.drop middle)
  else
    .panic

/-- `bytes.try_into().map_err(|_| error)` into `[u8; size]` -/
def tryIntoArray (size : Nat) (bytes : Bytes) (error : ε) : Outcome ε (FixedBytes size) :=
  .ofOption error (FixedBytes.ofBytes? size bytes)

/-- `out.copy_from_slice(bytes)` into a whole `[u8; size]` -/
def copyFromSlice (size : Nat) (bytes : Bytes) : Outcome ε (FixedBytes size) :=
  match FixedBytes.ofBytes? size bytes with
  | some array => .ok array
  | none => .panic

/-! The bytes before and after a known split point. -/

@[simp] theorem sliceFrom_append (front rest : Bytes) :
    (sliceFrom (front ++ rest) front.length : Outcome ε Bytes) = .ok rest := by
  simp [sliceFrom]

theorem sliceFrom_eq_ok_iff {bytes rest : Bytes} {start : Nat} :
    (sliceFrom bytes start : Outcome ε Bytes) = .ok rest ↔
      start ≤ bytes.length ∧ bytes.drop start = rest :=
  Outcome.ite_panic_eq_ok_iff

theorem slice_eq_ok_iff {bytes part : Bytes} {start stop : Nat} :
    (slice bytes start stop : Outcome ε Bytes) = .ok part ↔
      (start ≤ stop ∧ stop ≤ bytes.length) ∧ (bytes.take stop).drop start = part :=
  Outcome.ite_panic_eq_ok_iff

theorem splitAt_eq_ok_iff {bytes front rest : Bytes} {middle : Nat} :
    (splitAt bytes middle : Outcome ε (Bytes × Bytes)) = .ok (front, rest) ↔
      bytes = front ++ rest ∧ front.length = middle := by
  rw [splitAt]
  split
  · rename_i inside
    simp only [Outcome.ok.injEq, Prod.mk.injEq]
    constructor
    · intro parts
      rcases parts with ⟨rfl, rfl⟩
      exact ⟨(List.take_append_drop middle bytes).symm, List.length_take_of_le inside⟩
    · intro joined
      rcases joined with ⟨rfl, rfl⟩
      exact ⟨List.take_left' rfl, List.drop_left' rfl⟩
  · rename_i outside
    simp only [reduceCtorEq, false_iff]
    intro joined
    rcases joined with ⟨rfl, rfl⟩
    exact outside (by simp)

/-- A slice splits what follows its start. -/
theorem drop_of_slice {bytes part : Bytes} {start stop : Nat}
    (sliced : (slice bytes start stop : Outcome ε Bytes) = .ok part) :
    bytes.drop start = part ++ bytes.drop stop := by
  rcases slice_eq_ok_iff.mp sliced with ⟨⟨ordered, _⟩, rfl⟩
  conv_lhs => rw [← List.take_append_drop stop bytes]
  rw [List.drop_append]
  rcases Nat.le_total bytes.length stop with short | long
  · rw [List.take_of_length_le short, List.drop_of_length_le short]
    simp
  · have exact : start - (bytes.take stop).length = 0 := by
      rw [List.length_take_of_le long]
      omega
    rw [exact, List.drop_zero]

/-- A slice that begins right after the first `start` bytes. -/
theorem slice_after_eq_ok_iff (front : Bytes) {body part : Bytes} {start count : Nat}
    (atStart : start = front.length) :
    (slice (front ++ body) start (start + count) : Outcome ε Bytes) = .ok part ↔
      count ≤ body.length ∧ body.take count = part := by
  subst atStart
  rw [slice_eq_ok_iff, List.take_length_add_append, List.drop_left' rfl, List.length_append]
  constructor
  · intro sliced
    rcases sliced with ⟨⟨_, inside⟩, taken⟩
    exact ⟨by omega, taken⟩
  · intro taken
    rcases taken with ⟨inside, taken⟩
    exact ⟨⟨by omega, by omega⟩, taken⟩

/-- The first field of a record of arrays. -/
@[simp] theorem slice_first {size : Nat} (array : FixedBytes size) (rest : Bytes) :
    (slice (array.bytes ++ rest) 0 size : Outcome ε Bytes) = .ok array.bytes := by
  simp [slice_eq_ok_iff]

/-- The second field of a record of arrays. -/
@[simp] theorem slice_second {before size : Nat} (front : FixedBytes before)
    (array : FixedBytes size) (rest : Bytes) :
    (slice (front.bytes ++ (array.bytes ++ rest)) before (before + size) : Outcome ε Bytes) =
      .ok array.bytes := by
  rw [slice_after_eq_ok_iff _ front.length_bytes.symm]
  simp

@[simp] theorem slice_last {before size : Nat} (front : FixedBytes before)
    (array : FixedBytes size) :
    (slice (front.bytes ++ array.bytes) before (before + size) : Outcome ε Bytes) =
      .ok array.bytes := by
  rw [slice_after_eq_ok_iff _ front.length_bytes.symm]
  simp

@[simp] theorem slice_third {first second size : Nat} (front : FixedBytes first)
    (middle : FixedBytes second) (array : FixedBytes size) (rest : Bytes) :
    (slice (front.bytes ++ (middle.bytes ++ (array.bytes ++ rest))) (first + second)
      (first + second + size) : Outcome ε Bytes) = .ok array.bytes := by
  rw [← List.append_assoc, slice_after_eq_ok_iff _ (by simp)]
  simp

@[simp] theorem slice_third_last {first second size : Nat} (front : FixedBytes first)
    (middle : FixedBytes second) (array : FixedBytes size) :
    (slice (front.bytes ++ (middle.bytes ++ array.bytes)) (first + second)
      (first + second + size) : Outcome ε Bytes) = .ok array.bytes := by
  simpa using slice_third (ε := ε) front middle array []

/-- Two adjacent slices from the start, and what is left after them. -/
theorem eq_append_of_slices {bytes first second : Bytes} {middle stop : Nat}
    (firstSliced : (slice bytes 0 middle : Outcome ε Bytes) = .ok first)
    (secondSliced : (slice bytes middle stop : Outcome ε Bytes) = .ok second) :
    bytes = first ++ (second ++ bytes.drop stop) := by
  calc
    bytes = bytes.drop 0 := List.drop_zero.symm
    _ = first ++ bytes.drop middle := drop_of_slice firstSliced
    _ = first ++ (second ++ bytes.drop stop) := by rw [← drop_of_slice secondSliced]

@[simp] theorem indexAt_cons_zero (byte : UInt8) (rest : Bytes) :
    (indexAt (byte :: rest) 0 : Outcome ε UInt8) = .ok byte := (rfl)

@[simp] theorem indexAt_cons_succ (byte : UInt8) (rest : Bytes) (index : Nat) :
    (indexAt (byte :: rest) (index + 1) : Outcome ε UInt8) = indexAt rest index := by
  simp [indexAt]

theorem indexAt_append (front : Bytes) (byte : UInt8) (rest : Bytes) :
    (indexAt (front ++ byte :: rest) front.length : Outcome ε UInt8) = .ok byte := by
  simp [indexAt]

@[simp] theorem tryIntoArray_eq_ok_iff {size : Nat} {bytes : Bytes} {error : ε}
    {array : FixedBytes size} :
    tryIntoArray size bytes error = .ok array ↔ bytes = array.bytes := by
  rw [tryIntoArray, Outcome.ofOption_eq_ok_iff, FixedBytes.ofBytes?_eq_some_iff]

@[simp] theorem copyFromSlice_eq_ok_iff {size : Nat} {bytes : Bytes}
    {array : FixedBytes size} :
    (copyFromSlice size bytes : Outcome ε (FixedBytes size)) = .ok array ↔
      bytes = array.bytes := by
  rw [← FixedBytes.ofBytes?_eq_some_iff, copyFromSlice]
  split <;> simp_all

@[simp] theorem tryIntoArray_bytes {size : Nat} (array : FixedBytes size) (error : ε) :
    tryIntoArray size array.bytes error = .ok array :=
  tryIntoArray_eq_ok_iff.mpr rfl

@[simp] theorem copyFromSlice_bytes {size : Nat} (array : FixedBytes size) :
    (copyFromSlice size array.bytes : Outcome ε (FixedBytes size)) = .ok array :=
  copyFromSlice_eq_ok_iff.mpr rfl

/-! ## Machine sizes -/

def usizeMax : Nat := 2 ^ 64 - 1

/-- `left.checked_add(right)` on `usize` -/
def usizeCheckedAdd (left right : Nat) : Option Nat :=
  if left + right ≤ usizeMax then some (left + right) else none

theorem usizeCheckedAdd_eq_some_iff {left right sum : Nat} :
    usizeCheckedAdd left right = some sum ↔ left + right ≤ usizeMax ∧ left + right = sum := by
  rw [usizeCheckedAdd]
  by_cases fits : left + right ≤ usizeMax <;> simp [fits]

end ChatixProtocol
