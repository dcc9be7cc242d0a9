import Mathlib.Algebra.Order.Ring.Nat
import Mathlib.Data.List.Basic

namespace ChatixProtocol

/-! Byte strings, byte arrays of a fixed size, and big-endian integers. -/

abbrev Bytes := List UInt8

/-! ## Fixed-size arrays -/

/-- An array of exactly `size` bytes. The length proof is part of the value, so
no later definition has to check it again. -/
@[ext] structure FixedBytes (size : Nat) where
  bytes : Bytes
  length_bytes : bytes.length = size
  deriving DecidableEq

namespace FixedBytes

attribute [simp] length_bytes

/-- The array with the given contents, when they have the right length. -/
def ofBytes? (size : Nat) (bytes : Bytes) : Option (FixedBytes size) :=
  if sized : bytes.length = size then some ⟨bytes, sized⟩ else none

theorem ofBytes?_eq_some_iff {size : Nat} {bytes : Bytes} {array : FixedBytes size} :
    ofBytes? size bytes = some array ↔ bytes = array.bytes := by
  rw [ofBytes?]
  split
  · rw [Option.some.injEq, FixedBytes.ext_iff]
  · rename_i wrongSize
    simp only [reduceCtorEq, false_iff]
    intro equal
    exact wrongSize (equal ▸ array.length_bytes)

def replicate (size : Nat) (byte : UInt8) : FixedBytes size where
  bytes := List.replicate size byte
  length_bytes := List.length_replicate

/-- The first `size` bytes, filled up with zeros. -/
def ofPrefix (size : Nat) (bytes : Bytes) : FixedBytes size where
  bytes := (bytes ++ List.replicate size 0).take size
  length_bytes := by simp

/-- The `count` bytes from position `start` on. -/
def window {size : Nat} (array : FixedBytes size) (start count : Nat)
    (inside : start + count ≤ size) : FixedBytes count where
  bytes := (array.bytes.drop start).take count
  length_bytes := by
    rw [List.length_take, List.length_drop, array.length_bytes]
    omega

def get {size : Nat} (array : FixedBytes size) (index : Fin size) : UInt8 :=
  array.bytes.get (index.cast array.length_bytes.symm)

/-- An array from one position on is a window followed by what comes after it. -/
theorem drop_eq_window_append {size : Nat} (array : FixedBytes size) (start count : Nat)
    (inside : start + count ≤ size) :
    array.bytes.drop start =
      (array.window start count inside).bytes ++ array.bytes.drop (start + count) := by
  rw [window, ← List.drop_drop, List.take_append_drop]

theorem drop_eq_get_cons {size : Nat} (array : FixedBytes size) (index : Fin size) :
    array.bytes.drop index.val = array.get index :: array.bytes.drop (index.val + 1) :=
  List.drop_eq_getElem_cons _

@[simp] theorem take_bytes {size : Nat} (array : FixedBytes size) :
    array.bytes.take size = array.bytes :=
  List.take_of_length_le (by simp)

/-- Filling up an array and cutting it back changes nothing. -/
theorem ofPrefix_ofPrefix {size large : Nat} (array : FixedBytes size) (fits : size ≤ large) :
    ofPrefix size (ofPrefix large array.bytes).bytes = array := by
  apply FixedBytes.ext
  simp only [ofPrefix]
  rw [List.take_append_of_le_length (by simp [fits]), List.take_take, Nat.min_eq_left fits,
    List.take_append_of_le_length (by simp), take_bytes]

theorem length_pair (first second : UInt8) : [first, second].length = 2 := rfl

theorem length_quadruple (first second third fourth : UInt8) :
    [first, second, third, fourth].length = 4 := rfl

theorem exists_two (array : FixedBytes 2) :
    ∃ first second, array = ⟨[first, second], rfl⟩ := by
  rcases array with ⟨bytes, sized⟩
  rcases List.length_eq_two.mp sized with ⟨first, second, rfl⟩
  exact ⟨first, second, rfl⟩

theorem exists_four (array : FixedBytes 4) :
    ∃ first second third fourth, array = ⟨[first, second, third, fourth], rfl⟩ := by
  rcases array with ⟨bytes, sized⟩
  rcases bytes with _ | ⟨first, rest⟩
  · cases sized
  · rcases List.length_eq_three.mp (Nat.succ.inj sized) with ⟨second, third, fourth, rfl⟩
    exact ⟨first, second, third, fourth, rfl⟩

theorem bytes_injective {size : Nat} :
    Function.Injective fun array : FixedBytes size => array.bytes := by
  intro left right equal
  exact FixedBytes.ext equal

end FixedBytes

/-- The first `count` bytes of a long enough input. -/
theorem exists_append_of_length_le {bytes : Bytes} {count : Nat}
    (enough : count ≤ bytes.length) :
    ∃ (array : FixedBytes count) (rest : Bytes), bytes = array.bytes ++ rest :=
  ⟨⟨bytes.take count, List.length_take_of_le enough⟩, bytes.drop count,
    (List.take_append_drop count bytes).symm⟩

/-- Two concatenations whose first parts are fixed-size arrays of one size
agree only when both parts do. -/
theorem FixedBytes.append_inj {size : Nat} {left right : FixedBytes size}
    {leftRest rightRest : Bytes} :
    left.bytes ++ leftRest = right.bytes ++ rightRest ↔
      left = right ∧ leftRest = rightRest := by
  constructor
  · intro equal
    rcases List.append_inj equal (by simp) with ⟨first, rest⟩
    exact ⟨FixedBytes.ext first, rest⟩
  · intro equal
    rcases equal with ⟨rfl, rfl⟩
    rfl

/-! ## Big-endian integers -/

/-- The low `width` base-256 digits of a number, most significant first. -/
def bigEndian : (width : Nat) → (value : Nat) → Bytes
  | 0, _ => []
  | width + 1, value =>
      UInt8.ofNat (value / 256 ^ width) :: bigEndian width value

/-- The number a byte string denotes, most significant byte first. -/
def bigEndianValue : Bytes → Nat
  | [] => 0
  | byte :: rest => byte.toNat * 256 ^ rest.length + bigEndianValue rest

@[simp] theorem length_bigEndian (width value : Nat) :
    (bigEndian width value).length = width := by
  induction width with
  | zero => rfl
  | succ width induction => rw [bigEndian, List.length_cons, induction]

theorem bigEndianValue_lt (bytes : Bytes) :
    bigEndianValue bytes < 256 ^ bytes.length := by
  induction bytes with
  | nil => simp [bigEndianValue]
  | cons byte rest induction =>
      have digit : byte.toNat + 1 ≤ 256 := byte.toNat_lt
      calc
        bigEndianValue (byte :: rest)
            < byte.toNat * 256 ^ rest.length + 256 ^ rest.length := by
              rw [bigEndianValue]
              exact Nat.add_lt_add_left induction _
        _ = (byte.toNat + 1) * 256 ^ rest.length := (Nat.succ_mul _ _).symm
        _ ≤ 256 * 256 ^ rest.length := Nat.mul_le_mul_right _ digit
        _ = 256 ^ (byte :: rest).length := by
              rw [List.length_cons, Nat.pow_succ, Nat.mul_comm]

/-- Digits above the encoded width do not matter. -/
theorem bigEndian_add_mul (width value extra : Nat) :
    bigEndian width (extra * 256 ^ width + value) = bigEndian width value := by
  induction width generalizing extra with
  | zero => rfl
  | succ width induction =>
      have positive : 0 < 256 ^ width := Nat.pow_pos (by decide)
      have regroup : extra * 256 ^ (width + 1) + value =
          extra * 256 * 256 ^ width + value := by
        rw [Nat.pow_succ, Nat.mul_comm (256 ^ width), Nat.mul_assoc]
      rw [regroup, bigEndian, bigEndian, induction (extra * 256)]
      congr 1
      rw [Nat.add_comm, Nat.add_mul_div_right _ _ positive]
      apply UInt8.toNat_inj.mp
      simp

theorem bigEndian_bigEndianValue (bytes : Bytes) :
    bigEndian bytes.length (bigEndianValue bytes) = bytes := by
  induction bytes with
  | nil => rfl
  | cons byte rest induction =>
      have positive : 0 < 256 ^ rest.length := Nat.pow_pos (by decide)
      have small : bigEndianValue rest / 256 ^ rest.length = 0 :=
        Nat.div_eq_of_lt (bigEndianValue_lt rest)
      rw [List.length_cons, bigEndian, bigEndianValue, bigEndian_add_mul, induction]
      congr 1
      rw [Nat.add_comm, Nat.add_mul_div_right _ _ positive, small, Nat.zero_add]
      exact UInt8.ofNat_toNat

theorem bigEndianValue_bigEndian {width value : Nat} (fits : value < 256 ^ width) :
    bigEndianValue (bigEndian width value) = value := by
  induction width generalizing value with
  | zero =>
      rw [Nat.pow_zero] at fits
      simp only [bigEndian, bigEndianValue]
      omega
  | succ width induction =>
      have positive : 0 < 256 ^ width := Nat.pow_pos (by decide)
      have digit : value / 256 ^ width < 256 :=
        Nat.div_lt_of_lt_mul (by rwa [Nat.pow_succ] at fits)
      have split : value / 256 ^ width * 256 ^ width + value % 256 ^ width = value := by
        rw [Nat.mul_comm]
        exact Nat.div_add_mod value (256 ^ width)
      have lower : bigEndian width value = bigEndian width (value % 256 ^ width) := by
        conv_lhs => rw [← split]
        exact bigEndian_add_mul width _ _
      rw [bigEndian, bigEndianValue, lower, induction (Nat.mod_lt _ positive),
        length_bigEndian]
      simpa [Nat.mod_eq_of_lt digit] using split

/-- The same digits as a fixed-size array. -/
def bigEndianArray (width value : Nat) : FixedBytes width where
  bytes := bigEndian width value
  length_bytes := length_bigEndian width value

@[simp] theorem bigEndianArray_bigEndianValue {width : Nat} (array : FixedBytes width) :
    bigEndianArray width (bigEndianValue array.bytes) = array := by
  have inverse := bigEndian_bigEndianValue array.bytes
  rw [array.length_bytes] at inverse
  exact FixedBytes.ext inverse

theorem FixedBytes.bigEndianValue_lt {width : Nat} (array : FixedBytes width) :
    bigEndianValue array.bytes < 256 ^ width := by
  have bound := ChatixProtocol.bigEndianValue_lt array.bytes
  rwa [array.length_bytes] at bound

/-! ### Machine integers -/

def u16ToBeBytes (value : UInt16) : FixedBytes 2 :=
  bigEndianArray 2 value.toNat

def u16FromBeBytes (array : FixedBytes 2) : UInt16 :=
  UInt16.ofNat (bigEndianValue array.bytes)

def u32ToBeBytes (value : UInt32) : FixedBytes 4 :=
  bigEndianArray 4 value.toNat

def u32FromBeBytes (array : FixedBytes 4) : UInt32 :=
  UInt32.ofNat (bigEndianValue array.bytes)

def u64ToBeBytes (value : UInt64) : FixedBytes 8 :=
  bigEndianArray 8 value.toNat

def u64FromBeBytes (array : FixedBytes 8) : UInt64 :=
  UInt64.ofNat (bigEndianValue array.bytes)

example : (u32ToBeBytes 0x01020304).bytes = [1, 2, 3, 4] := by decide

@[simp] theorem u16FromBeBytes_toBeBytes (value : UInt16) :
    u16FromBeBytes (u16ToBeBytes value) = value := by
  rw [u16FromBeBytes, u16ToBeBytes, bigEndianArray,
    bigEndianValue_bigEndian value.toNat_lt, UInt16.ofNat_toNat]

@[simp] theorem u32FromBeBytes_toBeBytes (value : UInt32) :
    u32FromBeBytes (u32ToBeBytes value) = value := by
  rw [u32FromBeBytes, u32ToBeBytes, bigEndianArray,
    bigEndianValue_bigEndian value.toNat_lt, UInt32.ofNat_toNat]

@[simp] theorem u64FromBeBytes_toBeBytes (value : UInt64) :
    u64FromBeBytes (u64ToBeBytes value) = value := by
  rw [u64FromBeBytes, u64ToBeBytes, bigEndianArray,
    bigEndianValue_bigEndian value.toNat_lt, UInt64.ofNat_toNat]

@[simp] theorem u16ToBeBytes_fromBeBytes (array : FixedBytes 2) :
    u16ToBeBytes (u16FromBeBytes array) = array := by
  rw [u16ToBeBytes, u16FromBeBytes, UInt16.toNat_ofNat_of_lt' array.bigEndianValue_lt,
    bigEndianArray_bigEndianValue]

@[simp] theorem u32ToBeBytes_fromBeBytes (array : FixedBytes 4) :
    u32ToBeBytes (u32FromBeBytes array) = array := by
  rw [u32ToBeBytes, u32FromBeBytes, UInt32.toNat_ofNat_of_lt' array.bigEndianValue_lt,
    bigEndianArray_bigEndianValue]

@[simp] theorem u64ToBeBytes_fromBeBytes (array : FixedBytes 8) :
    u64ToBeBytes (u64FromBeBytes array) = array := by
  rw [u64ToBeBytes, u64FromBeBytes, UInt64.toNat_ofNat_of_lt' array.bigEndianValue_lt,
    bigEndianArray_bigEndianValue]

theorem u64ToBeBytes_injective : Function.Injective u64ToBeBytes :=
  Function.LeftInverse.injective u64FromBeBytes_toBeBytes

end ChatixProtocol
