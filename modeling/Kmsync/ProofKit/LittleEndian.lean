import Mathlib.Algebra.Order.Ring.Nat
import Mathlib.Tactic.Ring
import Mathlib.Tactic.NormNum

/-! Little-endian bytes of fixed-width integers.  `LeInt` names the integer types with such a form;
`toLeBytes` writes one and `fromLeBytes?` reads it back, from exactly as many bytes. -/

namespace ProofKit

/-- The `width` little-endian bytes of `n`, modulo `256 ^ width`. -/
def leBytes : Nat → Nat → List UInt8
  | 0, _ => []
  | width + 1, n => UInt8.ofNat n :: leBytes width (n / 256)

/-- The number whose little-endian bytes are given. -/
def leValue : List UInt8 → Nat
  | [] => 0
  | byte :: bytes => byte.toNat + 256 * leValue bytes

@[simp] theorem leBytes_length (width n : Nat) : (leBytes width n).length = width := by
  induction width generalizing n with
  | zero => rfl
  | succ width ih => simp [leBytes, ih]

theorem leValue_leBytes (width n : Nat) : leValue (leBytes width n) = n % 256 ^ width := by
  induction width generalizing n with
  | zero => simp [leBytes, leValue, Nat.mod_one]
  | succ width ih =>
    rw [leBytes, leValue, ih, UInt8.toNat_ofNat', show 256 ^ (width + 1) = 256 * 256 ^ width by ring,
      Nat.mod_mul]

theorem leValue_lt (bytes : List UInt8) : leValue bytes < 256 ^ bytes.length := by
  induction bytes with
  | nil => simp [leValue]
  | cons byte bytes ih =>
    have hByte := byte.toNat_lt
    rw [leValue, List.length_cons, pow_succ]
    omega

theorem leBytes_leValue (bytes : List UInt8) : leBytes bytes.length (leValue bytes) = bytes := by
  induction bytes with
  | nil => rfl
  | cons byte bytes ih =>
    have hByte : byte.toNat < 256 := byte.toNat_lt
    have hHead : UInt8.ofNat (byte.toNat + 256 * leValue bytes) = byte := by
      apply UInt8.toNat_inj.mp
      rw [UInt8.toNat_ofNat']
      omega
    rw [List.length_cons, leBytes, leValue, hHead,
      show (byte.toNat + 256 * leValue bytes) / 256 = leValue bytes by omega, ih]

/-- An integer type of a fixed number of bytes. -/
class LeInt (α : Type) where
  width : Nat
  toNat : α → Nat
  ofNat : Nat → α
  toNat_lt : ∀ x, toNat x < 256 ^ width
  ofNat_toNat : ∀ x, ofNat (toNat x) = x
  toNat_ofNat : ∀ n < 256 ^ width, toNat (ofNat n) = n

instance : LeInt UInt16 where
  width := 2
  toNat := UInt16.toNat
  ofNat := UInt16.ofNat
  toNat_lt x := by simpa using x.toNat_lt
  ofNat_toNat _ := UInt16.ofNat_toNat
  toNat_ofNat n h := UInt16.toNat_ofNat_of_lt' (by simpa [UInt16.size] using h)

instance : LeInt UInt32 where
  width := 4
  toNat := UInt32.toNat
  ofNat := UInt32.ofNat
  toNat_lt x := by simpa using x.toNat_lt
  ofNat_toNat _ := UInt32.ofNat_toNat
  toNat_ofNat n h := UInt32.toNat_ofNat_of_lt' (by simpa [UInt32.size] using h)

instance : LeInt UInt64 where
  width := 8
  toNat := UInt64.toNat
  ofNat := UInt64.ofNat
  toNat_lt x := by simpa using x.toNat_lt
  ofNat_toNat _ := UInt64.ofNat_toNat
  toNat_ofNat n h := UInt64.toNat_ofNat_of_lt' (by simpa [UInt64.size] using h)

instance : LeInt (BitVec 128) where
  width := 16
  toNat := BitVec.toNat
  ofNat := BitVec.ofNat 128
  toNat_lt x := by simpa using x.isLt
  ofNat_toNat x := BitVec.ofNat_toNat 128 x |>.trans (BitVec.setWidth_eq x)
  toNat_ofNat n h := (BitVec.toNat_ofNat n 128).trans (Nat.mod_eq_of_lt (by simpa using h))

@[simp] theorem width_u16 : LeInt.width UInt16 = 2 := rfl

@[simp] theorem width_u32 : LeInt.width UInt32 = 4 := rfl

@[simp] theorem width_u64 : LeInt.width UInt64 = 8 := rfl

@[simp] theorem width_u128 : LeInt.width (BitVec 128) = 16 := rfl

section

variable {α : Type} [LeInt α]

/-- The little-endian bytes of an integer. -/
def toLeBytes (x : α) : List UInt8 := leBytes (LeInt.width α) (LeInt.toNat x)

/-- The integer that exactly `LeInt.width` little-endian bytes hold; no other number of bytes
converts. -/
def fromLeBytes? (bytes : List UInt8) : Option α :=
  if bytes.length = LeInt.width α then some (LeInt.ofNat (leValue bytes)) else none

@[simp] theorem toLeBytes_length (x : α) : (toLeBytes x).length = LeInt.width α :=
  leBytes_length _ _

@[simp] theorem fromLeBytes?_toLeBytes (x : α) : fromLeBytes? (toLeBytes x) = some x := by
  rw [fromLeBytes?, if_pos (toLeBytes_length x), toLeBytes, leValue_leBytes,
    Nat.mod_eq_of_lt (LeInt.toNat_lt x), LeInt.ofNat_toNat]

/-- The right number of bytes always converts. -/
theorem fromLeBytes?_isSome {bytes : List UInt8} (h : bytes.length = LeInt.width α) :
    ∃ x : α, fromLeBytes? bytes = some x :=
  ⟨_, if_pos h⟩

theorem toLeBytes_inj {x y : α} : toLeBytes x = toLeBytes y ↔ x = y := by
  refine ⟨fun h => ?_, congrArg _⟩
  rw [← Option.some_inj, ← fromLeBytes?_toLeBytes x, h, fromLeBytes?_toLeBytes]

/-- Bytes that convert are the bytes of the integer. -/
theorem toLeBytes_of_fromLeBytes? {bytes : List UInt8} {x : α} (h : fromLeBytes? bytes = some x) :
    toLeBytes x = bytes := by
  unfold fromLeBytes? at h
  split at h
  next hLen =>
    cases h
    rw [toLeBytes, LeInt.toNat_ofNat _ (hLen ▸ leValue_lt bytes), ← hLen, leBytes_leValue]
  next => cases h

end

end ProofKit
