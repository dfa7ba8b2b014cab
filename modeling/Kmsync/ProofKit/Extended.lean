import Mathlib.Algebra.Order.Floor.Ring
import Mathlib.Data.Rat.Floor

/-! Exact numbers with infinities and a NaN, and the operations that floating-point types have of
them.  NaN comes out of every operation that it goes into, and is in no order. -/

namespace ProofKit

section Rounding

/-- Rounding to the nearest integer, a half away from zero. -/
def roundAway (q : ℚ) : ℤ := if q < 0 then -⌊-q + 1 / 2⌋ else ⌊q + 1 / 2⌋

/-- Rounding towards zero. -/
def roundTowards (q : ℚ) : ℤ := if q < 0 then -⌊-q⌋ else ⌊q⌋

variable {q : ℚ} {n : ℤ}

@[simp] theorem roundAway_intCast (n : ℤ) : roundAway n = n := by
  unfold roundAway
  split
  next h =>
    rw [neg_eq_iff_eq_neg, Int.floor_eq_iff]
    push_cast
    constructor <;> linarith
  next h =>
    rw [Int.floor_eq_iff]
    constructor <;> linarith

@[simp] theorem roundTowards_intCast (n : ℤ) : roundTowards n = n := by
  unfold roundTowards
  split
  next h => rw [← Int.cast_neg, Int.floor_intCast, neg_neg]
  next h => exact Int.floor_intCast n

theorem roundAway_le_iff (h : 0 ≤ n) : roundAway q ≤ n ↔ q < n + 1 / 2 := by
  have hn : (0 : ℚ) ≤ n := Int.cast_nonneg h
  unfold roundAway
  split
  next hq =>
    have hFloor : 0 ≤ ⌊-q + 1 / 2⌋ := Int.floor_nonneg.mpr (by linarith)
    exact iff_of_true (by omega) (by linarith)
  next hq =>
    rw [← Int.lt_add_one_iff, Int.floor_lt]
    push_cast
    constructor <;> intro <;> linarith

theorem roundAway_neg (q : ℚ) : roundAway (-q) = -roundAway q := by
  rcases lt_trichotomy q 0 with hq | rfl | hq
  · rw [roundAway, roundAway, if_neg (by linarith), if_pos hq, neg_neg]
  · rw [neg_zero, ← Int.cast_zero, roundAway_intCast, neg_zero]
  · rw [roundAway, roundAway, if_pos (by linarith), if_neg (by linarith), neg_neg]

theorem le_roundAway_iff (h : n ≤ 0) : n ≤ roundAway q ↔ n - 1 / 2 < q := by
  have hNeg := roundAway_le_iff (q := -q) (n := -n) (by omega)
  rw [roundAway_neg, neg_le_neg_iff] at hNeg
  rw [hNeg]
  push_cast
  constructor <;> intro <;> linarith

theorem abs_roundAway_sub_le (q : ℚ) : |(roundAway q : ℚ) - q| ≤ 1 / 2 := by
  unfold roundAway
  split
  next =>
    have hLe := Int.floor_le (-q + 1 / 2)
    have hLt := Int.lt_floor_add_one (-q + 1 / 2)
    rw [abs_le]
    push_cast
    constructor <;> linarith
  next =>
    have hLe := Int.floor_le (q + 1 / 2)
    have hLt := Int.lt_floor_add_one (q + 1 / 2)
    rw [abs_le]
    constructor <;> linarith

theorem roundAway_of_isInt (h : q.isInt) : (roundAway q : ℚ) = q := by
  have hNum : (q.num : ℚ) = q := q.den_eq_one_iff.mp (by simpa [Rat.isInt] using h)
  rw [← hNum, roundAway_intCast]

/-- What is over, or missing, when a number is rounded. -/
def fraction (q : ℚ) : ℚ := q - roundAway q

theorem fraction_ne_zero (h : ¬q.isInt) : fraction q ≠ 0 := by
  intro hZero
  have hSame : q = roundAway q := sub_eq_zero.mp hZero
  refine h ?_
  rw [hSame]
  rfl

/-- Numbers rounded one by one: what their sum is off by has not been carried over. -/
theorem sum_roundAway_sub (qs : List ℚ) :
    ((qs.map roundAway).sum : ℚ) - qs.sum = -(qs.map fraction).sum := by
  induction qs with
  | nil => simp
  | cons q qs ih =>
    rw [List.map_cons, List.map_cons, List.sum_cons, List.sum_cons, List.sum_cons, Int.cast_add,
      neg_add, ← ih, fraction]
    ring

/-- Numbers rounded one by one: their sum is off by at most a half for each that is no integer. -/
theorem abs_sum_roundAway_sub_le (qs : List ℚ) :
    |((qs.map roundAway).sum : ℚ) - qs.sum| ≤ qs.countP (fun q => !q.isInt) / 2 := by
  induction qs with
  | nil => simp
  | cons q qs ih =>
    have hSplit : (((q :: qs).map roundAway).sum : ℚ) - (q :: qs).sum =
        ((roundAway q : ℚ) - q) + (((qs.map roundAway).sum : ℚ) - qs.sum) := by
      push_cast [List.map_cons, List.sum_cons]
      ring
    have hHead : |(roundAway q : ℚ) - q| ≤ (if !q.isInt then 1 else 0) / 2 := by
      by_cases hInt : q.isInt
      · rw [roundAway_of_isInt hInt, sub_self, abs_zero, hInt]
        exact le_of_eq (zero_div _).symm
      · rw [Bool.not_eq_true] at hInt
        rw [hInt]
        exact abs_roundAway_sub_le q
    calc |(((q :: qs).map roundAway).sum : ℚ) - (q :: qs).sum|
        ≤ |(roundAway q : ℚ) - q| + |((qs.map roundAway).sum : ℚ) - qs.sum| := by
          rw [hSplit]
          exact abs_add_le _ _
      _ ≤ (if !q.isInt then 1 else 0) / 2 + qs.countP (fun q => !q.isInt) / 2 :=
          add_le_add hHead ih
      _ = (q :: qs).countP (fun q => !q.isInt) / 2 := by
          rw [List.countP_cons]
          push_cast
          ring

end Rounding

/-- The sign of an infinity is true below zero. -/
inductive Extended where
  | number (q : ℚ)
  | infinite (sign : Bool)
  | nan
  deriving DecidableEq

namespace Extended

instance : Zero Extended := ⟨number 0⟩
instance : One Extended := ⟨number 1⟩
instance : NatCast Extended := ⟨fun n => number n⟩

def neg : Extended → Extended
  | number q => number (-q)
  | infinite sign => infinite !sign
  | nan => nan

def add : Extended → Extended → Extended
  | number p, number q => number (p + q)
  | number _, infinite sign => infinite sign
  | infinite sign, number _ => infinite sign
  | infinite sign, infinite sign' => if sign = sign' then infinite sign else nan
  | nan, _ => nan
  | _, nan => nan

def mul : Extended → Extended → Extended
  | number p, number q => number (p * q)
  | number p, infinite sign => if p = 0 then nan else infinite (sign ^^ p < 0)
  | infinite sign, number q => if q = 0 then nan else infinite (sign ^^ q < 0)
  | infinite sign, infinite sign' => infinite (sign ^^ sign')
  | nan, _ => nan
  | _, nan => nan

/-- Zero has one sign only. -/
def div : Extended → Extended → Extended
  | number p, number q =>
    if q ≠ 0 then number (p / q) else if p = 0 then nan else infinite (p < 0)
  | number _, infinite _ => number 0
  | infinite sign, number q => infinite (sign ^^ q < 0)
  | infinite _, infinite _ => nan
  | nan, _ => nan
  | _, nan => nan

instance : Add Extended := ⟨add⟩
instance : Sub Extended := ⟨fun x y => add x (neg y)⟩
instance : Mul Extended := ⟨mul⟩
instance : Div Extended := ⟨div⟩

def less : Extended → Extended → Bool
  | number p, number q => p < q
  | number _, infinite sign => !sign
  | infinite sign, number _ => sign
  | infinite sign, infinite sign' => sign && !sign'
  | nan, _ => false
  | _, nan => false

/-- `==`, which NaN is not to itself -/
def equal : Extended → Extended → Bool
  | number p, number q => p = q
  | infinite sign, infinite sign' => sign = sign'
  | _, _ => false

instance : LT Extended := ⟨fun x y => less x y = true⟩
instance : LE Extended := ⟨fun x y => (less x y || equal x y) = true⟩
instance : DecidableLT Extended := fun x y => inferInstanceAs (Decidable (less x y = true))
instance : DecidableLE Extended := fun x y =>
  inferInstanceAs (Decidable ((less x y || equal x y) = true))

/-- `max`, which passes a NaN over -/
instance : Max Extended := ⟨fun x y => if x = nan then y else if x < y then y else x⟩
instance : Min Extended := ⟨fun x y => if x = nan then y else if y < x then y else x⟩

/-- `round` -/
def round : Extended → Extended
  | number q => number (roundAway q)
  | infinite sign => infinite sign
  | nan => nan

/-- `as i32`: saturating, and zero for NaN -/
def toI32 : Extended → ℤ
  | number q => max (-2 ^ 31) (min (roundTowards q) (2 ^ 31 - 1))
  | infinite sign => if sign then -2 ^ 31 else 2 ^ 31 - 1
  | nan => 0

variable {p q : ℚ} {x : Extended}

@[simp] theorem number_add (p q : ℚ) : number p + number q = number (p + q) := rfl
@[simp] theorem number_sub (p q : ℚ) : number p - number q = number (p - q) :=
  congrArg number (sub_eq_add_neg p q).symm
@[simp] theorem number_mul (p q : ℚ) : number p * number q = number (p * q) := rfl
@[simp] theorem nan_add (x : Extended) : nan + x = nan := rfl
@[simp] theorem add_nan (x : Extended) : x + nan = nan := by cases x <;> rfl
@[simp] theorem nan_sub (x : Extended) : nan - x = nan := rfl
@[simp] theorem nan_mul (x : Extended) : nan * x = nan := rfl
@[simp] theorem mul_nan (x : Extended) : x * nan = nan := by cases x <;> rfl
@[simp] theorem nan_div (x : Extended) : nan / x = nan := rfl
@[simp] theorem number_add_infinite (p : ℚ) (sign : Bool) :
    number p + infinite sign = infinite sign := rfl
@[simp] theorem number_lt : number p < number q ↔ p < q := decide_eq_true_iff
@[simp] theorem infinite_lt {sign : Bool} : infinite sign < number q ↔ sign = true := Iff.rfl
@[simp] theorem lt_infinite {sign : Bool} : number q < infinite sign ↔ sign = false :=
  Bool.not_eq_true' sign ▸ Iff.rfl
@[simp] theorem not_nan_lt (x : Extended) : ¬ nan < x := Bool.false_ne_true
@[simp] theorem not_lt_nan (x : Extended) : ¬ x < nan := by cases x <;> exact Bool.false_ne_true
theorem zero_def : (0 : Extended) = number 0 := rfl
theorem one_def : (1 : Extended) = number 1 := rfl

end Extended

end ProofKit
