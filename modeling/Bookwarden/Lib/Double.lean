import Mathlib.Algebra.Order.Floor.Ring
import Mathlib.Data.Int.Log
import Mathlib.Data.Rat.Floor
import Mathlib.Tactic.NormNum

/-!
# Double precision numbers

The numbers of the binary64 format by their values: a rational number, an infinity, or no number.
An operation computes exactly and rounds to the nearest number of the format, to even between two.
Signed zeros are one zero here.

## Main definitions

* `Double`, `Double.round`
* `Double.sub`, `Double.abs`, `Double.lt`
* `Double.ofInt`, `Double.toInt` — the conversions from and to integers, with their errors

## Main results

* `Double.abs_sub_self_lt` — a number differs from itself by less than a bound when it is finite
-/

/-- A double precision number. -/
inductive Double
  | finite (q : ℚ)
  | infinite (negative : Bool)
  | nan
  deriving DecidableEq, Repr

namespace Double

/-- To the nearest integer, and to the even one of two. -/
def roundHalfEven (q : ℚ) : ℤ :=
  let r := q - ⌊q⌋
  if r < 1 / 2 then ⌊q⌋
  else if 1 / 2 < r then ⌊q⌋ + 1
  else if ⌊q⌋ % 2 = 0 then ⌊q⌋ else ⌊q⌋ + 1

/-- The exponent of the last place: 53 binary digits, and none below `2 ^ (-1074)`. -/
def lastPlace (q : ℚ) : ℤ := max (-1074) (Int.log 2 |q| - 52)

/-- The nearest number of the format; beyond the largest it is infinite. -/
def round (q : ℚ) : Double :=
  let v := roundHalfEven (q / 2 ^ lastPlace q) * (2 : ℚ) ^ lastPlace q
  if 2 ^ 1024 ≤ |v| then infinite (decide (q < 0)) else finite v

/-- The number is neither infinite nor none. -/
def isFinite : Double → Bool
  | finite _ => true
  | _ => false

def neg : Double → Double
  | finite q => finite (-q)
  | infinite s => infinite (!s)
  | nan => nan

def add : Double → Double → Double
  | finite a, finite b => round (a + b)
  | nan, _ | _, nan => nan
  | infinite s, infinite t => if s = t then infinite s else nan
  | infinite s, finite _ | finite _, infinite s => infinite s

def sub (a b : Double) : Double := add a (neg b)

def abs : Double → Double
  | finite q => finite |q|
  | infinite _ => infinite false
  | nan => nan

/-- `<`, false next to no number. -/
def lt : Double → Double → Bool
  | finite a, finite b => a < b
  | finite _, infinite s => !s
  | infinite s, finite _ => s
  | infinite s, infinite t => s && !t
  | nan, _ | _, nan => false

/-- The conversion of an integer; `none` beyond the largest number. -/
def ofInt (n : ℤ) : Option Double :=
  match round n with
  | finite q => some (finite q)
  | _ => none

/-- The nearest integer; `none` of what is not finite. -/
def toInt : Double → Option ℤ
  | finite q => some (roundHalfEven q)
  | _ => none

@[simp] theorem roundHalfEven_zero : roundHalfEven 0 = 0 := by simp [roundHalfEven]

@[simp] theorem round_zero : round 0 = finite 0 := by simp [round]

theorem sub_self_finite (q : ℚ) : sub (finite q) (finite q) = finite 0 := by
  simp [sub, neg, add]

theorem sub_self_of_not_finite {x : Double} (h : x.isFinite = false) : sub x x = nan := by
  cases x with
  | finite q => cases h
  | infinite s => cases s <;> rfl
  | nan => rfl

/-- A finite number agrees with itself within any bound. Nothing else does. -/
theorem abs_sub_self_lt {bound : ℚ} (h : 0 < bound) (x : Double) :
    lt (abs (sub x x)) (finite bound) = x.isFinite := by
  cases hx : x.isFinite with
  | false =>
    rw [sub_self_of_not_finite hx]
    rfl
  | true =>
    cases x with
    | finite q =>
      rw [sub_self_finite]
      simpa [abs, lt] using h
    | infinite s => cases hx
    | nan => cases hx

theorem ofInt_isFinite {n : ℤ} {x : Double} (h : ofInt n = some x) : x.isFinite = true := by
  rw [ofInt] at h
  split at h
  · rw [← Option.some.inj h]
    rfl
  · cases h

theorem toInt_eq_none_iff {x : Double} : x.toInt = none ↔ x.isFinite = false := by
  cases x <;> simp [toInt, isFinite]

example : round (1 / 10) = finite (3602879701896397 / 36028797018963968) := by decide +kernel

example : ofInt (10 ^ 400) = none := by decide +kernel

end Double
