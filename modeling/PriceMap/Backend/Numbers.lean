import Mathlib.Algebra.Order.Field.Basic
import Mathlib.Algebra.Order.Group.Unbundled.Abs

/-!
# Backend — JavaScript numbers

JavaScript numbers read exactly, over any ordered field: finite values are not
rounded and there is one zero, which divides as `+0` does. NaN and the
infinities are kept, with the arithmetic and the comparisons JavaScript has
for them: NaN swallows every operation and fails every comparison.
-/

namespace PriceMap.Backend

variable {K : Type*} [Field K] [LinearOrder K]

/-- What JavaScript's `ToNumber` can return. -/
inductive Number (K : Type*) where
  | NaN
  | finite (x : K)
  | posInfinity
  | negInfinity
  deriving DecidableEq, Repr

namespace Number

/-- `n < x` for a numeric constant. -/
def lt (n : Number K) (x : K) : Bool :=
  match n with
  | .finite y => y < x
  | .negInfinity => true
  | .NaN | .posInfinity => false

def gt (n : Number K) (x : K) : Bool :=
  match n with
  | .finite y => x < y
  | .posInfinity => true
  | .NaN | .negInfinity => false

/-- `n <= x` for a stored number. -/
def le (n : Number K) (x : K) : Bool :=
  match n with
  | .finite y => y ≤ x
  | .negInfinity => true
  | .NaN | .posInfinity => false

def ge (n : Number K) (x : K) : Bool :=
  match n with
  | .finite y => x ≤ y
  | .posInfinity => true
  | .NaN | .negInfinity => false

/-- The infinity with the sign of a finite factor, NaN for a factor 0. -/
def infinity (x : K) : Number K :=
  if x = 0 then .NaN else if 0 < x then .posInfinity else .negInfinity

def neg : Number K → Number K
  | .NaN => .NaN
  | .finite x => .finite (-x)
  | .posInfinity => .negInfinity
  | .negInfinity => .posInfinity

def add : Number K → Number K → Number K
  | .NaN, _ | _, .NaN => .NaN
  | .finite x, .finite y => .finite (x + y)
  | .posInfinity, .negInfinity | .negInfinity, .posInfinity => .NaN
  | .posInfinity, _ | _, .posInfinity => .posInfinity
  | .negInfinity, _ | _, .negInfinity => .negInfinity

def mul : Number K → Number K → Number K
  | .NaN, _ | _, .NaN => .NaN
  | .finite x, .finite y => .finite (x * y)
  | .finite x, .posInfinity | .posInfinity, .finite x => infinity x
  | .finite x, .negInfinity | .negInfinity, .finite x => infinity (-x)
  | .posInfinity, .posInfinity | .negInfinity, .negInfinity => .posInfinity
  | .posInfinity, .negInfinity | .negInfinity, .posInfinity => .negInfinity

def div : Number K → Number K → Number K
  | .NaN, _ | _, .NaN => .NaN
  | .finite x, .finite y => if y = 0 then infinity x else .finite (x / y)
  | .finite _, .posInfinity | .finite _, .negInfinity => .finite 0
  | .posInfinity, .finite y => if y < 0 then .negInfinity else .posInfinity
  | .negInfinity, .finite y => if y < 0 then .posInfinity else .negInfinity
  | .posInfinity, _ | .negInfinity, _ => .NaN

/-- `Math.abs`. -/
def abs : Number K → Number K
  | .NaN => .NaN
  | .finite x => .finite |x|
  | .posInfinity | .negInfinity => .posInfinity

instance : Add (Number K) := ⟨add⟩
instance : Sub (Number K) := ⟨fun m n => m.add n.neg⟩
instance : Mul (Number K) := ⟨mul⟩
instance : Div (Number K) := ⟨div⟩

omit [LinearOrder K] in
@[simp] theorem finite_add (x y : K) : finite x + finite y = finite (x + y) := rfl

@[simp] theorem finite_mul (x y : K) : finite x * finite y = finite (x * y) := rfl

@[simp] theorem abs_finite (x : K) : (finite x).abs = finite |x| := rfl

/-- The infinity of the sign of a positive number. -/
theorem infinity_of_pos {x : K} (hx : 0 < x) : infinity x = posInfinity := by
  rw [infinity, if_neg (ne_of_gt hx), if_pos hx]

/-- And of a negative one. -/
theorem infinity_of_neg {x : K} (hx : x < 0) : infinity x = negInfinity := by
  rw [infinity, if_neg (ne_of_lt hx), if_neg (not_lt.mpr hx.le)]

/-- A division by another number than zero. -/
theorem finite_div {x y : K} (hy : y ≠ 0) : finite x / finite y = finite (x / y) := if_neg hy

/-- A division by zero. -/
theorem finite_div_zero {x : K} (hx : 0 < x) : finite x / finite (0 : K) = posInfinity := by
  show (if (0 : K) = 0 then infinity x else _) = _
  rw [if_pos rfl, infinity_of_pos hx]

/-- An infinity times a positive number. -/
theorem posInfinity_mul {y : K} (hy : 0 < y) : posInfinity * finite y = posInfinity :=
  infinity_of_pos hy

theorem negInfinity_mul [IsStrictOrderedRing K] {y : K} (hy : 0 < y) :
    negInfinity * finite y = negInfinity :=
  infinity_of_neg (neg_lt_zero.mpr hy)

theorem posInfinity_div {y : K} (hy : 0 ≤ y) : posInfinity / finite y = posInfinity :=
  if_neg (not_lt.mpr hy)

theorem negInfinity_div {y : K} (hy : 0 ≤ y) : negInfinity / finite y = negInfinity :=
  if_neg (not_lt.mpr hy)

end Number

/-- `req.params.radius`: absent on the route without a radius, else a segment
that the comparisons convert. -/
abbrev Radius (K : Type*) := Option (Number K)

/-- What a comparison makes of the parameter: `undefined` converts to NaN. -/
def Radius.toNumber (radius : Radius K) : Number K := radius.getD .NaN

end PriceMap.Backend
