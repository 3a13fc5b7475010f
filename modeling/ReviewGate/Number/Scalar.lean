/-!
# Scalars

The numbers that scores, weights and risks are made of.  The same formulas run on doubles and, for
exact reasoning, on rationals; nothing below assumes that addition is associative or that a
comparison of a number with itself succeeds.
-/

namespace ReviewGate

/-- Arithmetic, decidable order and a way to be reported as a double. -/
class Scalar (R : Type) extends
    Add R, Sub R, Mul R, Div R, LT R, LE R, BEq R, OfScientific R where
  decidableLT : DecidableLT R
  decidableLE : DecidableLE R
  ofInt : Int → R
  /-- The double under which a number is written out. -/
  toFloat : R → Float

attribute [reducible, instance] Scalar.decidableLT Scalar.decidableLE

instance : Scalar Float where
  decidableLT := inferInstance
  decidableLE := inferInstance
  ofInt := Float.ofInt
  toFloat := id

instance : Scalar Rat where
  decidableLT := inferInstance
  decidableLE := inferInstance
  ofInt := fun value => (value : Rat)
  toFloat := fun value => Float.ofInt value.num / Float.ofNat value.den

namespace Scalar

variable {R : Type} [Scalar R]

/-- The larger of two numbers; one that differs from itself gives way to the other. -/
def larger (first second : R) : R :=
  if first < second ∨ first != first then second else first

/-- The smaller of two numbers; one that differs from itself gives way to the other. -/
def smaller (first second : R) : R :=
  if second < first ∨ first != first then second else first

/-- Infinities and values that differ from themselves have no zero difference. -/
def isFinite (value : R) : Bool := value - value == 0.0

/-- The unit interval, ends included. -/
def InUnit (value : R) : Prop := 0.0 ≤ value ∧ value ≤ (1.0 : R)

instance (value : R) : Decidable (InUnit value) := by
  unfold InUnit
  infer_instance

/-- The nearest number of the unit interval; a value that differs from itself becomes zero. -/
def clampUnit (value : R) : R :=
  if value != value then 0.0
  else if value < 0.0 then 0.0
  else if 1.0 < value then 1.0
  else value

/-- A power by squaring: the factors are taken from the lowest binary digit of the exponent up. -/
def power (base : R) (exponent : Nat) : R :=
  go 1.0 base exponent
where
  go (result square : R) (exponent : Nat) : R :=
    let next := if exponent % 2 = 1 then result * square else result
    if exponent < 2 then next else go next (square * square) (exponent / 2)
  termination_by exponent
  decreasing_by omega

/-- Sum from the left. -/
def sum (values : List R) : R := values.foldl (· + ·) 0.0

/-- Product from the left. -/
def product (values : List R) : R := values.foldl (· * ·) 1.0

end Scalar

end ReviewGate
