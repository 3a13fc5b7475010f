/-!
# Decimal text of doubles

A finite double is a sign, a natural number and a power of two.  `Binary.shortest` finds the decimal
with the fewest digits that lies in the interval of numbers rounding to it, and among those the
nearest one; `Binary.rounded` cuts the exact value at a fixed number of places.  A `Layout` says how
chosen digits are set down; each format that writes numbers has one.
-/

namespace ReviewGate

/-- A finite double: `± mantissa * 2 ^ exponent`. -/
structure Binary where
  negative : Bool
  mantissa : Nat
  exponent : Int
  deriving DecidableEq, Repr

/-- A decimal: `± 0.d₁d₂… * 10 ^ point`.  No digit stands for zero. -/
structure Decimal where
  negative : Bool
  digits : List Nat
  point : Int
  deriving DecidableEq, Repr

namespace Binary

/-- The parts of a finite double; `none` for infinities and for what is not a number. -/
def ofFloat? (value : Float) : Option Binary :=
  let bits := value.toBits.toNat
  let biased := bits / Nat.pow 2 52 % Nat.pow 2 11
  let fraction := bits % Nat.pow 2 52
  let negative := decide (Nat.pow 2 63 ≤ bits)
  if biased = 2047 then none
  else if biased = 0 then some ⟨negative, fraction, -1074⟩
  else some ⟨negative, fraction + Nat.pow 2 52, Int.ofNat biased - 1075⟩

/-- The magnitude as a quotient of natural numbers. -/
def ratio (value : Binary) : Nat × Nat :=
  if 0 ≤ value.exponent then (value.mantissa * Nat.pow 2 value.exponent.toNat, 1)
  else (value.mantissa, Nat.pow 2 (-value.exponent).toNat)

end Binary

namespace Decimal

/-- The decimal digits of a natural number, highest first; none for zero. -/
def digitsOf (value : Nat) : List Nat :=
  go value []
where
  go (value : Nat) (rest : List Nat) : List Nat :=
    if value = 0 then rest else go (value / 10) (value % 10 :: rest)
  termination_by value
  decreasing_by omega

/-- The number a digit list stands for. -/
def valueOf (digits : List Nat) : Nat :=
  digits.foldl (fun value digit => 10 * value + digit) 0

/-- Zeros at the end carry no information. -/
def dropTrailingZeros (digits : List Nat) : List Nat :=
  (digits.reverse.dropWhile (· == 0)).reverse

/-- `coefficient * 10 ^ scale`, in lowest terms. -/
def ofCoefficient (negative : Bool) (coefficient : Nat) (scale : Int) : Decimal :=
  let digits := digitsOf coefficient
  match dropTrailingZeros digits with
  | [] => ⟨negative, [], 0⟩
  | kept => ⟨negative, kept, digits.length + scale⟩

end Decimal

/-- `numerator / (denominator * 10 ^ scale)` as a quotient of natural numbers. -/
def scaledRatio (numerator denominator : Nat) (scale : Int) : Nat × Nat :=
  if 0 ≤ scale then (numerator, denominator * Nat.pow 10 scale.toNat)
  else (numerator * Nat.pow 10 (-scale).toNat, denominator)

namespace Binary

/-- The least `point` with `value < 10 ^ point`, searched from an estimate just below it. -/
def pointFrom (numerator denominator : Nat) : Nat → Int → Int
  | 0, point => point
  | fuel + 1, point =>
      let scaled := scaledRatio numerator denominator point
      if scaled.1 < scaled.2 then point else pointFrom numerator denominator fuel (point + 1)

/-- Three more than the error of the estimate `log₁₀ 2 ≈ 1233 / 4096` is enough. -/
def decimalPoint (numerator denominator : Nat) : Int :=
  let estimate := (((numerator.log2 : Int) - (denominator.log2 : Int) - 1) * 1233) / 4096 - 1
  pointFrom numerator denominator 6 estimate

/-- Whether `candidate * 10 ^ scale` rounds to the double: its distance from the value is at most
half a gap, and less where the mantissa is odd. -/
def readsBack (value : Binary) (candidate : Nat) (scale : Int) : Bool :=
  let unit : Nat × Nat :=
    if 0 ≤ value.exponent - 2 then (Nat.pow 2 (value.exponent - 2).toNat, 1)
    else (1, Nat.pow 2 (2 - value.exponent).toNat)
  let center := 4 * value.mantissa
  let below := if value.mantissa = Nat.pow 2 52 ∧ -1074 < value.exponent then 1 else 2
  let point : Nat × Nat := if 0 ≤ scale then (candidate * Nat.pow 10 scale.toNat, 1)
    else (candidate, Nat.pow 10 (-scale).toNat)
  let left := point.1 * unit.2
  let lower := (center - below) * unit.1 * point.2
  let upper := (center + 2) * unit.1 * point.2
  if value.mantissa % 2 = 0 then decide (lower ≤ left ∧ left ≤ upper)
  else decide (lower < left ∧ left < upper)

/-- The shortest decimal with at least `count` digits: the first grid on which one of the two
neighbours of the value reads back. -/
def shortestFrom (value : Binary) (numerator denominator : Nat) (point : Int) :
    Nat → Nat → Decimal
  | 0, count =>
      let scaled := scaledRatio numerator denominator (point - count)
      Decimal.ofCoefficient value.negative (scaled.1 / scaled.2) (point - count)
  | fuel + 1, count =>
      let scale := point - count
      let scaled := scaledRatio numerator denominator scale
      let low := scaled.1 / scaled.2
      let remainder := scaled.1 % scaled.2
      let lowFits := value.readsBack low scale
      let highFits := value.readsBack (low + 1) scale
      let nearerLow := decide (2 * remainder < scaled.2) ||
        (decide (2 * remainder = scaled.2) && decide (low % 2 = 0))
      if lowFits && (nearerLow || !highFits) then
        Decimal.ofCoefficient value.negative low scale
      else if highFits then
        Decimal.ofCoefficient value.negative (low + 1) scale
      else shortestFrom value numerator denominator point fuel (count + 1)

/-- The decimal with the fewest digits that reads back as the double, and of those the nearest. -/
def shortest (value : Binary) : Decimal :=
  if value.mantissa = 0 then ⟨value.negative, [], 0⟩
  else
    let (numerator, denominator) := value.ratio
    shortestFrom value numerator denominator (decimalPoint numerator denominator) 17 1

/-- The magnitude in units of `10 ^ -places`, a tie going to the even neighbour. -/
def rounded (value : Binary) (places : Nat) : Nat :=
  let (numerator, denominator) := value.ratio
  let scaled := numerator * Nat.pow 10 places
  let low := scaled / denominator
  let remainder := scaled % denominator
  if 2 * remainder < denominator ∨ (2 * remainder = denominator ∧ low % 2 = 0) then low
  else low + 1

end Binary

/-- How the digits of a number are set down. -/
structure Layout where
  /-- Least and greatest `point` written without an exponent; `none` writes every number so. -/
  positional : Option (Int × Int)
  /-- Whether a whole number keeps a fraction digit. -/
  wholeFraction : Bool
  /-- Mark of a nonnegative exponent. -/
  exponentPlus : String
  notANumber : String
  infinity : String
  minusInfinity : String

namespace Layout

/-- Doubles inside data: `0.1`, `1.0`, `1e+16`. -/
def data : Layout := ⟨some (-4, 16), true, "+", "NaN", "inf", "-inf"⟩

/-- Doubles inside a configuration file: `0.1`, `1.0`, `1e16`, `.inf`. -/
def configuration : Layout := ⟨some (-4, 16), true, "", ".nan", ".inf", "-.inf"⟩

/-- Doubles inside a message: `0.1`, `1`, never an exponent. -/
def message : Layout := ⟨none, false, "", "NaN", "inf", "-inf"⟩

end Layout

def digitChars (digits : List Nat) : List Char := digits.map Nat.digitChar

/-- Digits around a decimal point, with zeros where the digits do not reach. -/
def positionalChars (layout : Layout) (digits : List Nat) (point : Int) : List Char :=
  if point ≤ 0 then
    '0' :: '.' :: List.replicate (-point).toNat '0' ++ digitChars digits
  else
    let whole := point.toNat
    if digits.length ≤ whole then
      digitChars digits ++ List.replicate (whole - digits.length) '0' ++
        (if layout.wholeFraction then ['.', '0'] else [])
    else
      digitChars (digits.take whole) ++ '.' :: digitChars (digits.drop whole)

/-- One digit, the others behind a point, and the exponent. -/
def exponentChars (layout : Layout) (digits : List Nat) (point : Int) : List Char :=
  let exponent := point - 1
  let mark := if exponent < 0 then ['-'] else layout.exponentPlus.toList
  let fraction := if digits.length ≤ 1 then [] else '.' :: digitChars (digits.drop 1)
  digitChars (digits.take 1) ++ fraction ++ 'e' :: mark ++ (toString exponent.natAbs).toList

/-- The text of a decimal. -/
def Decimal.toText (layout : Layout) (value : Decimal) : String :=
  let sign := if value.negative then ['-'] else []
  let body := match value.digits with
    | [] => if layout.wholeFraction then ['0', '.', '0'] else ['0']
    | digits =>
        match layout.positional with
        | none => positionalChars layout digits value.point
        | some (least, greatest) =>
            if least ≤ value.point ∧ value.point ≤ greatest then
              positionalChars layout digits value.point
            else exponentChars layout digits value.point
  String.ofList (sign ++ body)

namespace Layout

/-- The text of a double under a layout. -/
def write (layout : Layout) (value : Float) : String :=
  match Binary.ofFloat? value with
  | some parts => parts.shortest.toText layout
  | none =>
      if value < 0.0 then layout.minusInfinity
      else if 0.0 < value then layout.infinity
      else layout.notANumber

end Layout

/-- The text of a double with a fixed number of places. -/
def fixedPlaces (value : Float) (places : Nat) : String :=
  match Binary.ofFloat? value with
  | none => Layout.message.write value
  | some parts =>
      let units := parts.rounded places
      let sign := if parts.negative then "-" else ""
      let fraction := toString (units % Nat.pow 10 places)
      let padding := String.ofList (List.replicate (places - fraction.length) '0')
      if places = 0 then sign ++ toString units
      else sign ++ toString (units / Nat.pow 10 places) ++ "." ++ padding ++ fraction

end ReviewGate
