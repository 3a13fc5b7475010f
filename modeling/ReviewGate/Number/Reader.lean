/-!
# Reading numbers

Decimal text is read to the nearest double.  A number in a contract is an optional sign followed by
digits with at most one point and an optional exponent, or the name of an infinity or of the value
that is not a number.
-/

namespace ReviewGate.Number

def isDigit (letter : Char) : Bool := decide ('0' ≤ letter) && decide (letter ≤ '9')

def digitValue (letter : Char) : Nat := letter.toNat - '0'.toNat

/-- The number that decimal digits stand for. -/
def naturalValue (digits : List Char) : Nat :=
  digits.foldl (fun value digit => 10 * value + digitValue digit) 0

/-- Digits at the front, and the rest. -/
def spanDigits (letters : List Char) : List Char × List Char :=
  (letters.takeWhile isDigit, letters.dropWhile isDigit)

/-- A nonempty run of digits and nothing else. -/
def natural? (letters : List Char) : Option Nat :=
  if !letters.isEmpty && letters.all isDigit then some (naturalValue letters) else none

/-- A sign at the front; true stands for minus. -/
def spanSign : List Char → Bool × List Char
  | '-' :: rest => (true, rest)
  | '+' :: rest => (false, rest)
  | letters => (false, letters)

/-- The double nearest to `± coefficient * 10 ^ exponent`; beyond the largest one lies infinity, and
far below the smallest one zero. -/
def scaled (negative : Bool) (coefficient : Nat) (exponent : Int) : Float :=
  let magnitude : Float :=
    if coefficient = 0 then 0.0
    else
      let point : Int := exponent + (coefficient.log2 * 1233 / 4096 : Nat)
      if 320 < point then 1.0 / 0.0
      else if point < -360 then 0.0
      else if 0 ≤ exponent then Float.ofScientific (coefficient * Nat.pow 10 exponent.toNat) false 0
      else Float.ofScientific coefficient true exponent.natAbs
  if negative then -magnitude else magnitude

/-- An exponent part: nothing, or a mark, an optional sign and digits up to the end. -/
def exponent? : List Char → Option Int
  | [] => some 0
  | mark :: rest =>
      if mark = 'e' ∨ mark = 'E' then
        let (negative, digits) := spanSign rest
        (natural? digits).map fun value => if negative then -Int.ofNat value else Int.ofNat value
      else none

/-- The digits behind a point at the front, and the rest. -/
def spanFraction : List Char → List Char × List Char
  | '.' :: rest => spanDigits rest
  | letters => ([], letters)

/-- An unsigned decimal with digits before the point, after it, or both. -/
def decimal? (negative : Bool) (letters : List Char) : Option Float :=
  let (whole, rest) := spanDigits letters
  let (fraction, rest) := spanFraction rest
  if whole.isEmpty && fraction.isEmpty then none
  else
    (exponent? rest).map fun exponent =>
      scaled negative (naturalValue (whole ++ fraction)) (exponent - fraction.length)

/-- A number as contracts write it. -/
def read? (text : List Char) : Option Float :=
  let (negative, body) := spanSign text
  let name := String.ofList (body.map Char.toLower)
  if name = "inf" ∨ name = "infinity" then
    some (if negative then -(1.0 / 0.0) else 1.0 / 0.0)
  else if name = "nan" then some (0.0 / 0.0)
  else decimal? negative body

/-- The decimal digits of an integer, with a minus sign where it is needed. -/
def integerText (value : Int) : String :=
  if value < 0 then "-" ++ toString value.natAbs else toString value.natAbs

end ReviewGate.Number
