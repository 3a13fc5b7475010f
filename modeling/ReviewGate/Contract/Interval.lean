import ReviewGate.Contract.Basic

/-!
# Intervals

The bounds on one subject leave an interval of numbers without some single values.  A contradiction
is a constant that does not hold or a subject whose interval is empty.
-/

namespace ReviewGate

/-- What the bounds read so far leave of the numbers for one subject. -/
structure Interval where
  kind : ContractKind
  subject : String
  low : Float
  lowOpen : Bool
  high : Float
  highOpen : Bool
  excluded : List Float
  /-- The bounds as text. -/
  sources : List String

namespace Interval

/-- Every number. -/
def all (kind : ContractKind) (subject : String) : Interval :=
  ⟨kind, subject, -(1.0 / 0.0), true, 1.0 / 0.0, true, [], []⟩

def raiseLow (interval : Interval) (value : Float) (isOpen : Bool) : Interval :=
  if interval.low < value || (value == interval.low && isOpen) then
    { interval with low := value, lowOpen := isOpen }
  else interval

def lowerHigh (interval : Interval) (value : Float) (isOpen : Bool) : Interval :=
  if value < interval.high || (value == interval.high && isOpen) then
    { interval with high := value, highOpen := isOpen }
  else interval

def restrict (interval : Interval) (comparison : Comparison) (value : Float) : Interval :=
  match comparison with
  | .gt => interval.raiseLow value true
  | .ge => interval.raiseLow value false
  | .lt => interval.lowerHigh value true
  | .le => interval.lowerHigh value false
  | .eq => (interval.raiseLow value false).lowerHigh value false
  | .ne => { interval with excluded := interval.excluded ++ [value] }

def isEmpty (interval : Interval) : Bool :=
  interval.high < interval.low ||
    (interval.low == interval.high &&
      (interval.lowOpen || interval.highOpen || interval.excluded.any (· == interval.low)))

/-- The interval with one more bound, and its text. -/
def withBound (interval : Interval) (comparison : Comparison) (value : Float) (source : String) :
    Interval :=
  let restricted := interval.restrict comparison value
  { restricted with sources := restricted.sources ++ [source] }

end Interval

inductive Contradiction where
  | constant (kind : ContractKind) (text : String)
  | interval (kind : ContractKind) (subject : String) (sources : List String)

namespace Contradiction

def message : Contradiction → String
  | .constant kind text => kind.label ++ " \x60" ++ text ++ "\x60 can never hold"
  | .interval kind subject sources =>
      kind.label ++ " on \x60" ++ subject ++ "\x60 is unsatisfiable: " ++
        " and ".intercalate sources

end Contradiction

namespace ConstraintSet

/-- One bound more, for a subject met before or for a new one. -/
def addBound (kind : ContractKind) (subject : String) (comparison : Comparison) (value : Float)
    (source : String) : List Interval → List Interval
  | [] => [(Interval.all kind subject).withBound comparison value source]
  | interval :: rest =>
      if interval.kind = kind ∧ interval.subject = subject then
        interval.withBound comparison value source :: rest
      else interval :: addBound kind subject comparison value source rest

/-- The intervals that some constraints leave, or the first constant that does not hold. -/
def intervals : List Constraint → List Interval → Except Contradiction (List Interval)
  | [], found => .ok found
  | .constant kind holds text :: rest, found =>
      if holds then intervals rest found else .error (.constant kind text)
  | .bound kind subject comparison value :: rest, found =>
      intervals rest (addBound kind subject comparison value
        (Constraint.bound kind subject comparison value).toText found)

/-- The first contradiction in the order of declaration. -/
def contradiction? (set : ConstraintSet) : Option Contradiction :=
  match intervals set.constraints [] with
  | .error contradiction => some contradiction
  | .ok found =>
      (found.find? Interval.isEmpty).map fun interval =>
        .interval interval.kind interval.subject interval.sources

end ConstraintSet

end ReviewGate
