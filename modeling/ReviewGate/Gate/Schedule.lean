import ReviewGate.Gate.Resolution

/-!
# Schedules

Reviews side by side on one thread.  They take turns in order, and each goes on until it has to
wait.  When all of them wait, the clock of the timers jumps to the moment for which the first one
waits.
-/

namespace ReviewGate

variable {K : Type}

namespace Review

/-- The moment for which a review waits. -/
def due? : Review → Option Nat
  | .checking _ due _ | .deepening _ due _ => some due
  | _ => none

def isWaiting (now : Instant) (gate : Gate K) (review : Review) : Bool :=
  (step? now gate review).isNone

/-- The result of a review, once there is one. -/
def result? : Review → Option (Except GateError ReviewOutcome)
  | .finished result => some result
  | _ => none

/-- Every review has its turn. -/
def runEach (now : Instant) (gate : Gate K) : List Review → List Review × Gate K
  | [] => ([], gate)
  | review :: rest =>
      let (review, gate) := review.run now gate
      let (rest, gate) := runEach now gate rest
      (review :: rest, gate)

/-- Where all reviews wait, the clock jumps to the earliest moment that one waits for. -/
def passTime (now : Instant) (gate : Gate K) (reviews : List Review) : Gate K :=
  if reviews.all fun review => review.isWaiting now gate then
    match (reviews.filterMap due?).min? with
    | some due => { gate with timer := max gate.timer due }
    | none => gate
  else gate

def totalLeft (reviews : List Review) : Nat := (reviews.map stagesLeft).foldr (· + ·) 0

/-- Turn after turn until no review gets any further. -/
def runAll (now : Instant) (gate : Gate K) (reviews : List Review) : List Review × Gate K :=
  let turn := runEach now (passTime now gate reviews) reviews
  if totalLeft turn.1 < totalLeft reviews then runAll now turn.2 turn.1 else (reviews, gate)
termination_by totalLeft reviews

end Review

/-- Reviews one unit. -/
def Gate.review (gate : Gate K) (now : Instant) (unit : CodeUnit) : List Review × Gate K :=
  Review.runAll now gate [.submitted unit]

/-- Reviews units side by side. -/
def Gate.reviewAll (gate : Gate K) (now : Instant) (units : List CodeUnit) :
    List Review × Gate K :=
  Review.runAll now gate (units.map .submitted)

end ReviewGate
