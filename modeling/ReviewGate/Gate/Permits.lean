/-!
# Permits

Only so many reviews run at once.  Whoever wants a permit draws a ticket, and tickets are served in
the order in which they were drawn.
-/

namespace ReviewGate

structure Permits where
  capacity : Nat
  drawn : Nat
  /-- Permits that came back. -/
  returned : Nat
  deriving DecidableEq, Repr

namespace Permits

def start (capacity : Nat) : Permits := ⟨capacity, 0, 0⟩

/-- The next ticket. -/
def ticket (permits : Permits) : Nat := permits.drawn

def draw (permits : Permits) : Permits := { permits with drawn := permits.drawn + 1 }

/-- Whether the permit of a ticket has been granted. -/
def isGranted (permits : Permits) (ticket : Nat) : Bool :=
  decide (ticket < permits.capacity + permits.returned)

def giveBack (permits : Permits) : Permits := { permits with returned := permits.returned + 1 }

theorem isGranted_iff {permits : Permits} {ticket : Nat} :
    permits.isGranted ticket = true ↔ ticket < permits.capacity + permits.returned := by
  simp [isGranted]

theorem isGranted_giveBack {permits : Permits} {ticket : Nat}
    (granted : permits.isGranted ticket = true) : permits.giveBack.isGranted ticket = true := by
  rw [isGranted_iff] at *
  exact Nat.lt_succ_of_lt granted

theorem isGranted_of_le {permits : Permits} {earlier ticket : Nat} (le : earlier ≤ ticket)
    (granted : permits.isGranted ticket = true) : permits.isGranted earlier = true := by
  rw [isGranted_iff] at *
  exact Nat.lt_of_le_of_lt le granted

end Permits

end ReviewGate
