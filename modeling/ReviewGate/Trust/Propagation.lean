import ReviewGate.Data.Table
import ReviewGate.Trust.Config

/-!
# Trust along paths

Sources hand trust on to those they vouch for, who hand it on in turn for a limited number of hops.
Every hop after the first is damped.  A target collects what reaches it on all paths; if all targets
together collect more than one, every share is divided by the total.  Sources keep their own score.
-/

namespace ReviewGate

/-- One identity vouches for another. -/
structure TrustEdge (R : Type) where
  truster : String
  trustee : String
  weight : R

variable {R : Type} [Scalar R]

namespace Table

/-- Adds to the number under a key, which is zero where there is none. -/
def add (key : String) (value : R) (table : Table R) : Table R :=
  table.insert key ((table.get? key).getD 0.0 + value)

end Table

namespace TrustEdge

def requireValid (edge : TrustEdge R) : Except TrustError Unit := do
  require (edge.truster ≠ "" ∧ edge.trustee ≠ "") .emptyEndpoint
  requireUnit ("edge weight " ++ edge.truster ++ " -> " ++ edge.trustee) edge.weight

end TrustEdge

namespace Propagation

/-- What has been collected so far, and what the last hop carried where. -/
structure Spread (R : Type) where
  collected : Table R
  frontier : Table R

/-- Hands on what one identity carries along one edge. -/
def alongEdge (sources : Table R) (attenuation carried : R) (spread : Spread R)
    (edge : TrustEdge R) : Spread R :=
  if sources.has edge.trustee then spread
  else
    ⟨spread.collected.add edge.trustee (attenuation * edge.weight * carried),
      spread.frontier.add edge.trustee (carried * edge.weight)⟩

/-- Hands on what one identity carries along all its edges. -/
def fromNode (edges : List (TrustEdge R)) (sources : Table R) (attenuation : R)
    (spread : Spread R) (node : String × R) : Spread R :=
  (edges.filter fun edge => edge.truster == node.1).foldl
    (alongEdge sources attenuation node.2) spread

/-- One hop from everyone in the frontier. -/
def hop (edges : List (TrustEdge R)) (sources : Table R) (attenuation : R)
    (spread : Spread R) : Spread R :=
  spread.frontier.foldl (fromNode edges sources attenuation) ⟨spread.collected, []⟩

/-- So many hops more, after some hops done; it ends early where the frontier is empty. -/
def hops (edges : List (TrustEdge R)) (sources : Table R) (damping : R) :
    Nat → Nat → Spread R → Spread R
  | 0, _, spread => spread
  | left + 1, done, spread =>
      let next := hop edges sources (Scalar.power damping done) spread
      if next.frontier.isEmpty then next else hops edges sources damping left (done + 1) next

/-- Shares that add up to at most one. -/
def normalize (collected : Table R) : Table R :=
  let total := Scalar.sum collected.values
  if 1.0 < total then collected.map fun entry => (entry.1, entry.2 / total) else collected

end Propagation

open Propagation

/-- The scores of the sources and of all that are reached from them. -/
def propagateTrust (edges : List (TrustEdge R)) (sources : Table R) (hopLimit : Nat)
    (damping : R) : Except TrustError (Table R) := do
  requireUnit "damping factor" damping
  require (hopLimit ≤ maxHopLimit) (.hopLimit "hop limit" maxHopLimit hopLimit)
  for (identity, score) in sources do
    requireUnit ("seed score for " ++ identity) score
  for edge in edges do
    edge.requireValid
  let spread := hops edges sources damping hopLimit 0 ⟨[], sources⟩
  return (normalize spread.collected).foldl
    (fun scores entry => scores.insert entry.1 (Scalar.clampUnit entry.2)) sources

end ReviewGate
