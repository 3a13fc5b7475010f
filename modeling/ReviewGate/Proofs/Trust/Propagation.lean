import Mathlib.Algebra.Order.Field.Basic
import ReviewGate.Proofs.Data.Ascending
import ReviewGate.Proofs.Number.Rational
import ReviewGate.Proofs.Trust.Operation
import ReviewGate.Proofs.Trust.Walks

/-!
# Propagation counts walks

After any number of hops the frontier holds what the walks of just that length carry, and everyone
reached so far has collected what the walks up to that length are worth.  So trust along paths is,
on exact numbers, a sum over walks.
-/

namespace ReviewGate

/-! ## Numbers added to a table -/

namespace Table

/-- A table that holds a number under some condition holds zero, as it were, elsewhere. -/
theorem getD_eq_of_iff {key : String} {table : Table Rat} {condition : Prop} {number : Rat}
    (holds : ∀ value, table.get? key = some value ↔ condition ∧ value = number)
    (zero : ¬ condition → number = 0) : (table.get? key).getD 0 = number := by
  by_cases held : condition
  · rw [(holds number).mpr ⟨held, rfl⟩, Option.getD_some]
  · have nothing : table.get? key = none :=
      Option.eq_none_iff_forall_ne_some.mpr fun value found => held ((holds value).mp found).1
    rw [nothing, Option.getD_none, zero held]

/-- Adds many numbers, each under its key. -/
def addAll (gifts : List (String × Rat)) (table : Table Rat) : Table Rat :=
  gifts.foldl (fun table gift => table.add gift.1 gift.2) table

def share (key : String) (gifts : List (String × Rat)) : Rat :=
  (gifts.map fun gift => if gift.1 = key then gift.2 else 0).sum

@[simp]
theorem share_nil (key : String) : share key [] = 0 := rfl

theorem share_cons (key : String) (gift : String × Rat) (gifts : List (String × Rat)) :
    share key (gift :: gifts) = (if gift.1 = key then gift.2 else 0) + share key gifts := rfl

theorem addAll_append (first second : List (String × Rat)) (table : Table Rat) :
    addAll (first ++ second) table = addAll second (addAll first table) :=
  List.foldl_append

theorem get?_add (key other : String) (value : Rat) (table : Table Rat) :
    get? other (table.add key value) =
      if key = other then some ((table.get? other).getD 0 + value) else table.get? other := by
  rw [add, get?_insert, Scalar.zero_rat]
  split
  · rename_i same
    rw [same]
  · rfl

/-- A key holds what it held before and its share of what is added. -/
theorem get?_addAll (gifts : List (String × Rat)) (table : Table Rat) (key : String) :
    (addAll gifts table).get? key =
      if key ∈ gifts.map Prod.fst then some ((table.get? key).getD 0 + share key gifts)
      else table.get? key := by
  induction gifts generalizing table with
  | nil => rfl
  | cons gift rest inductionHypothesis =>
      have first : addAll (gift :: rest) table = addAll rest (table.add gift.1 gift.2) := rfl
      rw [first, inductionHypothesis, get?_add, share_cons]
      by_cases same : gift.1 = key
      · by_cases later : key ∈ rest.map Prod.fst
        · simp [same, later, add_assoc]
        · have nothing : share key rest = 0 := by
            refine List.sum_eq_zero fun part membership => ?_
            obtain ⟨other, found, rfl⟩ := List.mem_map.mp membership
            exact if_neg fun equal => later (List.mem_map.mpr ⟨other, found, equal⟩)
          simp [same, later, nothing]
      · by_cases later : key ∈ rest.map Prod.fst
        · simp [same, later]
        · simp [same, later, Ne.symm same]

theorem Ascending.addAll {table : Table Rat} (ascending : table.Ascending)
    (gifts : List (String × Rat)) : (table.addAll gifts).Ascending := by
  induction gifts generalizing table with
  | nil => exact ascending
  | cons gift rest inductionHypothesis =>
      exact inductionHypothesis (ascending.insert gift.1 _)

theorem share_map_mul (key : String) (factor : Rat) (gifts : List (String × Rat)) :
    share key (gifts.map fun gift => (gift.1, factor * gift.2)) = factor * share key gifts := by
  rw [share, share, List.map_map, ← List.sum_map_mul_left]
  congr 1
  refine List.map_congr_left fun gift _ => ?_
  rw [Function.comp_apply, mul_ite, mul_zero]

/-- Where no key comes twice, its share is what it holds. -/
theorem share_eq_getD {table : Table Rat} (distinct : table.keys.Nodup) (key : String) :
    share key table = (table.get? key).getD 0 := by
  induction table with
  | nil => rfl
  | cons entry rest inductionHypothesis =>
      obtain ⟨other, value⟩ := entry
      obtain ⟨absent, distinctRest⟩ := List.nodup_cons.mp distinct
      rw [share_cons, inductionHypothesis distinctRest, get?]
      by_cases same : other = key
      · subst same
        simp [get?_eq_none_iff.mpr absent]
      · simp [same]

end Table

namespace Propagation

/-! ## One hop -/

section Hop

variable {edges : List (TrustEdge Rat)} {sources : Table Rat}

/-- What one identity hands on: to whom, and how much before it is damped. -/
def giftsFrom (edges : List (TrustEdge Rat)) (sources : Table Rat) (node : String × Rat) :
    List (String × Rat) :=
  (edges.filter fun edge => edge.truster = node.1 ∧ sources.has edge.trustee = false).map
    fun edge => (edge.trustee, node.2 * edge.weight)

def damped (attenuation : Rat) (gifts : List (String × Rat)) : List (String × Rat) :=
  gifts.map fun gift => (gift.1, attenuation * gift.2)

theorem fromNode_eq (attenuation : Rat) (spread : Spread Rat) (node : String × Rat) :
    fromNode edges sources attenuation spread node =
      ⟨spread.collected.addAll (damped attenuation (giftsFrom edges sources node)),
        spread.frontier.addAll (giftsFrom edges sources node)⟩ := by
  unfold fromNode giftsFrom
  induction edges generalizing spread with
  | nil => rfl
  | cons edge rest inductionHypothesis =>
      by_cases leaves : edge.truster = node.1
      · rw [List.filter_cons_of_pos (by simpa using leaves), List.foldl_cons, inductionHypothesis]
        by_cases source : sources.has edge.trustee
        · simp [alongEdge, source]
        · simp [alongEdge, source, leaves, damped, Table.addAll, mul_assoc, mul_comm node.2]
      · rw [List.filter_cons_of_neg (by simpa using leaves), inductionHypothesis]
        simp [leaves]

def gifts (edges : List (TrustEdge Rat)) (sources frontier : Table Rat) : List (String × Rat) :=
  frontier.flatMap (giftsFrom edges sources)

theorem hop_eq (attenuation : Rat) (spread : Spread Rat) :
    hop edges sources attenuation spread =
      ⟨spread.collected.addAll (damped attenuation (gifts edges sources spread.frontier)),
        Table.addAll (gifts edges sources spread.frontier) []⟩ := by
  have folded : ∀ (frontier : Table Rat) (start : Spread Rat),
      frontier.foldl (fromNode edges sources attenuation) start =
        ⟨start.collected.addAll (damped attenuation (gifts edges sources frontier)),
          start.frontier.addAll (gifts edges sources frontier)⟩ := by
    intro frontier
    induction frontier with
    | nil => exact fun _ => rfl
    | cons node rest inductionHypothesis =>
        intro start
        rw [List.foldl_cons, inductionHypothesis, fromNode_eq, gifts, gifts, List.flatMap_cons,
          damped, damped, damped, List.map_append, Table.addAll_append, Table.addAll_append]
  exact folded spread.frontier ⟨spread.collected, []⟩

theorem mem_gifts_iff {frontier : Table Rat} {target : String} :
    target ∈ (gifts edges sources frontier).map Prod.fst ↔
      sources.has target = false ∧
        ∃ edge ∈ edges, edge.trustee = target ∧ (frontier.get? edge.truster).isSome := by
  simp only [gifts, giftsFrom, List.map_flatMap, List.map_map, List.mem_flatMap, List.mem_map,
    List.mem_filter, Function.comp_apply, decide_eq_true_eq, ← Table.mem_keys_iff, Table.keys]
  constructor
  · rintro ⟨node, found, edge, ⟨used, leaves, away⟩, rfl⟩
    exact ⟨away, edge, used, rfl, node, found, leaves.symm⟩
  · rintro ⟨away, edge, used, rfl, node, found, leaves⟩
    exact ⟨node, found, edge, ⟨used, leaves.symm, away⟩, rfl⟩

/-- What one hop hands to a target comes along the edges to it. -/
theorem share_gifts {frontier : Table Rat} (distinct : frontier.keys.Nodup) {target : String}
    (away : sources.has target = false) :
    Table.share target (gifts edges sources frontier) =
      (edges.map fun edge =>
        if edge.trustee = target then (frontier.get? edge.truster).getD 0 * edge.weight
        else 0).sum := by
  have handed : ∀ node : String × Rat,
      ((giftsFrom edges sources node).map fun gift => if gift.1 = target then gift.2 else 0).sum =
        (edges.map fun edge => if edge.trustee = target then
          (if node.1 = edge.truster then node.2 else 0) * edge.weight else 0).sum := by
    intro node
    rw [giftsFrom, List.map_map, sum_map_filter]
    congr 1
    refine List.map_congr_left fun edge _ => ?_
    by_cases arrives : edge.trustee = target
    · subst arrives
      by_cases leaves : edge.truster = node.1
      · simp [leaves, away]
      · simp [leaves, Ne.symm leaves]
    · simp [arrives]
  rw [Table.share, gifts, sum_map_flatMap, List.map_congr_left fun node _ => handed node,
    sum_map_comm]
  congr 1
  refine List.map_congr_left fun edge _ => ?_
  rw [← Table.share_eq_getD distinct, Table.share, ← List.sum_map_mul_right]
  split <;> simp

end Hop

/-! ## Hops -/

section Hops

variable {edges : List (TrustEdge Rat)} {sources : Table Rat} {damping : Rat}

/-- Whether someone is reached in at most so many hops. -/
def Reached (edges : List (TrustEdge Rat)) (sources : Table Rat) (hopLimit : Nat)
    (target : String) : Prop :=
  ∃ hop < hopLimit, Arrives edges sources (hop + 1) target

/-- What is known of a spread after so many hops. -/
structure Spread.After (edges : List (TrustEdge Rat)) (sources : Table Rat) (damping : Rat)
    (spread : Spread Rat) (done : Nat) : Prop where
  frontier : ∀ target value, spread.frontier.get? target = some value ↔
    Arrives edges sources done target ∧ value = carried edges sources done target
  collected : ∀ target value, spread.collected.get? target = some value ↔
    Reached edges sources done target ∧ value = reach edges sources damping done target
  ascendingFrontier : spread.frontier.Ascending
  ascending : spread.collected.Ascending

theorem reach_succ (done : Nat) (target : String) :
    reach edges sources damping (done + 1) target =
      reach edges sources damping done target +
        damping ^ done * carried edges sources (done + 1) target := by
  rw [reach_eq, reach_eq, List.sum_range_succ]

theorem reached_succ_iff {done : Nat} {target : String} :
    Reached edges sources (done + 1) target ↔
      Reached edges sources done target ∨ Arrives edges sources (done + 1) target := by
  constructor
  · rintro ⟨hop, within, arrived⟩
    rcases Nat.lt_succ_iff_lt_or_eq.mp within with before | rfl
    · exact .inl ⟨hop, before, arrived⟩
    · exact .inr arrived
  · rintro (⟨hop, within, arrived⟩ | arrived)
    · exact ⟨hop, by omega, arrived⟩
    · exact ⟨done, by omega, arrived⟩

/-- Those who are not reached collect nothing. -/
theorem reach_eq_zero {hopLimit : Nat} {target : String}
    (unreached : ¬ Reached edges sources hopLimit target) :
    reach edges sources damping hopLimit target = 0 := by
  rw [reach_eq]
  refine List.sum_eq_zero fun part membership => ?_
  obtain ⟨hop, within, rfl⟩ := List.mem_map.mp membership
  rw [carried_eq_zero fun arrived => unreached ⟨hop, List.mem_range.mp within, arrived⟩, mul_zero]

namespace Spread.After

variable {spread : Spread Rat} {done : Nat}

theorem isSome_frontier_iff (after : spread.After edges sources damping done) (target : String) :
    (spread.frontier.get? target).isSome ↔ Arrives edges sources done target := by
  rw [Option.isSome_iff_exists]
  simp [after.frontier]

theorem getD_frontier (after : spread.After edges sources damping done) (target : String) :
    (spread.frontier.get? target).getD 0 = carried edges sources done target :=
  Table.getD_eq_of_iff (after.frontier target) carried_eq_zero

theorem getD_collected (after : spread.After edges sources damping done) (target : String) :
    (spread.collected.get? target).getD 0 = reach edges sources damping done target :=
  Table.getD_eq_of_iff (after.collected target) reach_eq_zero

theorem mem_gifts_iff (after : spread.After edges sources damping done) {target : String} :
    target ∈ (gifts edges sources spread.frontier).map Prod.fst ↔
      Arrives edges sources (done + 1) target := by
  rw [Propagation.mem_gifts_iff, Arrives]
  simp only [after.isSome_frontier_iff]

theorem share_gifts (after : spread.After edges sources damping done) {target : String}
    (away : sources.has target = false) :
    Table.share target (gifts edges sources spread.frontier) =
      carried edges sources (done + 1) target := by
  rw [Propagation.share_gifts after.ascendingFrontier.nodup_keys away, carried, away]
  simp only [after.getD_frontier, Bool.false_eq_true, if_false]

/-- At first everything is at the sources. -/
theorem start (ascending : sources.Ascending) :
    After edges sources damping ⟨[], sources⟩ 0 where
  frontier := by
    intro target value
    simp only [Arrives, carried, Table.has, Option.isSome_iff_exists]
    constructor
    · intro found
      exact ⟨⟨value, found⟩, by rw [found, Option.getD_some]⟩
    · rintro ⟨⟨score, found⟩, rfl⟩
      rw [found, Option.getD_some]
  collected := by
    intro target value
    simp [Reached]
  ascendingFrontier := ascending
  ascending := Table.ascending_nil

/-- One hop makes every walk one edge longer. -/
theorem hop (after : spread.After edges sources damping done) :
    After edges sources damping (hop edges sources (Scalar.power damping done) spread)
      (done + 1) := by
  rw [hop_eq, Scalar.power_rat]
  constructor
  case frontier =>
    intro target value
    rw [Table.get?_addAll, after.mem_gifts_iff.symm]
    split
    · rename_i given
      rw [after.share_gifts (after.mem_gifts_iff.mp given).1]
      simp [given, eq_comm]
    · rename_i nothing
      simp [nothing]
  case collected =>
    intro target value
    have keys : (damped (damping ^ done) (gifts edges sources spread.frontier)).map Prod.fst =
        (gifts edges sources spread.frontier).map Prod.fst := by
      simp [damped]
    rw [Table.get?_addAll, keys, reached_succ_iff, reach_succ, ← after.mem_gifts_iff]
    split
    · rename_i given
      rw [after.getD_collected, damped, Table.share_map_mul,
        after.share_gifts (after.mem_gifts_iff.mp given).1]
      simp [given, eq_comm]
    · rename_i nothing
      rw [after.collected, carried_eq_zero fun arrived => nothing (after.mem_gifts_iff.mpr arrived)]
      simp [nothing]
  case ascendingFrontier => exact Table.ascending_nil.addAll _
  case ascending => exact after.ascending.addAll _

/-- Where a hop has come to nobody, no hop after it would. -/
theorem of_idle (after : spread.After edges sources damping done) (idle : spread.frontier = [])
    (more : Nat) : spread.After edges sources damping (done + more) := by
  have nobody : ∀ target, ¬ Arrives edges sources done target := by
    intro target arrived
    rw [← after.isSome_frontier_iff, idle] at arrived
    cases arrived
  induction more with
  | zero => exact after
  | succ more inductionHypothesis =>
      have never : ∀ target, ¬ Arrives edges sources (done + more + 1) target :=
        fun target => not_arrives_of_idle nobody (more + 1) target
      constructor
      case frontier =>
        intro target value
        simp [idle, never target, ← Nat.add_assoc]
      case collected =>
        intro target value
        rw [inductionHypothesis.collected, ← Nat.add_assoc, reached_succ_iff, reach_succ,
          carried_eq_zero (never target)]
        simp [never target]
      case ascendingFrontier => exact inductionHypothesis.ascendingFrontier
      case ascending => exact inductionHypothesis.ascending

/-- So is the end of all hops, also where they stop early. -/
theorem hops (after : spread.After edges sources damping done) (left : Nat) :
    After edges sources damping (hops edges sources damping left done spread) (done + left) := by
  induction left generalizing spread done with
  | zero => exact after
  | succ left inductionHypothesis =>
      rw [Propagation.hops, Nat.add_comm left 1, ← Nat.add_assoc]
      split
      · rename_i idle
        exact after.hop.of_idle (List.isEmpty_iff.mp idle) left
      · exact inductionHypothesis after.hop

/-- After all hops that are allowed. -/
theorem all (edges : List (TrustEdge Rat)) (hopLimit : Nat) (damping : Rat)
    (ascending : sources.Ascending) :
    After edges sources damping (Propagation.hops edges sources damping hopLimit 0 ⟨[], sources⟩)
      hopLimit := by
  have before : After edges sources damping ⟨[], sources⟩ 0 := start ascending
  have after := before.hops hopLimit
  rwa [Nat.zero_add] at after

end Spread.After

end Hops

/-! ## Shares -/

theorem keys_normalize (collected : Table Rat) : (normalize collected).keys = collected.keys := by
  unfold normalize
  dsimp only
  split
  · simp [Table.keys]
  · rfl

/-- Shares are divided by what they amount to, if that is more than one. -/
theorem get?_normalize (collected : Table Rat) (target : String) :
    (normalize collected).get? target =
      (collected.get? target).map (· / max 1 collected.values.sum) := by
  have divided : ∀ (total : Rat) (entries : Table Rat),
      Table.get? target (entries.map fun entry => (entry.1, entry.2 / total)) =
        (entries.get? target).map (· / total) := by
    intro total entries
    induction entries with
    | nil => rfl
    | cons entry rest inductionHypothesis =>
        rw [List.map_cons, Table.get?, Table.get?, inductionHypothesis]
        split <;> rfl
  unfold normalize
  rw [Scalar.sum_rat, Scalar.one_rat]
  dsimp only
  split
  · rename_i much
    rw [max_eq_right much.le, divided]
  · rename_i little
    rw [max_eq_left (not_lt.mp little)]
    simp

/-- Everyone who is reached is at the end of an edge. -/
theorem exists_edge_of_reached {edges : List (TrustEdge Rat)} {sources : Table Rat}
    {hopLimit : Nat} {target : String} (reached : Reached edges sources hopLimit target) :
    ∃ edge ∈ edges, edge.trustee = target := by
  obtain ⟨_, _, _, edge, used, ends, _⟩ := reached
  exact ⟨edge, used, ends⟩

/-- The shares of all targets are collected. -/
theorem Spread.After.sum_values {edges : List (TrustEdge Rat)} {sources : Table Rat}
    {damping : Rat} {spread : Spread Rat} {done : Nat}
    (after : spread.After edges sources damping done) :
    spread.collected.values.sum = totalReach edges sources damping done := by
  have values : spread.collected.values =
      spread.collected.keys.map (reach edges sources damping done) := by
    rw [Table.values, Table.keys, List.map_map]
    refine List.map_congr_left fun entry membership => ?_
    have found := (Table.get?_eq_some_iff after.ascending.nodup_keys).mpr membership
    exact ((after.collected entry.1 entry.2).mp found).2
  rw [values, ← List.sum_toFinset _ after.ascending.nodup_keys, totalReach]
  refine Finset.sum_subset ?_ ?_
  · intro target membership
    rw [List.mem_toFinset, Table.mem_keys_iff, Option.isSome_iff_exists] at membership
    obtain ⟨value, found⟩ := membership
    rw [List.mem_toFinset, List.mem_map]
    exact exists_edge_of_reached ((after.collected target value).mp found).1
  · intro target _ absent
    rw [List.mem_toFinset, Table.mem_keys_iff, Option.isSome_iff_exists] at absent
    exact reach_eq_zero fun reached => absent ⟨_, (after.collected target _).mpr ⟨reached, rfl⟩⟩

/-! ## Validity -/

/-- What is checked before trust is propagated. -/
structure IsValid {R : Type} [Scalar R] (edges : List (TrustEdge R)) (sources : Table R)
    (hopLimit : Nat) (damping : R) : Prop where
  damping : Scalar.InUnit damping
  hopLimit : hopLimit ≤ maxHopLimit
  seeds : ∀ entry ∈ sources, Scalar.InUnit entry.2
  endpoints : ∀ edge ∈ edges, edge.truster ≠ "" ∧ edge.trustee ≠ ""
  weights : ∀ edge ∈ edges, Scalar.InUnit edge.weight

theorem requireValid_eq_ok_iff {R : Type} [Scalar R] {edge : TrustEdge R} :
    edge.requireValid = .ok () ↔
      (edge.truster ≠ "" ∧ edge.trustee ≠ "") ∧ Scalar.InUnit edge.weight := by
  rw [TrustEdge.requireValid, check_bind_eq_ok_iff, require_eq_ok_iff, requireUnit_eq_ok_iff]

/-- What every target has collected in the end. -/
def shares {R : Type} [Scalar R] (edges : List (TrustEdge R)) (sources : Table R)
    (hopLimit : Nat) (damping : R) : Table R :=
  normalize (hops edges sources damping hopLimit 0 ⟨[], sources⟩).collected

/-- The shares beside the scores of the sources. -/
def scores {R : Type} [Scalar R] (edges : List (TrustEdge R)) (sources : Table R)
    (hopLimit : Nat) (damping : R) : Table R :=
  (shares edges sources hopLimit damping).foldl
    (fun scores entry => scores.insert entry.1 (Scalar.clampUnit entry.2)) sources

/-- Trust is propagated exactly where the input is valid. -/
theorem propagateTrust_eq_ok_iff {R : Type} [Scalar R] {edges : List (TrustEdge R)}
    {sources result : Table R} {hopLimit : Nat} {damping : R} :
    propagateTrust edges sources hopLimit damping = .ok result ↔
      IsValid edges sources hopLimit damping ∧
        result = scores edges sources hopLimit damping := by
  unfold propagateTrust
  simp only [check_bind_eq_ok_iff, requireUnit_eq_ok_iff, require_eq_ok_iff,
    forIn_checks_eq_ok_iff, requireValid_eq_ok_iff]
  constructor
  · rintro ⟨damped, bounded, seeds, each, finished⟩
    exact ⟨⟨damped, bounded, seeds, fun edge used => (each edge used).1,
      fun edge used => (each edge used).2⟩, (Except.ok.inj finished).symm⟩
  · rintro ⟨⟨damped, bounded, seeds, endpoints, weights⟩, rfl⟩
    exact ⟨damped, bounded, seeds, fun edge used => ⟨endpoints edge used, weights edge used⟩, rfl⟩

theorem IsValid.congr {edges others : List (TrustEdge Rat)} {sources : Table Rat} {hopLimit : Nat}
    {damping : Rat} (permuted : edges.Perm others)
    (valid : IsValid edges sources hopLimit damping) :
    IsValid others sources hopLimit damping where
  damping := valid.damping
  hopLimit := valid.hopLimit
  seeds := valid.seeds
  endpoints := fun edge used => valid.endpoints edge (permuted.mem_iff.mpr used)
  weights := fun edge used => valid.weights edge (permuted.mem_iff.mpr used)

/-! ## The result -/

section Result

variable {edges : List (TrustEdge Rat)} {sources : Table Rat} {hopLimit : Nat} {damping : Rat}

/-- What a target ends up with on all walks to it, if there are any. -/
def walkScore? (edges : List (TrustEdge Rat)) (sources : Table Rat) (hopLimit : Nat)
    (damping : Rat) (target : String) : Option Rat :=
  if (walksTo edges sources hopLimit target).isEmpty then none
  else some (reach edges sources damping hopLimit target /
    max 1 (totalReach edges sources damping hopLimit))

theorem walkScore?_congr {others : List (TrustEdge Rat)} (permuted : edges.Perm others)
    (target : String) :
    walkScore? edges sources hopLimit damping target =
      walkScore? others sources hopLimit damping target := by
  have same : (walksTo edges sources hopLimit target).isEmpty =
      (walksTo others sources hopLimit target).isEmpty := by
    rw [Bool.eq_iff_iff, List.isEmpty_iff, List.isEmpty_iff, List.eq_nil_iff_forall_not_mem,
      List.eq_nil_iff_forall_not_mem, ← not_exists, ← not_exists, exists_mem_walksTo_iff,
      exists_mem_walksTo_iff]
    simp only [arrives_congr permuted]
  rw [walkScore?, walkScore?, same, reach_congr permuted, totalReach_congr permuted]

/-- The share of a target is what its walks are worth. -/
theorem get?_shares (ascending : sources.Ascending) (target : String) :
    (shares edges sources hopLimit damping).get? target =
      walkScore? edges sources hopLimit damping target := by
  have after := Spread.After.all edges hopLimit damping ascending
  rw [shares, get?_normalize, after.sum_values, walkScore?]
  by_cases reached : Reached edges sources hopLimit target
  · obtain ⟨path, membership⟩ := (exists_mem_walksTo_iff hopLimit target).mpr reached
    rw [(after.collected target _).mpr ⟨reached, rfl⟩, Option.map_some,
      if_neg fun none => List.ne_nil_of_mem membership (List.isEmpty_iff.mp none)]
  · have unreached : walksTo edges sources hopLimit target = [] :=
      List.eq_nil_iff_forall_not_mem.mpr fun path membership =>
        reached ((exists_mem_walksTo_iff hopLimit target).mp ⟨path, membership⟩)
    have nothing : (hops edges sources damping hopLimit 0 ⟨[], sources⟩).collected.get? target =
        none :=
      Option.eq_none_iff_forall_ne_some.mpr fun value found =>
        reached ((after.collected target value).mp found).1
    rw [nothing, unreached]
    rfl

/-- A source is reached by no walk. -/
theorem walkScore?_source {target : String} (source : sources.has target) :
    walkScore? edges sources hopLimit damping target = none := by
  refine if_pos (List.isEmpty_iff.mpr (List.eq_nil_iff_forall_not_mem.mpr ?_))
  intro path membership
  obtain ⟨_, _, away, _⟩ := (exists_mem_walksTo_iff hopLimit target).mp ⟨path, membership⟩
  rw [source] at away
  cases away

theorem inUnit_of_walkScore? (valid : IsValid edges sources hopLimit damping) {target : String}
    {score : Rat} (found : walkScore? edges sources hopLimit damping target = some score) :
    0 ≤ score ∧ score ≤ 1 := by
  have damped := (Scalar.inUnit_rat_iff.mp valid.damping).1
  have seeds := fun entry membership => (Scalar.inUnit_rat_iff.mp (valid.seeds entry membership)).1
  have weights := fun edge used => (Scalar.inUnit_rat_iff.mp (valid.weights edge used)).1
  unfold walkScore? at found
  split at found
  · cases found
  · rename_i walked
    obtain ⟨path, membership⟩ := List.exists_mem_of_ne_nil _ (mt List.isEmpty_iff.mpr walked)
    have reached := (exists_mem_walksTo_iff hopLimit target).mp ⟨path, membership⟩
    have positive : 0 < max 1 (totalReach edges sources damping hopLimit) :=
      lt_max_of_lt_left zero_lt_one
    cases found
    constructor
    · exact div_nonneg (reach_nonneg damped seeds weights hopLimit target) positive.le
    · exact (div_le_one positive).mpr (le_max_of_le_right
        (reach_le_totalReach damped seeds weights hopLimit (exists_edge_of_reached reached)))

theorem nodup_keys_shares (ascending : sources.Ascending) :
    (shares edges sources hopLimit damping).keys.Nodup := by
  rw [shares, keys_normalize]
  exact (Spread.After.all edges hopLimit damping ascending).ascending.nodup_keys

/-- No share has to be brought back to the unit interval. -/
theorem clampUnit_of_mem_shares (ascending : sources.Ascending)
    (valid : IsValid edges sources hopLimit damping) :
    ∀ entry ∈ shares edges sources hopLimit damping, Scalar.clampUnit entry.2 = entry.2 := by
  intro entry membership
  have found := (Table.get?_eq_some_iff (nodup_keys_shares ascending)).mpr membership
  rw [get?_shares ascending] at found
  obtain ⟨low, high⟩ := inUnit_of_walkScore? valid found
  exact Scalar.clampUnit_rat low high

theorem ascending_scores (ascending : sources.Ascending) :
    (scores edges sources hopLimit damping).Ascending :=
  ascending.foldl_insert _ _

theorem get?_scores (ascending : sources.Ascending)
    (valid : IsValid edges sources hopLimit damping) (target : String) :
    (scores edges sources hopLimit damping).get? target =
      if sources.has target then sources.get? target
      else walkScore? edges sources hopLimit damping target := by
  rw [scores, Table.get?_foldl_insert _ (nodup_keys_shares ascending), get?_shares ascending]
  split
  · rename_i source
    rw [walkScore?_source source, Option.map_none, Option.none_or]
  · rename_i other
    rw [Table.has_eq_false_iff.mp (Bool.eq_false_iff.mpr other), Option.or_none]
    cases found : walkScore? edges sources hopLimit damping target with
    | none => rfl
    | some score =>
        obtain ⟨low, high⟩ := inUnit_of_walkScore? valid found
        rw [Option.map_some, Scalar.clampUnit_rat low high]

/-- Trust along paths, on exact numbers, is a sum over walks.  Every source keeps its score; others
have what all walks to them are worth, divided by what all targets collect where that is more than
one; nobody else is in the result.  No share has to be brought back to the unit interval, and the
edges may come in any order. -/
theorem propagateTrust_eq_walks (ascending : sources.Ascending)
    (valid : IsValid edges sources hopLimit damping) :
    ∃ result, propagateTrust edges sources hopLimit damping = .ok result ∧
      result.Ascending ∧
      (∀ target, result.get? target =
        if sources.has target then sources.get? target
        else walkScore? edges sources hopLimit damping target) ∧
      (∀ entry ∈ shares edges sources hopLimit damping, Scalar.clampUnit entry.2 = entry.2) ∧
      ∀ others, edges.Perm others →
        propagateTrust others sources hopLimit damping = .ok result := by
  refine ⟨scores edges sources hopLimit damping, propagateTrust_eq_ok_iff.mpr ⟨valid, rfl⟩,
    ascending_scores ascending, get?_scores ascending valid,
    clampUnit_of_mem_shares ascending valid, ?_⟩
  intro others permuted
  refine propagateTrust_eq_ok_iff.mpr ⟨valid.congr permuted, ?_⟩
  refine (ascending_scores ascending).ext (ascending_scores ascending) fun target => ?_
  rw [get?_scores ascending valid, get?_scores ascending (valid.congr permuted),
    walkScore?_congr permuted]

/-- Two parallel edges, one back to the source, a loop and one that leads on. -/
def looped : List (TrustEdge Rat) :=
  [⟨"a", "b", 1 / 2⟩, ⟨"b", "a", 1⟩, ⟨"b", "b", 1⟩, ⟨"a", "b", 1 / 4⟩, ⟨"b", "c", 1 / 2⟩]

theorem propagateTrust_looped :
    Table.Ascending [("a", (1 : Rat))] ∧ IsValid looped [("a", 1)] 2 (1 / 2) ∧
      ∃ result, propagateTrust looped [("a", 1)] 2 (1 / 2) = .ok result ∧
        result.get? "a" = some 1 ∧ result.get? "b" = some (6 / 7) ∧
        result.get? "c" = some (1 / 7) ∧ result.get? "d" = none := by
  have ascending : Table.Ascending [("a", (1 : Rat))] := List.pairwise_singleton _ _
  have valid : IsValid looped [("a", 1)] 2 (1 / 2) := by
    constructor <;> decide +kernel
  obtain ⟨result, propagated, _, found, _⟩ := propagateTrust_eq_walks ascending valid
  refine ⟨ascending, valid, result, propagated, ?_, ?_, ?_, ?_⟩
  all_goals
    rw [found]
    decide +kernel

end Result

end Propagation

end ReviewGate
