import Mathlib
import ReviewGate.Proofs.Data.Laws
import ReviewGate.Trust.Propagation

/-!
# Walks along edges

What reaches a target is a sum over all walks from a source to it.  Grouped by their last edges, the
walks of one length follow from those that are one edge shorter.
-/

namespace ReviewGate.Propagation

/-! ## Sums over lists -/

theorem sum_map_filter {Item : Type} (kept : Item → Prop) [DecidablePred kept] (value : Item → Rat)
    (items : List Item) :
    ((items.filter fun item => kept item).map value).sum =
      (items.map fun item => if kept item then value item else 0).sum := by
  rw [List.sum_map_ite, List.map_const', List.sum_replicate, nsmul_zero, add_zero]

theorem sum_map_flatMap {First Second : Type} (value : Second → Rat) (parts : First → List Second)
    (items : List First) :
    ((items.flatMap parts).map value).sum =
      (items.map fun item => ((parts item).map value).sum).sum := by
  induction items with
  | nil => rfl
  | cons item rest inductionHypothesis =>
      rw [List.flatMap_cons, List.map_append, List.sum_append, inductionHypothesis, List.map_cons,
        List.sum_cons]

theorem sum_map_comm {First Second : Type} (value : First → Second → Rat) (firsts : List First)
    (seconds : List Second) :
    (firsts.map fun first => (seconds.map fun second => value first second).sum).sum =
      (seconds.map fun second => (firsts.map fun first => value first second).sum).sum := by
  induction firsts with
  | nil => simp
  | cons first rest inductionHypothesis =>
      simp only [List.map_cons, List.sum_cons, inductionHypothesis, List.sum_map_add]

/-! ## Walks -/

section Walks

variable {R : Type}

/-- All ways to take so many edges one after another; parallel edges count apart. -/
def paths (edges : List (TrustEdge R)) : Nat → List (List (TrustEdge R))
  | 0 => [[]]
  | length + 1 =>
      (paths edges length).flatMap fun path => edges.map fun edge => path ++ [edge]

/-- A walk starts at a source, each of its edges leaves where the one before it arrived, it never
comes to a source again, and it ends at the target. -/
structure IsWalk (sources : Table R) (path : List (TrustEdge R)) (target : String) : Prop where
  starts : path.head?.any fun first => sources.has first.truster
  linked : path.IsChain fun edge next => edge.trustee = next.truster
  away : ∀ edge ∈ path, sources.has edge.trustee = false
  ends : path.getLast?.any fun last => last.trustee == target

theorem isWalk_iff {sources : Table R} {path : List (TrustEdge R)} {target : String} :
    IsWalk sources path target ↔
      (path.head?.any fun first => sources.has first.truster) ∧
        (path.IsChain fun edge next => edge.trustee = next.truster) ∧
        (∀ edge ∈ path, sources.has edge.trustee = false) ∧
        path.getLast?.any fun last => last.trustee == target :=
  ⟨fun ⟨starts, linked, away, ends⟩ => ⟨starts, linked, away, ends⟩,
    fun ⟨starts, linked, away, ends⟩ => ⟨starts, linked, away, ends⟩⟩

instance (sources : Table R) (path : List (TrustEdge R)) (target : String) :
    Decidable (IsWalk sources path target) :=
  decidable_of_iff _ isWalk_iff.symm

/-- The walks of at most so many edges to a target. -/
def walksTo (edges : List (TrustEdge R)) (sources : Table R) (hopLimit : Nat) (target : String) :
    List (List (TrustEdge R)) :=
  ((List.range' 1 hopLimit).flatMap (paths edges)).filter fun path => IsWalk sources path target

theorem mem_paths_succ_iff {edges : List (TrustEdge R)} {length : Nat}
    {path : List (TrustEdge R)} :
    path ∈ paths edges (length + 1) ↔
      ∃ shorter ∈ paths edges length, ∃ edge ∈ edges, shorter ++ [edge] = path := by
  simp only [paths, List.mem_flatMap, List.mem_map]

theorem length_of_mem_paths {edges : List (TrustEdge R)} {length : Nat}
    {path : List (TrustEdge R)} (membership : path ∈ paths edges length) :
    path.length = length := by
  induction length generalizing path with
  | zero => rw [List.mem_singleton.mp membership, List.length_nil]
  | succ length inductionHypothesis =>
      obtain ⟨shorter, member, edge, _, rfl⟩ := mem_paths_succ_iff.mp membership
      rw [List.length_append, inductionHypothesis member, List.length_singleton]

theorem ne_nil_of_mem_paths {edges : List (TrustEdge R)} {length : Nat}
    {path : List (TrustEdge R)} (membership : path ∈ paths edges (length + 1)) : path ≠ [] := by
  refine List.ne_nil_of_length_pos ?_
  rw [length_of_mem_paths membership]
  exact Nat.succ_pos length

/-- A walk of one edge goes from a source to one who is none. -/
theorem isWalk_singleton {sources : Table R} {edge : TrustEdge R} {target : String} :
    IsWalk sources [edge] target ↔
      edge.trustee = target ∧ sources.has target = false ∧ sources.has edge.truster := by
  rw [isWalk_iff]
  simp only [List.head?_cons, Option.any_some, List.isChain_singleton, List.mem_singleton,
    forall_eq, List.getLast?_singleton, beq_iff_eq, true_and]
  constructor
  · rintro ⟨starts, away, rfl⟩
    exact ⟨rfl, away, starts⟩
  · rintro ⟨rfl, away, starts⟩
    exact ⟨starts, away, rfl⟩

/-- A longer walk is a walk with one edge more. -/
theorem isWalk_concat {sources : Table R} {path : List (TrustEdge R)} {edge : TrustEdge R}
    {target : String} (nonempty : path ≠ []) :
    IsWalk sources (path ++ [edge]) target ↔
      edge.trustee = target ∧ sources.has target = false ∧
        IsWalk sources path edge.truster := by
  obtain ⟨first, rest, rfl⟩ := List.exists_cons_of_ne_nil nonempty
  have last : ((first :: rest).getLast?.any fun last => last.trustee == edge.truster) ↔
      ∀ last ∈ (first :: rest).getLast?, last.trustee = edge.truster := by
    rw [List.getLast?_eq_getLast_of_ne_nil nonempty]
    simp
  rw [isWalk_iff, isWalk_iff, last, List.isChain_append, List.getLast?_concat]
  simp only [List.cons_append, List.head?_cons, List.isChain_singleton, List.mem_cons,
    List.mem_append, Option.any_some, beq_iff_eq, Option.mem_some_iff, List.not_mem_nil, or_false,
    forall_eq', true_and]
  constructor
  · rintro ⟨starts, ⟨linked, joined⟩, away, rfl⟩
    exact ⟨rfl, away edge (.inr (.inr rfl)), starts, linked,
      fun other membership => away other (membership.imp_right .inl), joined⟩
  · rintro ⟨rfl, source, starts, linked, away, joined⟩
    refine ⟨starts, ⟨linked, joined⟩, ?_, rfl⟩
    rintro other (rfl | later | rfl)
    · exact away other (.inl rfl)
    · exact away other (.inr later)
    · exact source

end Walks

/-! ## What walks carry -/

section Shares

variable (edges : List (TrustEdge Rat)) (sources : Table Rat)

/-- The score of the source at which a path starts. -/
def seedScore (path : List (TrustEdge Rat)) : Rat :=
  (path.head?.bind fun first => sources.get? first.truster).getD 0

/-- What a path hands on before it is damped. -/
def load (path : List (TrustEdge Rat)) : Rat :=
  seedScore sources path * (path.map (·.weight)).prod

/-- What a path contributes to its target: every edge after the first is damped. -/
def worth (damping : Rat) (path : List (TrustEdge Rat)) : Rat :=
  load sources path * damping ^ (path.length - 1)

/-- What a target collects on all walks to it. -/
def reach (damping : Rat) (hopLimit : Nat) (target : String) : Rat :=
  ((walksTo edges sources hopLimit target).map (worth sources damping)).sum

/-- What all targets together collect. -/
def totalReach (damping : Rat) (hopLimit : Nat) : Rat :=
  ∑ target ∈ (edges.map (·.trustee)).toFinset, reach edges sources damping hopLimit target

/-- Whether someone is so many edges away from a source, going past no other one. -/
def Arrives : Nat → String → Prop
  | 0, target => sources.has target
  | hops + 1, target =>
      sources.has target = false ∧
        ∃ edge ∈ edges, edge.trustee = target ∧ Arrives hops edge.truster

/-- What comes to someone along so many edges before it is damped. -/
def carried : Nat → String → Rat
  | 0, target => (sources.get? target).getD 0
  | hops + 1, target =>
      if sources.has target then 0
      else (edges.map fun edge =>
        if edge.trustee = target then carried hops edge.truster * edge.weight else 0).sum

variable {edges sources}

theorem load_singleton (edge : TrustEdge Rat) :
    load sources [edge] = (sources.get? edge.truster).getD 0 * edge.weight := by
  simp [load, seedScore]

theorem load_concat {path : List (TrustEdge Rat)} (nonempty : path ≠ []) (edge : TrustEdge Rat) :
    load sources (path ++ [edge]) = load sources path * edge.weight := by
  obtain ⟨first, rest, rfl⟩ := List.exists_cons_of_ne_nil nonempty
  simp [load, seedScore, mul_assoc]

theorem exists_walk_iff_arrives (hops : Nat) (target : String) :
    (∃ path ∈ paths edges (hops + 1), IsWalk sources path target) ↔
      Arrives edges sources (hops + 1) target := by
  induction hops generalizing target with
  | zero =>
      simp [paths, Arrives, isWalk_singleton]
      tauto
  | succ hops inductionHypothesis =>
      rw [Arrives]
      constructor
      · rintro ⟨path, membership, walk⟩
        obtain ⟨shorter, member, edge, used, rfl⟩ := mem_paths_succ_iff.mp membership
        obtain ⟨ends, away, walked⟩ := (isWalk_concat (ne_nil_of_mem_paths member)).mp walk
        exact ⟨away, edge, used, ends, (inductionHypothesis _).mp ⟨shorter, member, walked⟩⟩
      · rintro ⟨away, edge, used, ends, arrived⟩
        obtain ⟨shorter, member, walked⟩ := (inductionHypothesis _).mpr arrived
        exact ⟨shorter ++ [edge], mem_paths_succ_iff.mpr ⟨shorter, member, edge, used, rfl⟩,
          (isWalk_concat (ne_nil_of_mem_paths member)).mpr ⟨ends, away, walked⟩⟩

theorem carried_succ (hops : Nat) (target : String) :
    carried edges sources (hops + 1) target =
      (edges.map fun edge => if edge.trustee = target ∧ sources.has target = false then
        carried edges sources hops edge.truster * edge.weight else 0).sum := by
  rw [carried]
  split
  · simp [*]
  · simp [*]

/-- Grouped by their last edges, the walks of one length carry what the shorter ones carry on. -/
theorem sum_loads_eq_carried (hops : Nat) (target : String) :
    (((paths edges (hops + 1)).filter fun path => IsWalk sources path target).map
        (load sources)).sum = carried edges sources (hops + 1) target := by
  -- A longer walk is split before its last edge; what comes before ends where that edge leaves.
  induction hops generalizing target with
  | zero =>
      have single : paths edges 1 = edges.map fun edge => [edge] := by simp [paths]
      rw [single, sum_map_filter, carried_succ, List.map_map]
      congr 1
      refine List.map_congr_left fun edge _ => ?_
      simp only [Function.comp_apply, isWalk_singleton, load_singleton, carried]
      by_cases started : sources.has edge.truster
      · simp [started]
      · simp [started, Table.has_eq_false_iff.mp (Bool.eq_false_iff.mpr started)]
  | succ hops inductionHypothesis =>
      have extended : ∀ path ∈ paths edges (hops + 1), ∀ edge,
          (if IsWalk sources (path ++ [edge]) target then load sources (path ++ [edge]) else 0) =
            if edge.trustee = target ∧ sources.has target = false then
              (if IsWalk sources path edge.truster then load sources path else 0) * edge.weight
            else 0 := by
        intro path membership edge
        have nonempty := ne_nil_of_mem_paths membership
        simp only [load_concat nonempty, isWalk_concat nonempty]
        by_cases arrived : edge.trustee = target ∧ sources.has target = false
        · simp [arrived]
        · rw [if_neg arrived, if_neg fun walk => arrived ⟨walk.1, walk.2.1⟩]
      rw [sum_map_filter, paths, sum_map_flatMap, carried_succ]
      simp only [List.map_map, Function.comp_def]
      rw [List.map_congr_left fun path membership =>
        congrArg List.sum (List.map_congr_left fun edge _ => extended path membership edge),
        sum_map_comm]
      congr 1
      refine List.map_congr_left fun edge _ => ?_
      rw [← inductionHypothesis, sum_map_filter, ← List.sum_map_mul_right]
      split <;> simp

/-- Hop by hop, a target collects what is carried to it, damped so many times. -/
theorem reach_eq (damping : Rat) (hopLimit : Nat) (target : String) :
    reach edges sources damping hopLimit target =
      ((List.range hopLimit).map fun hop =>
        damping ^ hop * carried edges sources (hop + 1) target).sum := by
  rw [reach, walksTo, List.filter_flatMap, sum_map_flatMap, List.range'_eq_map_range, List.map_map]
  congr 1
  refine List.map_congr_left fun hop _ => ?_
  rw [Function.comp_apply, Nat.add_comm 1 hop, ← sum_loads_eq_carried, ← List.sum_map_mul_left]
  congr 1
  refine List.map_congr_left fun path membership => ?_
  rw [worth, length_of_mem_paths (List.mem_of_mem_filter membership), Nat.add_sub_cancel, mul_comm]

theorem exists_mem_walksTo_iff (hopLimit : Nat) (target : String) :
    (∃ path, path ∈ walksTo edges sources hopLimit target) ↔
      ∃ hop < hopLimit, Arrives edges sources (hop + 1) target := by
  simp only [walksTo, List.mem_filter, List.mem_flatMap, List.mem_range'_1, decide_eq_true_eq,
    ← exists_walk_iff_arrives]
  constructor
  · rintro ⟨path, ⟨length, ⟨positive, within⟩, membership⟩, walk⟩
    refine ⟨length - 1, by omega, path, ?_, walk⟩
    rwa [Nat.sub_add_cancel positive]
  · rintro ⟨hop, within, path, membership, walk⟩
    exact ⟨path, ⟨hop + 1, ⟨by omega, by omega⟩, membership⟩, walk⟩

theorem carried_eq_zero {hops : Nat} {target : String}
    (unreached : ¬ Arrives edges sources hops target) : carried edges sources hops target = 0 := by
  induction hops generalizing target with
  | zero =>
      rw [Arrives, Bool.not_eq_true, Table.has_eq_false_iff] at unreached
      rw [carried, unreached, Option.getD_none]
  | succ hops inductionHypothesis =>
      rw [carried_succ]
      refine List.sum_eq_zero fun part membership => ?_
      obtain ⟨edge, used, rfl⟩ := List.mem_map.mp membership
      split
      · rename_i arrived
        rw [inductionHypothesis fun before =>
          unreached ⟨arrived.2, edge, used, arrived.1, before⟩, zero_mul]
      · rfl

/-- Nothing arrives after a hop that has come to nobody. -/
theorem not_arrives_of_idle {done : Nat} (idle : ∀ target, ¬ Arrives edges sources done target)
    (more : Nat) (target : String) : ¬ Arrives edges sources (done + more) target := by
  induction more generalizing target with
  | zero => exact idle target
  | succ more inductionHypothesis =>
      rintro ⟨_, edge, _, _, before⟩
      exact inductionHypothesis edge.truster before

theorem carried_nonneg (seeds : ∀ entry ∈ sources, 0 ≤ entry.2)
    (weights : ∀ edge ∈ edges, 0 ≤ edge.weight) (hops : Nat) (target : String) :
    0 ≤ carried edges sources hops target := by
  induction hops generalizing target with
  | zero =>
      rw [carried]
      cases found : sources.get? target with
      | none => exact le_refl 0
      | some score => exact seeds _ (Table.mem_of_get?_eq_some found)
  | succ hops inductionHypothesis =>
      rw [carried_succ]
      refine List.sum_nonneg fun part membership => ?_
      obtain ⟨edge, used, rfl⟩ := List.mem_map.mp membership
      split
      · exact mul_nonneg (inductionHypothesis edge.truster) (weights edge used)
      · exact le_refl 0

theorem reach_nonneg {damping : Rat} (damped : 0 ≤ damping) (seeds : ∀ entry ∈ sources, 0 ≤ entry.2)
    (weights : ∀ edge ∈ edges, 0 ≤ edge.weight) (hopLimit : Nat) (target : String) :
    0 ≤ reach edges sources damping hopLimit target := by
  rw [reach_eq]
  refine List.sum_nonneg fun part membership => ?_
  obtain ⟨hop, _, rfl⟩ := List.mem_map.mp membership
  exact mul_nonneg (pow_nonneg damped hop) (carried_nonneg seeds weights _ target)

/-- No share is larger than all of them together. -/
theorem reach_le_totalReach {damping : Rat} (damped : 0 ≤ damping)
    (seeds : ∀ entry ∈ sources, 0 ≤ entry.2) (weights : ∀ edge ∈ edges, 0 ≤ edge.weight)
    (hopLimit : Nat) {target : String} (reached : ∃ edge ∈ edges, edge.trustee = target) :
    reach edges sources damping hopLimit target ≤ totalReach edges sources damping hopLimit :=
  Finset.single_le_sum
    (f := fun target => reach edges sources damping hopLimit target)
    (fun other _ => reach_nonneg damped seeds weights hopLimit other)
    (List.mem_toFinset.mpr (List.mem_map.mpr reached))

/-! ## The order of the edges -/

theorem arrives_congr {others : List (TrustEdge Rat)} (permuted : edges.Perm others) (hops : Nat)
    (target : String) : Arrives edges sources hops target ↔ Arrives others sources hops target := by
  induction hops generalizing target with
  | zero => rfl
  | succ hops inductionHypothesis =>
      simp only [Arrives, inductionHypothesis, permuted.mem_iff]

theorem carried_congr {others : List (TrustEdge Rat)} (permuted : edges.Perm others) (hops : Nat)
    (target : String) : carried edges sources hops target = carried others sources hops target := by
  induction hops generalizing target with
  | zero => rfl
  | succ hops inductionHypothesis =>
      rw [carried_succ, carried_succ]
      simp only [inductionHypothesis]
      exact (permuted.map _).sum_eq

theorem reach_congr {others : List (TrustEdge Rat)} (permuted : edges.Perm others)
    (damping : Rat) (hopLimit : Nat) (target : String) :
    reach edges sources damping hopLimit target =
      reach others sources damping hopLimit target := by
  rw [reach_eq, reach_eq]
  simp only [carried_congr permuted]

theorem totalReach_congr {others : List (TrustEdge Rat)} (permuted : edges.Perm others)
    (damping : Rat) (hopLimit : Nat) :
    totalReach edges sources damping hopLimit = totalReach others sources damping hopLimit := by
  unfold totalReach
  rw [List.toFinset_eq_of_perm _ _ (permuted.map _)]
  exact Finset.sum_congr rfl fun target _ => reach_congr permuted damping hopLimit target

end Shares

end ReviewGate.Propagation
