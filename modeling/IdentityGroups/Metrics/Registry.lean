import IdentityGroups.Metrics.Family

/-! # Measured values

A registry holds the counters, the durations of reconciliations and the health of the operator.
Counters only grow.
-/

namespace IdentityGroups.Metrics

structure Series where
  family : Family
  labels : List String
  deriving DecidableEq, Repr

def bounds : List Float := [0.01, 0.05, 0.1, 0.25, 0.5, 1.0, 2.5, 5.0, 10.0]

structure Histogram where
  counts : List Nat := bounds.map fun _ => 0
  beyond : Nat := 0
  sum : Float := 0.0
  deriving Inhabited

def Histogram.enter (value : Float) : (bounds : List Float) → (counts : List Nat) →
    Option (List Nat)
  | b :: bounds, n :: counts =>
    if value <= b then some ((n + 1) :: counts) else (enter value bounds counts).map (n :: ·)
  | _, _ => none

def Histogram.observe (h : Histogram) (value : Float) : Histogram :=
  match enter value bounds h.counts with
  | some counts => { h with counts, sum := h.sum + value }
  | none => { h with beyond := h.beyond + 1, sum := h.sum + value }

def Histogram.total (h : Histogram) : Nat := h.counts.foldl (· + ·) h.beyond

structure Registry where
  /-- In the order in which the series were first counted. Counts are whole and have no bound; kept as
  floating-point numbers they are the same up to `2 ^ 53`. -/
  counts : List (Series × Nat) := []
  /-- By label values. -/
  durations : List (List String × Histogram) := []
  health : Float := 0.0
  deriving Inhabited

namespace Registry

/-- The value of a series; one that was never counted has none, which counts as zero. -/
def value (r : Registry) (s : Series) : Nat := (r.counts.lookup s).getD 0

def bump (s : Series) : List (Series × Nat) → List (Series × Nat)
  | [] => [(s, 1)]
  | (s', n) :: counts => if s' = s then (s', n + 1) :: counts else (s', n) :: bump s counts

def increment (r : Registry) (s : Series) : Registry := { r with counts := bump s r.counts }

theorem lookup_bump (s s' : Series) (counts : List (Series × Nat)) :
    ((bump s counts).lookup s').getD 0 =
      (counts.lookup s').getD 0 + if s' = s then 1 else 0 := by
  induction counts with
  | nil => by_cases h : s' = s <;> simp [bump, List.lookup_cons, h, beq_eq_false_iff_ne.2]
  | cons e counts ih =>
    obtain ⟨t, n⟩ := e
    by_cases ht : t = s
    · by_cases h : s' = s
      · simp [bump, ht, h]
      · simp [bump, List.lookup_cons, ht, h, beq_eq_false_iff_ne.2 h]
    · by_cases h : s' = t
      · simp [bump, ht, h]
      · simp [bump, List.lookup_cons, ht, beq_eq_false_iff_ne.2 h, ih]

theorem value_increment (r : Registry) (s s' : Series) :
    (r.increment s).value s' = r.value s' + if s' = s then 1 else 0 :=
  lookup_bump s s' r.counts

def enterDuration (labels : List String) (seconds : Float) :
    List (List String × Histogram) → List (List String × Histogram)
  | [] => [(labels, ({} : Histogram).observe seconds)]
  | (labels', h) :: rest =>
    if labels' = labels then (labels', h.observe seconds) :: rest
    else (labels', h) :: enterDuration labels seconds rest

def observe (r : Registry) (labels : List String) (seconds : Float) : Registry :=
  { r with durations := enterDuration labels seconds r.durations }

def observed (r : Registry) (labels : List String) : Nat :=
  ((r.durations.lookup labels).map Histogram.total).getD 0

def setHealth (r : Registry) (health : Float) : Registry := { r with health }

end Registry

end IdentityGroups.Metrics
