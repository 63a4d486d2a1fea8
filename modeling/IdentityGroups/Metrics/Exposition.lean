import IdentityGroups.Decimal.Shortest
import IdentityGroups.Metrics.Registry

/-! # The text in which measured values are exposed

Families stand in order of their names, each with a help line, a type line and its series in order
of their label values; a family without series is left out.
-/

namespace IdentityGroups.Metrics

def domain : String := "vault_identity_operator_"

def escapeChar (c : Char) : List Char :=
  if c = '\\' then ['\\', '\\']
  else if c = '\n' then ['\\', 'n']
  else if c = '"' then ['\\', '"']
  else [c]

def escapeLabel (s : String) : String := String.ofList (s.toList.flatMap escapeChar)

def floatText (x : Float) : String :=
  match Decimal.Binary64.ofFloat? x with
  | some b => b.positional
  | none => if x.isNaN then "NaN" else if x < 0 then "-inf" else "inf"

def labelText (labels : List (String × String)) : String :=
  if labels = [] then ""
  else
    let pairs := labels.map fun (k, v) => k ++ "=\"" ++ escapeLabel v ++ "\""
    "\x7b" ++ ",".intercalate pairs ++ "\x7d"

def Series.text (s : Series) : String :=
  s.family.shortName ++ labelText (s.family.labelNames.zip s.labels)

def labelsLe : List String → List String → Bool
  | [], _ => true
  | _ :: _, [] => false
  | a :: as, b :: bs => a < b || (a = b && labelsLe as bs)

def headLines (name help type : String) : String :=
  s!"# HELP {domain}{name} {help}\n# TYPE {domain}{name} {type}\n"

namespace Registry

def seriesOf (r : Registry) (f : Family) : List (Series × Nat) :=
  (r.counts.filter fun e => e.1.family = f).mergeSort fun a b => labelsLe a.1.labels b.1.labels

def familyText (r : Registry) (f : Family) : String :=
  match r.seriesOf f with
  | [] => ""
  | series => headLines f.shortName f.help "counter" ++
      String.join (series.map fun (s, n) => domain ++ s.text ++ s!" {n}\n")

def durationName : String := "reconcile_duration_seconds"

/-- The lines of one histogram: running totals by bucket, sum and count. -/
def histogramText (labels : List String) (h : Histogram) : String :=
  let kind : List (String × String) := ["kind"].zip labels
  let bucket (le : String) (n : Nat) : String :=
    domain ++ durationName ++ "_bucket" ++ labelText (kind ++ [("le", le)]) ++ s!" {n}\n"
  let totals := (h.counts.foldl (fun (acc : Nat × List Nat) n => (acc.1 + n, acc.2 ++ [acc.1 + n]))
    (0, [])).2
  String.join ((bounds.zip totals).map fun (b, n) => bucket (floatText b) n) ++
    bucket "+Inf" h.total ++
    domain ++ durationName ++ "_sum" ++ labelText kind ++ s!" {floatText h.sum}\n" ++
    domain ++ durationName ++ "_count" ++ labelText kind ++ s!" {h.total}\n"

def durationText (r : Registry) : String :=
  match r.durations.mergeSort fun a b => labelsLe a.1 b.1 with
  | [] => ""
  | durations => headLines durationName "Duration of reconciliations in seconds" "histogram" ++
      String.join (durations.map fun (labels, h) => histogramText labels h)

def healthText (r : Registry) : String :=
  headLines "health" "Operator health status (1 = healthy, 0 = unhealthy)" "gauge" ++
    s!"{domain}health {floatText r.health}\n"

def expose (r : Registry) : String :=
  r.familyText .cleanups ++ r.familyText .driftDetected ++ r.familyText .groupOperations ++
    r.healthText ++ r.durationText ++ r.familyText .reconciliationErrors ++
    r.familyText .reconciliations ++ r.familyText .vaultRequests

end Registry

end IdentityGroups.Metrics
