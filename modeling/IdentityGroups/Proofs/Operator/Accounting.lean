import Mathlib
import IdentityGroups.Proofs.Operator.Cleanup
import IdentityGroups.Vault.Client

/-! # What the counters add up to

Handlings follow each other, and whatever Vault and Kubernetes answer, the counters can be told from how the
passes and the cleanups among them came out. What is proved of one handling is proved at once of every number
that is read off the counters and goes up with some of them.
-/

namespace IdentityGroups

namespace Metrics

def Series.label? (s : Series) (name : String) : Option String :=
  (s.family.labelNames.zip s.labels).lookup name

def Registry.sum (takes : Series → Bool) (m : Registry) : Nat :=
  ((m.counts.filter (takes ·.1)).map (·.2)).sum

theorem Registry.sum_increment (takes : Series → Bool) (m : Registry) (s : Series) :
    (m.increment s).sum takes = m.sum takes + if takes s then 1 else 0 := by
  unfold sum increment
  induction m.counts with
  | nil => cases hs : takes s <;> simp [bump, hs]
  | cons e counts ih =>
    obtain ⟨t, n⟩ := e
    by_cases ht : t = s
    · subst ht
      cases hs : takes t <;> simp [bump, hs]
      omega
    · cases hs : takes t
      · simpa [bump, ht, hs] using ih
      · simp only [bump, ht, if_false, List.filter_cons, hs, if_true, List.map_cons, List.sum_cons, ih]
        omega

/-- A number that goes up by one when a series that it takes in is counted. -/
structure Reading where
  read : Registry → Nat
  takes : Series → Bool
  increment : ∀ m s, read (m.increment s) = read m + if takes s then 1 else 0
  observe : ∀ m labels seconds, read (m.observe labels seconds) = read m

namespace Reading

def value (s : Series) : Reading where
  read m := m.value s
  takes s' := s' = s
  increment m s' := by
    rw [Registry.value_increment, eq_comm]
    simp [eq_comm]
  observe _ _ _ := rfl

def total (takes : Series → Bool) : Reading where
  read m := m.sum takes
  takes := takes
  increment m s := m.sum_increment takes s
  observe _ _ _ := rfl

def OffCalls (f : Reading) : Prop := ∀ s : Series, s.family = .vaultRequests → f.takes s = false

end Reading

end Metrics

namespace Operator
open Program Vault Metrics

/-- Vault and Kubernetes, whatever they answer. -/
structure Surroundings (σ : Type) where
  vault : Request → σ → Reply × σ
  patchStatus : (space name : String) → Json → σ → Verdict × σ
  patchObject : (space name : String) → Json → σ → Verdict × σ
  /-- Whether calls to Vault are counted, as they are by a client that sends them over HTTP. -/
  countsCalls : Bool

namespace Surroundings
variable {σ α β : Type} (env : Surroundings σ)

def handle : (e : Effect) → σ × Registry → e.Answer × (σ × Registry)
  | .vault r, (s, m) =>
    let (reply, s) := env.vault r s
    (reply, s, if env.countsCalls then m.increment ⟨.vaultRequests, outcomeLabels r reply⟩ else m)
  | .patchStatus space name patch, (s, m) =>
    let (verdict, s) := env.patchStatus space name patch s
    (verdict, s, m)
  | .patchObject space name operations, (s, m) =>
    let (verdict, s) := env.patchObject space name operations s
    (verdict, s, m)
  | .count family labels, (s, m) => ((), s, m.increment ⟨family, labels⟩)
  | .timed, (s, m) => ((), s, m.observe [kindLabel] 0.0)

def run (h : Handling α) (w : σ × Registry) : Except Error α × (σ × Registry) := h.run.run env.handle w

def ofWorld {V : Type} (answer : Request → V → Reply × V) : Surroundings (Cluster × V) where
  vault r s := ((answer r s.2).1, s.1, (answer r s.2).2)
  patchStatus space name patch s :=
    ((s.1.patchStatus space name patch).1, (s.1.patchStatus space name patch).2, s.2)
  patchObject space name operations s :=
    ((s.1.patchObject space name operations).1, (s.1.patchObject space name operations).2, s.2)
  countsCalls := false

theorem handle_ofWorld {V : Type} (answer : Request → V → Reply × V) (e : Effect) (w : World V) :
    (ofWorld answer).handle e ((w.cluster, w.vault), w.metrics) =
      ((World.handle answer e w).1, ((World.handle answer e w).2.cluster, (World.handle answer e w).2.vault),
        (World.handle answer e w).2.metrics) := by
  cases e <;> rfl

theorem run_ofWorld {V : Type} (answer : Request → V → Reply × V) (h : Handling α) (w : World V) :
    (ofWorld answer).run h ((w.cluster, w.vault), w.metrics) =
      ((w.run answer h).1, ((w.run answer h).2.cluster, (w.run answer h).2.vault),
        (w.run answer h).2.metrics) := by
  unfold run World.run
  induction h.run generalizing w with
  | done a => rfl
  | call e next ih =>
    rw [run_call, run_call, handle_ofWorld]
    exact ih _ _

/-! ## One handling -/

theorem run_bind (x : Handling α) (f : α → Handling β) (w : σ × Registry) :
    env.run (x >>= f) w =
      match env.run x w with
      | (.ok a, w') => env.run (f a) w'
      | (.error e, w') => (.error e, w') := by
  unfold run
  rw [handling_bind, Program.run_bind]
  generalize x.run.run env.handle w = res
  obtain ⟨_ | _, w'⟩ := res <;> rfl

/-- What the surroundings do is no matter of what was counted before. -/
theorem run_frame (h : Handling α) (s : σ) (m m' : Registry) :
    (env.run h (s, m)).1 = (env.run h (s, m')).1 ∧ (env.run h (s, m)).2.1 = (env.run h (s, m')).2.1 := by
  unfold run
  induction h.run generalizing s m m' with
  | done a => exact ⟨rfl, rfl⟩
  | call e next ih => cases e <;> exact ih _ _ _ _

theorem run_throughVault (p : Sync.Exchange α) (w : σ × Registry) :
    (env.run (throughVault p) w).1 = .ok (p.run env.vault w.1).1 ∧
      (env.run (throughVault p) w).2.1 = (p.run env.vault w.1).2 := by
  induction p generalizing w with
  | done a => exact ⟨rfl, rfl⟩
  | call request next ih => exact ih _ (env.handle (.vault request) w).2

theorem run_perform (e : Effect) (w : σ × Registry) :
    env.run (perform e) w = (.ok (env.handle e w).1, (env.handle e w).2) := rfl

theorem run_count_bind (family : Family) (labels : List String) (h : Handling α) (w : σ × Registry) :
    env.run (do count family labels; h) w = env.run h (w.1, w.2.increment ⟨family, labels⟩) := rfl

theorem run_inContext (context : Error → Error) (h : Handling α) (w : σ × Registry) :
    env.run (inContext context h) w = ((env.run h w).1.mapError context, (env.run h w).2) := by
  have hrun : (inContext context h).run = h.run >>= fun res => done (res.mapError context) := by
    change (Except.mapError context <$> h.run) = _
    rw [map_eq_pure_bind]
    rfl
  unfold run
  rw [hrun, Program.run_bind, run_done]

/-! ## Patches -/

def patched? (r : Resource) (patch : Json) (s : σ) : Option σ :=
  if r.anyName = "" then none
  else match env.patchStatus r.namespaceOrDefault r.anyName patch s with
    | (.accepted, s) => some s
    | (.refused, _) => none

variable {r : Resource} {patch : Json} {s s' : σ}

theorem run_patchStatus_of_some (h : env.patched? r patch s = some s') (m : Registry) :
    env.run (Operator.patchStatus r patch) (s, m) = (.ok (), s', m) := by
  unfold patched? at h
  unfold Operator.patchStatus
  split at h
  · cases h
  · rename_i hn
    rw [if_neg hn, run_bind, run_perform]
    generalize hp : env.patchStatus r.namespaceOrDefault r.anyName patch s = res at h
    obtain ⟨_ | _, t⟩ := res
    · cases h
      simp only [handle, hp]
      rfl
    · cases h

theorem run_patchStatus_of_none (h : env.patched? r patch s = none) (m : Registry) :
    ∃ s', env.run (Operator.patchStatus r patch) (s, m) = (.error .kubernetes, s', m) := by
  unfold patched? at h
  unfold Operator.patchStatus
  split at h
  · rename_i hn
    rw [if_pos hn]
    exact ⟨s, rfl⟩
  · rename_i hn
    rw [if_neg hn, run_bind, run_perform]
    generalize hp : env.patchStatus r.namespaceOrDefault r.anyName patch s = res at h
    obtain ⟨_ | _, t⟩ := res
    · cases h
    · refine ⟨t, ?_⟩
      simp only [handle, hp]
      rfl

/-- Whether the patch that ends a handling succeeds or not, nothing is counted. -/
theorem counted_patchStatus_bind {result : Handling α} (hresult : ∀ w, (env.run result w).2 = w)
    (w : σ × Registry) : (env.run (do Operator.patchStatus r patch; result) w).2.2 = w.2 := by
  obtain ⟨s, m⟩ := w
  rw [run_bind]
  cases hp : env.patched? r patch s with
  | none =>
    obtain ⟨s', hrun⟩ := env.run_patchStatus_of_none hp m
    rw [hrun]
  | some s' =>
    rw [env.run_patchStatus_of_some hp m]
    simp only [hresult]

/-! ## What a handling counts -/

variable {f : Reading}

theorem read_vault (hf : f.OffCalls) (request : Request) (w : σ × Registry) :
    f.read (env.handle (.vault request) w).2.2 = f.read w.2 := by
  change f.read (if env.countsCalls then w.2.increment ⟨.vaultRequests, _⟩ else w.2) = f.read w.2
  split
  · rw [f.increment, hf _ rfl]
    rfl
  · rfl

theorem read_throughVault (hf : f.OffCalls) (p : Sync.Exchange α) (w : σ × Registry) :
    f.read (env.run (throughVault p) w).2.2 = f.read w.2 := by
  induction p generalizing w with
  | done a => rfl
  | call request next ih => exact (ih _ (env.handle (.vault request) w).2).trans (env.read_vault hf request w)

/-- The state in which an apply gets to its pass: a pending patch that is due has to succeed before. -/
def announced? (r : Resource) (s : σ) : Option σ :=
  if r.tracked?.isNone ∧ (r.status.bind (·.phase)).isNone then
    env.patched? r (StatusPatch.pending r.generation) s
  else some s

def passed? (r : Resource) (s : σ) : Option (Except Sync.Error Sync.Report) :=
  if r.spec.group.Valid then
    (env.announced? r s).map fun s =>
      (((Sync.pass r.tracked? r.specChanged).run.run { group := r.spec.group }).run env.vault s).1.1
  else none

def actionLabel : Except Sync.Error Sync.Report → String
  | .error _ => "failed"
  | .ok report => report.action.word

def foundGone : Except Sync.Error Sync.Report → Bool
  | .error _ => false
  | .ok report => report.outcome = .gone

/-- The series that are counted for a pass in a namespace that comes to this, if there is one. -/
def passSeries : Option (String × Except Sync.Error Sync.Report) → List Series
  | none => []
  | some (space, res) => ⟨.groupOperations, [actionLabel res, space]⟩ ::
      if foundGone res then [⟨.driftDetected, [space]⟩] else []

def cleanupSeries : Option (Except Error Next) → List Series
  | none | some (.error _) => []
  | some (.ok _) => [⟨.cleanups, [kindLabel]⟩]

variable (resync : Nat) (now : Time.Instant)

theorem read_reportPass (f : Reading) (state : GroupState) (report : Sync.Report) (w : σ × Registry) :
    f.read (env.run (reportPass resync now r state report) w).2.2 = f.read w.2 +
      (if foundGone (.ok report) then [(⟨.driftDetected, [r.namespaceOrDefault]⟩ : Series)] else []).countP
        f.takes := by
  by_cases hg : report.outcome = .gone
  · obtain ⟨action, outcome⟩ := report
    obtain rfl : outcome = .gone := hg
    unfold reportPass
    simp only
    rw [run_count_bind, env.counted_patchStatus_bind (fun _ => rfl), f.increment, ← List.countP_singleton]
    rfl
  · rw [foundGone, decide_eq_false hg, if_neg Bool.false_ne_true, List.countP_nil, Nat.add_zero]
    by_cases hs : report = ⟨.refreshed, .skipped⟩
    · subst hs
      rfl
    · rw [reportPass_ready hg hs, env.counted_patchStatus_bind (fun _ => rfl)]

theorem read_passAndReport (hf : f.OffCalls) (w : σ × Registry) :
    f.read (env.run (passAndReport resync now r) w).2.2 = f.read w.2 +
      (passSeries (some (r.namespaceOrDefault,
        (((Sync.pass r.tracked? r.specChanged).run.run { group := r.spec.group }).run env.vault w.1).1.1))).countP
        f.takes := by
  have hread := env.read_throughVault hf
    ((Sync.pass r.tracked? r.specChanged).run.run { group := r.spec.group }) w
  obtain ⟨hres, -⟩ := env.run_throughVault
    ((Sync.pass r.tracked? r.specChanged).run.run { group := r.spec.group }) w
  rw [passAndReport, run_bind]
  generalize env.run (throughVault ((Sync.pass r.tracked? r.specChanged).run.run { group := r.spec.group })) w =
    passed at hread hres
  obtain ⟨_, w'⟩ := passed
  obtain rfl : _ = _ := hres
  generalize (((Sync.pass r.tracked? r.specChanged).run.run { group := r.spec.group }).run env.vault w.1).1 = out
  obtain ⟨res, state⟩ := out
  simp only at hread ⊢
  rw [← hread]
  cases res with
  | error e =>
    simp only
    rw [run_count_bind, env.counted_patchStatus_bind (fun _ => rfl), f.increment, ← List.countP_singleton]
    rfl
  | ok report =>
    simp only
    rw [run_count_bind, read_reportPass, f.increment, passSeries, List.countP_cons, Nat.add_assoc,
      Nat.add_comm (List.countP _ _)]
    rfl

/-- An apply counts for the pass it gets to, and nothing if it gets to none. -/
theorem read_apply (hf : f.OffCalls) (w : σ × Registry) :
    f.read (env.run (apply resync now r) w).2.2 = f.read w.2 +
      (passSeries ((env.passed? r w.1).map (r.namespaceOrDefault, ·))).countP f.takes := by
  obtain ⟨s, m⟩ := w
  unfold apply passed?
  cases ho : r.spec.group.objection? with
  | some o =>
    have hv : ¬ r.spec.group.Valid := fun hv => by cases ho.symm.trans hv
    rw [if_neg hv]
    simp only
    rw [env.counted_patchStatus_bind (fun _ => rfl)]
    rfl
  | none =>
    have hv : r.spec.group.Valid := ho
    rw [if_pos hv]
    simp only
    rw [applyValid_eq, run_bind]
    unfold announce announced?
    by_cases hdue : r.tracked?.isNone ∧ (r.status.bind (·.phase)).isNone
    · rw [if_pos hdue, if_pos hdue]
      cases hp : env.patched? r (StatusPatch.pending r.generation) s with
      | none =>
        obtain ⟨s', hrun⟩ := env.run_patchStatus_of_none hp m
        rw [hrun]
        rfl
      | some s' =>
        rw [env.run_patchStatus_of_some hp m]
        exact env.read_passAndReport resync now hf (s', m)
    · rw [if_neg hdue, if_neg hdue]
      exact env.read_passAndReport resync now hf (s, m)

theorem run_cleanedUp (w : σ × Registry) :
    cleanedUp.run env.handle w = (.ok .awaitChange, w.1, w.2.increment ⟨.cleanups, [kindLabel]⟩) := rfl

/-- A cleanup is counted just when it succeeds. -/
theorem read_cleanup (hf : f.OffCalls) (w : σ × Registry) : f.read (env.run (cleanup r) w).2.2 =
    f.read w.2 + (cleanupSeries (some (env.run (cleanup r) w).1)).countP f.takes := by
  have hdone (w : σ × Registry) : f.read (cleanedUp.run env.handle w).2.2 =
      f.read w.2 + (cleanupSeries (some (cleanedUp.run env.handle w).1)).countP f.takes := by
    rw [run_cleanedUp, f.increment, ← List.countP_singleton]
    rfl
  unfold run
  cases ht : r.tracked? with
  | none =>
    rw [run_cleanup_untracked ht]
    exact hdone w
  | some t =>
    rw [run_cleanup_tracked ht, run_call, ← env.read_vault hf (.read (Group.idPath t.id)) w]
    generalize env.handle (.vault (.read (Group.idPath t.id))) w = probed
    obtain ⟨_ | response, w⟩ := probed
    · rfl
    · simp only
      split
      · rw [run_call, ← env.read_vault hf (.delete (Group.idPath t.id)) w]
        generalize env.handle (.vault (.delete (Group.idPath t.id))) w = deleted
        obtain ⟨_ | _, w⟩ := deleted
        · rfl
        · exact hdone w
      · exact hdone w

theorem counted_patchFinalizers (name : String) (operations : Json) (error : Error) (next : Next)
    (w : σ × Registry) :
    (env.run (do patchFinalizers r name operations error; return next) w).2.2 = w.2 := by
  rw [run_bind]
  unfold patchFinalizers
  by_cases hn : name = ""
  · rw [if_pos hn]
    rfl
  · rw [if_neg hn, run_bind, run_perform]
    simp only
    generalize (env.handle (.patchObject r.namespaceOrDefault name operations) w).1 = verdict
    cases verdict <;> rfl

end Surroundings

/-! ## Calls -/

inductive Call where
  | reconcile (resync : Nat) (now : Time.Instant) (r : Resource)
  | apply (resync : Nat) (now : Time.Instant) (r : Resource)
  | cleanup (r : Resource)

namespace Call

def handling : Call → Handling Next
  | reconcile resync now r => Operator.reconcile resync now r
  | apply resync now r => Operator.apply resync now r
  | cleanup r => Operator.cleanup r

def isReconcile : Call → Bool
  | reconcile .. => true
  | _ => false

/-- The resource that is applied. A reconcile applies one that has the finalizer and is to stay. -/
def applied? : Call → Option Resource
  | reconcile _ _ r =>
    if finalizerName ∈ r.metadata.finalizers.getD [] ∧ r.isDeleting = false then some r else none
  | apply _ _ r => some r
  | cleanup _ => none

/-- The resource that is cleaned up. A reconcile cleans up one that has a name and the finalizer and is being
deleted. -/
def cleaned? : Call → Option Resource
  | reconcile _ _ r =>
    if finalizerName ∈ r.metadata.finalizers.getD [] ∧ r.isDeleting ∧ r.metadata.name.isSome then some r
    else none
  | apply .. => none
  | cleanup r => some r

end Call

namespace Surroundings
variable {σ : Type} (env : Surroundings σ) {f : Reading}

def pass? (c : Call) (s : σ) : Option (String × Except Sync.Error Sync.Report) :=
  c.applied?.bind fun r => (env.passed? r s).map (r.namespaceOrDefault, ·)

def cleanup? (c : Call) (s : σ) : Option (Except Error Next) :=
  c.cleaned?.map fun r => (env.run (cleanup r) (s, {})).1

def series (c : Call) (s : σ) : List Series :=
  (if c.isReconcile then [⟨.reconciliations, [kindLabel]⟩] else []) ++ passSeries (env.pass? c s) ++
    cleanupSeries (env.cleanup? c s)

theorem read_withFinalizer (hf : f.OffCalls) (resync : Nat) (now : Time.Instant) (r : Resource)
    (w : σ × Registry) : f.read (env.run (withFinalizer resync now r) w).2.2 = f.read w.2 +
      (passSeries (env.pass? (.reconcile resync now r) w.1) ++
        cleanupSeries (env.cleanup? (.reconcile resync now r) w.1)).countP f.takes := by
  unfold withFinalizer
  cases hi : (r.metadata.finalizers.getD []).idxOf? finalizerName with
  | none =>
    have hmem : finalizerName ∉ r.metadata.finalizers.getD [] := List.idxOf?_eq_none_iff.1 hi
    have hpass : env.pass? (.reconcile resync now r) w.1 = none := by simp [pass?, Call.applied?, hmem]
    have hclean : env.cleanup? (.reconcile resync now r) w.1 = none := by
      simp [cleanup?, Call.cleaned?, hmem]
    rw [hpass, hclean]
    simp only [hi]
    cases r.isDeleting with
    | true => rfl
    | false =>
      cases r.metadata.name with
      | none => rfl
      | some name => exact congrArg f.read (env.counted_patchFinalizers _ _ _ _ w)
  | some i =>
    have hmem : finalizerName ∈ r.metadata.finalizers.getD [] := List.isSome_idxOf?.1 (by rw [hi]; rfl)
    cases hd : r.isDeleting with
    | false =>
      have hpass : env.pass? (.reconcile resync now r) w.1 =
          (env.passed? r w.1).map (r.namespaceOrDefault, ·) := by
        simp [pass?, Call.applied?, hmem, hd]
      have hclean : env.cleanup? (.reconcile resync now r) w.1 = none := by
        simp [cleanup?, Call.cleaned?, hd]
      rw [hpass, hclean, cleanupSeries, List.append_nil]
      simp only [hi]
      rw [run_inContext, env.read_apply resync now hf]
    | true =>
      have hpass : env.pass? (.reconcile resync now r) w.1 = none := by simp [pass?, Call.applied?, hd]
      rw [hpass, passSeries, List.nil_append]
      simp only [hi]
      cases hn : r.metadata.name with
      | none =>
        have hclean : env.cleanup? (.reconcile resync now r) w.1 = none := by
          simp [cleanup?, Call.cleaned?, hn]
        rw [hclean]
        rfl
      | some name =>
        have hclean : env.cleanup? (.reconcile resync now r) w.1 = some (env.run (cleanup r) w).1 := by
          rw [(env.run_frame (cleanup r) w.1 w.2 {}).1]
          simp [cleanup?, Call.cleaned?, hmem, hd, hn]
        rw [hclean, ← env.read_cleanup hf w, run_bind, run_inContext]
        generalize env.run (cleanup r) w = cleaned
        obtain ⟨_ | next, w'⟩ := cleaned
        · rfl
        · exact congrArg f.read (env.counted_patchFinalizers name _ _ next w')

theorem read_call (hf : f.OffCalls) (c : Call) (w : σ × Registry) :
    f.read (env.run c.handling w).2.2 = f.read w.2 + (env.series c w.1).countP f.takes := by
  cases c with
  | reconcile resync now r =>
    have hrun := env.read_withFinalizer hf resync now r (w.1, w.2.increment ⟨.reconciliations, [kindLabel]⟩)
    unfold run at hrun ⊢
    rw [Call.handling, run_reconcile, run_call, Program.run_bind, run_call, run_done]
    refine (f.observe _ _ _).trans (hrun.trans ?_)
    rw [f.increment, ← List.countP_singleton]
    simp only [series, Call.isReconcile, if_true, List.append_assoc, List.countP_append]
    omega
  | apply resync now r =>
    refine (env.read_apply resync now hf w).trans ?_
    simp [series, pass?, cleanup?, cleanupSeries, Call.isReconcile, Call.applied?, Call.cleaned?]
  | cleanup r =>
    refine (env.read_cleanup hf w).trans ?_
    rw [(env.run_frame (cleanup r) w.1 w.2 {}).1]
    rfl

/-- The calls that are made in turn, each with the state in which it begins. -/
def course : List Call → σ × Registry → List (Call × σ)
  | [], _ => []
  | c :: calls, w => (c, w.1) :: course calls (env.run c.handling w).2

def after : List Call → σ × Registry → σ × Registry
  | [], w => w
  | c :: calls, w => after calls (env.run c.handling w).2

theorem after_append (calls calls' : List Call) (w : σ × Registry) :
    env.after (calls ++ calls') w = env.after calls' (env.after calls w) := by
  induction calls generalizing w with
  | nil => rfl
  | cons c calls ih => exact ih _

theorem map_fst_course (calls : List Call) (w : σ × Registry) : (env.course calls w).map (·.1) = calls := by
  induction calls generalizing w with
  | nil => rfl
  | cons c calls ih => exact congrArg (c :: ·) (ih _)

def passes (calls : List Call) (w : σ × Registry) : List (String × Except Sync.Error Sync.Report) :=
  (env.course calls w).filterMap fun begun => env.pass? begun.1 begun.2

def cleanups (calls : List Call) (w : σ × Registry) : List (Except Error Next) :=
  (env.course calls w).filterMap fun begun => env.cleanup? begun.1 begun.2

theorem read_after (hf : f.OffCalls) (calls : List Call) (w : σ × Registry) :
    f.read (env.after calls w).2 = f.read w.2 +
      ((env.course calls w).flatMap fun begun => env.series begun.1 begun.2).countP f.takes := by
  induction calls generalizing w with
  | nil => rfl
  | cons c calls ih =>
    rw [after, ih, course, env.read_call hf, List.flatMap_cons, List.countP_append, Nat.add_assoc]

/-- Of each call a reading takes in just what is found of it and fits. -/
theorem read_after_found {β : Type} {found : Call → σ → Option β} {fits : β → Bool} (hf : f.OffCalls)
    (hfits : ∀ c s, (env.series c s).countP f.takes = (found c s).toList.countP fits) (calls : List Call)
    (w : σ × Registry) : f.read (env.after calls w).2 =
      f.read w.2 + ((env.course calls w).filterMap fun begun => found begun.1 begun.2).countP fits := by
  rw [env.read_after hf]
  refine congrArg (f.read w.2 + ·) ?_
  induction env.course calls w with
  | nil => rfl
  | cons begun course ih =>
    obtain ⟨c, s⟩ := begun
    rw [List.flatMap_cons, List.countP_append, ih, hfits]
    cases hc : found c s <;> simp [hc, List.countP_cons, Nat.add_comm]

theorem countP_passSeries (takes : Series → Bool) (space : String) (res : Except Sync.Error Sync.Report) :
    (passSeries (some (space, res))).countP takes =
      (if takes ⟨.groupOperations, [actionLabel res, space]⟩ then 1 else 0) +
        if foundGone res ∧ takes ⟨.driftDetected, [space]⟩ then 1 else 0 := by
  rw [passSeries, List.countP_cons, Nat.add_comm]
  cases foundGone res <;> simp [List.countP_singleton]

theorem countP_series (takes : Series → Bool) (c : Call) (s : σ) : (env.series c s).countP takes =
    (if c.isReconcile ∧ takes ⟨.reconciliations, [kindLabel]⟩ then 1 else 0) +
      (passSeries (env.pass? c s)).countP takes + (cleanupSeries (env.cleanup? c s)).countP takes := by
  unfold series
  rw [List.countP_append, List.countP_append]
  cases c.isReconcile <;> simp [List.countP_singleton]

/-- A reading that takes in some of the passes. -/
theorem read_passes {fits : String × Except Sync.Error Sync.Report → Bool} (hf : f.OffCalls)
    (hzero : f.read {} = 0) (hreconciled : f.takes ⟨.reconciliations, [kindLabel]⟩ = false)
    (hcleaned : f.takes ⟨.cleanups, [kindLabel]⟩ = false)
    (hfits : ∀ space res, (passSeries (some (space, res))).countP f.takes = if fits (space, res) then 1 else 0)
    (calls : List Call) (s : σ) :
    f.read (env.after calls (s, {})).2 = (env.passes calls (s, {})).countP fits := by
  have hcall (c : Call) (s : σ) : (env.series c s).countP f.takes = (env.pass? c s).toList.countP fits := by
    have hcleanup : (cleanupSeries (env.cleanup? c s)).countP f.takes = 0 := by
      obtain _ | _ | _ := env.cleanup? c s <;> simp [cleanupSeries, hcleaned]
    rw [countP_series, hreconciled, hcleanup]
    obtain _ | ⟨space, res⟩ := env.pass? c s
    · simp [passSeries]
    · simp [hfits, List.countP_singleton]
  rw [env.read_after_found hf hcall, hzero, Nat.zero_add]
  rfl

def isOperationIn (space : String) (s : Series) : Bool :=
  s.family = .groupOperations ∧ s.label? "namespace" = some space

theorem isOperationIn_operation (space action space' : String) :
    isOperationIn space ⟨.groupOperations, [action, space']⟩ = decide (space' = space) := by
  have hlabel : Series.label? ⟨.groupOperations, [action, space']⟩ "namespace" = some space' := rfl
  simp [isOperationIn, hlabel]

theorem sum_operations (space : String) (calls : List Call) (s : σ) :
    (env.after calls (s, {})).2.sum (isOperationIn space) =
      (env.passes calls (s, {})).countP fun passed => passed.1 = space := by
  have hf : (Reading.total (isOperationIn space)).OffCalls := by
    intro series h
    simp [Reading.total, isOperationIn, h]
  refine env.read_passes (f := .total (isOperationIn space)) hf rfl rfl rfl (fun space' res => ?_) calls s
  have hdrift : isOperationIn space ⟨.driftDetected, [space']⟩ = false := rfl
  simp [countP_passSeries, Reading.total, hdrift, isOperationIn_operation]

theorem offCalls_value {s : Series} (h : s.family ≠ .vaultRequests) : (Reading.value s).OffCalls := by
  intro s' hs'
  refine decide_eq_false fun he => ?_
  subst he
  exact h hs'

theorem value_operations (action space : String) (calls : List Call) (s : σ) :
    (env.after calls (s, {})).2.value ⟨.groupOperations, [action, space]⟩ =
      (env.passes calls (s, {})).countP fun passed => passed.1 = space ∧ actionLabel passed.2 = action := by
  refine env.read_passes (f := .value ⟨.groupOperations, [action, space]⟩) (offCalls_value (by simp)) rfl rfl rfl
    (fun space' res => ?_) calls s
  simp [countP_passSeries, Reading.value, and_comm]

theorem value_drift (space : String) (calls : List Call) (s : σ) :
    (env.after calls (s, {})).2.value ⟨.driftDetected, [space]⟩ =
      (env.passes calls (s, {})).countP fun passed => passed.1 = space ∧ foundGone passed.2 := by
  refine env.read_passes (f := .value ⟨.driftDetected, [space]⟩) (offCalls_value (by simp)) rfl rfl rfl
    (fun space' res => ?_) calls s
  simp [countP_passSeries, Reading.value, and_comm]

theorem value_cleanups (calls : List Call) (s : σ) :
    (env.after calls (s, {})).2.value ⟨.cleanups, [kindLabel]⟩ =
      (env.cleanups calls (s, {})).countP (·.isOk) := by
  have hcall (c : Call) (s : σ) : (env.series c s).countP (Reading.value ⟨.cleanups, [kindLabel]⟩).takes =
      (env.cleanup? c s).toList.countP (·.isOk) := by
    have hpass : (passSeries (env.pass? c s)).countP (Reading.value ⟨.cleanups, [kindLabel]⟩).takes = 0 := by
      obtain _ | ⟨space, res⟩ := env.pass? c s
      · rfl
      · simp [countP_passSeries, Reading.value]
    rw [countP_series, hpass]
    obtain _ | _ | _ := env.cleanup? c s <;>
      simp [cleanupSeries, Reading.value, Except.isOk, Except.toBool]
  exact (env.read_after_found (offCalls_value (by simp)) hcall calls (s, {})).trans (Nat.zero_add _)

theorem value_reconciliations (calls : List Call) (s : σ) :
    (env.after calls (s, {})).2.value ⟨.reconciliations, [kindLabel]⟩ = calls.countP (·.isReconcile) := by
  have hcall (c : Call) (s : σ) :
      (env.series c s).countP (Reading.value ⟨.reconciliations, [kindLabel]⟩).takes =
        (some c).toList.countP (·.isReconcile) := by
    have hpass :
        (passSeries (env.pass? c s)).countP (Reading.value ⟨.reconciliations, [kindLabel]⟩).takes = 0 := by
      obtain _ | ⟨space, res⟩ := env.pass? c s
      · rfl
      · simp [countP_passSeries, Reading.value]
    have hcleanup :
        (cleanupSeries (env.cleanup? c s)).countP (Reading.value ⟨.reconciliations, [kindLabel]⟩).takes = 0 := by
      obtain _ | _ | _ := env.cleanup? c s <;> rfl
    rw [countP_series, hpass, hcleanup]
    simp [Reading.value, List.countP_singleton]
  refine (env.read_after_found (offCalls_value (by simp)) hcall calls (s, {})).trans ((Nat.zero_add _).trans ?_)
  conv_rhs => rw [← env.map_fst_course calls (s, {}), ← List.filterMap_eq_map]
  rfl

/-! ## Counters only grow -/

theorem value_le_handle (e : Effect) (w : σ × Registry) (series : Series) :
    w.2.value series ≤ (env.handle e w).2.2.value series := by
  have hincrement (s : Series) : w.2.value series ≤ (w.2.increment s).value series := by
    rw [Registry.value_increment]
    exact Nat.le_add_right _ _
  cases e with
  | vault request =>
    change _ ≤ (if env.countsCalls then w.2.increment ⟨.vaultRequests, _⟩ else w.2).value series
    split
    · exact hincrement _
    · exact le_rfl
  | patchStatus space name patch => exact le_rfl
  | patchObject space name operations => exact le_rfl
  | count family labels => exact hincrement _
  | timed => exact le_rfl

theorem value_le_run {α : Type} (h : Handling α) (w : σ × Registry) (series : Series) :
    w.2.value series ≤ (env.run h w).2.2.value series := by
  unfold run
  induction h.run generalizing w with
  | done a => exact le_rfl
  | call e next ih => exact (env.value_le_handle e w series).trans (ih _ _)

theorem value_le_after (calls : List Call) (w : σ × Registry) (series : Series) :
    w.2.value series ≤ (env.after calls w).2.value series := by
  induction calls generalizing w with
  | nil => exact le_rfl
  | cons c calls ih => exact (env.value_le_run c.handling w series).trans (ih _)

/-- No action is counted as a failure. -/
theorem word_ne_failed (action : Sync.Action) : action.word ≠ "failed" := by
  cases action <;> simp [Sync.Action.word]

theorem actionLabel_eq_failed_iff (res : Except Sync.Error Sync.Report) :
    actionLabel res = "failed" ↔ ¬ res.isOk := by
  cases res with
  | error e => exact iff_of_true rfl Bool.false_ne_true
  | ok report => exact iff_of_false (word_ne_failed report.action) (not_not_intro rfl)

theorem actionLabel_eq_word_iff (res : Except Sync.Error Sync.Report) (action : Sync.Action) :
    actionLabel res = action.word ↔ res.toOption.any fun report => report.action.word = action.word := by
  cases res with
  | error e => exact iff_of_false (word_ne_failed action).symm Bool.false_ne_true
  | ok report => exact decide_eq_true_iff.symm

/-- Whatever Vault and Kubernetes answer to handlings that follow each other, the operations in a namespace are the
passes that were made there, those that failed and those of each action apart; a drift is counted for each pass
that found its group gone, a cleanup for each that succeeded, a reconciliation for each reconcile. No effect makes
a counter smaller. -/
theorem counters_add_up (s : σ) (calls more : List Call) :
    let m := (env.after calls (s, {})).2
    let passes := env.passes calls (s, {})
    (∀ space, m.sum (isOperationIn space) = passes.countP (fun passed => passed.1 = space) ∧
      m.value ⟨.groupOperations, ["failed", space]⟩ =
        passes.countP (fun passed => passed.1 = space ∧ ¬ passed.2.isOk) ∧
      (∀ action : Sync.Action, m.value ⟨.groupOperations, [action.word, space]⟩ =
        passes.countP fun passed =>
          passed.1 = space ∧ passed.2.toOption.any fun report => report.action.word = action.word) ∧
      m.value ⟨.driftDetected, [space]⟩ = passes.countP fun passed =>
        passed.1 = space ∧ passed.2.toOption.any fun report => report.outcome = .gone) ∧
    m.value ⟨.cleanups, [kindLabel]⟩ = (env.cleanups calls (s, {})).countP (·.isOk) ∧
    m.value ⟨.reconciliations, [kindLabel]⟩ = calls.countP (·.isReconcile) ∧
    (∀ series, m.value series ≤ (env.after (calls ++ more) (s, {})).2.value series) ∧
    ∀ e w series, w.2.value series ≤ (env.handle e w).2.2.value series := by
  refine ⟨fun space => ⟨env.sum_operations space calls s, ?failed, fun action => ?reported, ?drift⟩,
    env.value_cleanups calls s, env.value_reconciliations calls s, fun series => ?grows, env.value_le_handle⟩
  case failed =>
    rw [value_operations]
    simp only [actionLabel_eq_failed_iff]
  case reported =>
    rw [value_operations]
    simp only [actionLabel_eq_word_iff]
  case drift =>
    rw [value_drift]
    refine List.countP_congr fun passed _ => ?_
    obtain ⟨_, _ | _⟩ := passed <;> rfl
  case grows =>
    rw [after_append]
    exact env.value_le_after more _ series

def refusing : Surroundings Unit where
  vault _ _ := (.error (.transport "timeout"), ())
  patchStatus _ _ _ _ := (.refused, ())
  patchObject _ _ _ _ := (.refused, ())
  countsCalls := true

/-- The failure is counted though it could not be reported, and the cleanup is not. -/
example : (refusing.after [.reconcile 300 .epoch readingOld, .cleanup readingOld] ((), {})).2.counts = [
    (⟨.reconciliations, [kindLabel]⟩, 1), (⟨.vaultRequests, ["get", "failure"]⟩, 2),
    (⟨.groupOperations, ["failed", "default"]⟩, 1)] := by decide

end Surroundings

end Operator

end IdentityGroups
