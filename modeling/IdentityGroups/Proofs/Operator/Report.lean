import Mathlib
import IdentityGroups.Operator.Apply
import IdentityGroups.Proofs.Sync.Course
import IdentityGroups.Proofs.Resource.Report

/-! # What an apply reports

Whoever answers, each patch of the status that an apply sends is fixed by the turns with Vault before it,
and after the patch that ends it there is nothing more.
-/

namespace IdentityGroups.Operator
open Program

abbrev Turn := Program.Turn Effect.Answer

def exchanged (tr : List Turn) : List Sync.Turn :=
  tr.filterMap fun
    | ⟨.vault r, reply⟩ => some ⟨r, reply⟩
    | _ => none

def reported (tr : List Turn) : List Json :=
  tr.filterMap fun
    | ⟨.patchStatus _ _ patch, .accepted⟩ => some patch
    | _ => none

def statusAfter (j : Json) (tr : List Turn) : Json := (reported tr).foldl Status.merged j

theorem exchanged_append (tr tr' : List Turn) : exchanged (tr ++ tr') = exchanged tr ++ exchanged tr' :=
  List.filterMap_append

theorem reported_append (tr tr' : List Turn) : reported (tr ++ tr') = reported tr ++ reported tr' :=
  List.filterMap_append

@[simp] theorem exchanged_snoc_vault (tr : List Turn) (r : Vault.Request) (reply : Vault.Reply) :
    exchanged (tr ++ [⟨.vault r, reply⟩]) = exchanged tr ++ [⟨r, reply⟩] := exchanged_append tr _

@[simp] theorem exchanged_snoc_patch (tr : List Turn) (space name : String) (patch : Json) (v : Verdict) :
    exchanged (tr ++ [⟨.patchStatus space name patch, v⟩]) = exchanged tr := by
  simp [exchanged]

@[simp] theorem exchanged_snoc_count (tr : List Turn) (family : Metrics.Family) (labels : List String) :
    exchanged (tr ++ [⟨.count family labels, ()⟩]) = exchanged tr := by
  simp [exchanged]

@[simp] theorem reported_snoc_vault (tr : List Turn) (r : Vault.Request) (reply : Vault.Reply) :
    reported (tr ++ [⟨.vault r, reply⟩]) = reported tr := by
  simp [reported]

@[simp] theorem reported_snoc_accepted (tr : List Turn) (space name : String) (patch : Json) :
    reported (tr ++ [⟨.patchStatus space name patch, .accepted⟩]) = reported tr ++ [patch] :=
  reported_append tr _

@[simp] theorem reported_snoc_refused (tr : List Turn) (space name : String) (patch : Json) :
    reported (tr ++ [⟨.patchStatus space name patch, .refused⟩]) = reported tr := by
  simp [reported]

@[simp] theorem reported_snoc_count (tr : List Turn) (family : Metrics.Family) (labels : List String) :
    reported (tr ++ [⟨.count family labels, ()⟩]) = reported tr := by
  simp [reported]

theorem statusAfter_append (j : Json) (tr tr' : List Turn) :
    statusAfter j (tr ++ tr') = statusAfter (statusAfter j tr) tr' := by
  rw [statusAfter, reported_append, List.foldl_append]
  rfl

theorem statusAfter_snoc_accepted (j : Json) (tr : List Turn) (space name : String) (patch : Json) :
    statusAfter j (tr ++ [⟨.patchStatus space name patch, .accepted⟩]) =
      Status.merged (statusAfter j tr) patch := by
  simp [statusAfter]

/-! ## The courses of an apply -/

def announce (r : Resource) : Handling Unit :=
  if r.tracked?.isNone ∧ (r.status.bind (·.phase)).isNone then
    patchStatus r (StatusPatch.pending r.generation)
  else pure ()

def passAndReport (resync : Nat) (now : Time.Instant) (r : Resource) : Handling Next := do
  let (result, state) ← throughVault
    ((Sync.pass r.tracked? r.specChanged).run.run { group := r.spec.group })
  match result with
  | .error e =>
    count .groupOperations ["failed", r.namespaceOrDefault]
    patchStatus r (StatusPatch.failed none "VaultError" e.message (some state) now)
    throw (.sync e)
  | .ok report =>
    count .groupOperations [report.action.word, r.namespaceOrDefault]
    reportPass resync now r state report

theorem applyValid_eq (resync : Nat) (now : Time.Instant) (r : Resource) :
    applyValid resync now r = announce r >>= fun _ => passAndReport resync now r := by
  unfold applyValid announce
  split <;> rfl

variable (resync : Nat) (now : Time.Instant) (r : Resource)

def Announces (patch : Json) : Prop :=
  r.spec.group.Valid ∧ r.tracked? = none ∧ r.status.bind (·.phase) = none ∧
    patch = StatusPatch.pending r.generation

def Begun (tr : List Turn) : Prop :=
  reported tr = [] ∨ ∃ patch, Announces r patch ∧ reported tr = [patch]

/-- After the turns `tr` the pass over a valid resource has come to `res`, leaving `s`. -/
structure Passed (tr : List Turn) (res : Except Sync.Error Sync.Report) (s : GroupState) : Prop where
  valid : r.spec.group.Valid
  begun : Begun r tr
  passing : Sync.Passing r.spec.group r.tracked? r.specChanged (exchanged tr) res s

/-- The last patch of an apply, sent after the turns `tr`, and what the apply comes to if it is
accepted. -/
inductive Reports (tr : List Turn) : Json → Except Error Next → Prop
  | invalid {o : Group.Objection} (ho : r.spec.group.objection? = some o) (htr : tr = []) :
      Reports tr (StatusPatch.failed r.generation "ValidationFailed" ("Validation error: " ++ o.message)
        none now) (.ok (.after Error.invalidDelay))
  | failed {e : Sync.Error} {s : GroupState} (h : Passed r tr (.error e) s) :
      Reports tr (StatusPatch.failed none "VaultError" e.message (some s) now) (.error (.sync e))
  | drifted {action : Sync.Action} {s : GroupState} (h : Passed r tr (.ok ⟨action, .gone⟩) s) :
      Reports tr (StatusPatch.drifted r.generation "Identity group was not found in Vault" now)
        (.ok (.after driftDelay))
  | ready {report : Sync.Report} {s : GroupState} (h : Passed r tr (.ok report) s)
      (hg : report.outcome ≠ .gone) (hs : report ≠ ⟨.refreshed, .skipped⟩) :
      Reports tr (StatusPatch.ready s r.status r.generation (inSyncMessage report.action) now)
        (.ok (.after resync))

inductive Ends : List Turn → Except Error Next → Prop
  | accepted {tr : List Turn} {space name : String} {patch : Json} {result : Except Error Next}
      (h : Reports resync now r tr patch result) :
      Ends (tr ++ [⟨.patchStatus space name patch, .accepted⟩]) result
  | refused {tr : List Turn} {space name : String} {patch : Json} {result : Except Error Next}
      (h : Reports resync now r tr patch result) :
      Ends (tr ++ [⟨.patchStatus space name patch, .refused⟩]) (.error .kubernetes)
  /-- A resource without a name cannot be patched. -/
  | unnamed {tr : List Turn} (h : Begun r tr) (hn : r.anyName = "") : Ends tr (.error .kubernetes)
  | unannounced {space name : String} {patch : Json} (h : Announces r patch) :
      Ends [⟨.patchStatus space name patch, .refused⟩] (.error .kubernetes)
  | skipped {tr : List Turn} {s : GroupState} (h : Passed r tr (.ok ⟨.refreshed, .skipped⟩) s) :
      Ends tr (.ok (.after skippedDelay))

/-- What an effect may be after the turns `tr`: a patch is the announcement or the last one. -/
def Orderly (tr : List Turn) (e : Effect) : Prop :=
  ∀ space name patch, e = .patchStatus space name patch →
    (tr = [] ∧ Announces r patch) ∨ ∃ result, Reports resync now r tr patch result

/-! ## Every apply is orderly -/

section
variable {α β : Type} {P : List Turn → Effect → Prop} {tr : List Turn}

theorem handling_bind (x : Handling α) (f : α → Handling β) :
    (x >>= f).run = x.run >>= fun res => match res with
      | .ok a => (f a).run
      | .error e => done (.error e) := by
  refine congrArg (x.run >>= ·) (funext fun res => ?_)
  cases res <;> rfl

theorem meets_bind {Q : List Turn → Except Error α → Prop} {R : List Turn → Except Error β → Prop}
    {x : Handling α} {f : α → Handling β} (hx : x.run.Meets P Q tr)
    (he : ∀ tr e, Q tr (.error e) → R tr (.error e))
    (hf : ∀ tr a, Q tr (.ok a) → (f a).run.Meets P R tr) : (x >>= f).run.Meets P R tr := by
  rw [handling_bind]
  refine Meets.bind hx fun tr res hq => ?_
  cases res with
  | error e => exact he tr e hq
  | ok a => exact hf tr a hq

theorem meets_count {Q : List Turn → Except Error Unit → Prop} (family : Metrics.Family)
    (labels : List String) (hp : P tr (.count family labels))
    (hq : Q (tr ++ [⟨.count family labels, ()⟩]) (.ok ())) : (count family labels).run.Meets P Q tr :=
  ⟨hp, fun _ => hq⟩

theorem meets_patchStatus {Q : List Turn → Except Error Unit → Prop} {r : Resource} {patch : Json}
    (hn : r.anyName = "" → Q tr (.error .kubernetes))
    (hp : P tr (.patchStatus r.namespaceOrDefault r.anyName patch))
    (ha : Q (tr ++ [⟨.patchStatus r.namespaceOrDefault r.anyName patch, .accepted⟩]) (.ok ()))
    (hr : Q (tr ++ [⟨.patchStatus r.namespaceOrDefault r.anyName patch, .refused⟩])
      (.error .kubernetes)) : (patchStatus r patch).run.Meets P Q tr := by
  unfold patchStatus
  by_cases h : r.anyName = ""
  · rw [if_pos h]
    exact hn h
  · rw [if_neg h]
    refine ⟨hp, fun v => ?_⟩
    cases v with
    | accepted => exact ha
    | refused => exact hr

theorem meets_throughVault (p : Sync.Exchange α) (hp : ∀ tr request, P tr (.vault request)) :
    (throughVault p).run.Meets P (fun tr' res => ∃ tv a, res = .ok a ∧ p.Yields tv a ∧
      exchanged tr' = exchanged tr ++ tv ∧ reported tr' = reported tr) tr := by
  induction p generalizing tr with
  | done a => exact ⟨[], a, rfl, .start _, by simp, rfl⟩
  | call request next ih =>
    refine ⟨hp tr request, fun reply => Meets.imp (ih reply) ?_⟩
    rintro tr' res ⟨tv, a, rfl, hy, hx, hr⟩
    refine ⟨⟨request, reply⟩ :: tv, a, rfl, .turn hy, ?_, ?_⟩
    · rw [hx, exchanged_snoc_vault]
      simp
    · rw [hr, reported_snoc_vault]

end

theorem orderly_vault (tr : List Turn) (request : Vault.Request) :
    Orderly resync now r tr (.vault request) := by
  intro _ _ _ h
  cases h

theorem orderly_count (tr : List Turn) (family : Metrics.Family) (labels : List String) :
    Orderly resync now r tr (.count family labels) := by
  intro _ _ _ h
  cases h

variable {resync now r}

theorem Reports.begun {tr : List Turn} {patch : Json} {result : Except Error Next}
    (h : Reports resync now r tr patch result) : Begun r tr := by
  cases h with
  | invalid _ htr => exact .inl (htr ▸ rfl)
  | failed h => exact h.begun
  | drifted h => exact h.begun
  | ready h => exact h.begun

theorem Reports.orderly {tr : List Turn} {patch : Json} {result : Except Error Next}
    (h : Reports resync now r tr patch result) (space name : String) :
    Orderly resync now r tr (.patchStatus space name patch) := by
  intro _ _ _ he
  cases he
  exact .inr ⟨_, h⟩

/-- A patch that ends an apply, and the result that follows it. -/
theorem meets_report {tr : List Turn} {patch : Json} {result : Except Error Next} {rest : Handling Next}
    (h : Reports resync now r tr patch result) (hrest : rest.run = done result) :
    (do patchStatus r patch; rest : Handling Next).run.Meets (Orderly resync now r) (Ends resync now r)
      tr := by
  refine meets_bind (Q := fun tr' res => (res = .ok () ∧ Ends resync now r tr' result) ∨
    (res = .error .kubernetes ∧ Ends resync now r tr' (.error .kubernetes))) ?_ ?_ ?_
  · refine meets_patchStatus (fun hn => ?_) (h.orderly _ _) ?_ ?_
    · exact .inr ⟨rfl, .unnamed h.begun hn⟩
    · exact .inl ⟨rfl, .accepted h⟩
    · exact .inr ⟨rfl, .refused h⟩
  · rintro tr e (⟨h, _⟩ | ⟨h, he⟩)
    · cases h
    · cases h
      exact he
  · rintro tr _ (⟨_, he⟩ | ⟨h, _⟩)
    · rw [hrest]
      exact he
    · cases h

theorem Passed.snoc_count {tr : List Turn} {res : Except Sync.Error Sync.Report} {s : GroupState}
    (h : Passed r tr res s) (family : Metrics.Family) (labels : List String) :
    Passed r (tr ++ [⟨.count family labels, ()⟩]) res s where
  valid := h.valid
  begun := by simpa [Begun] using h.begun
  passing := by simpa using h.passing

/-- A group that is not gone is reported as ready, unless a read was skipped. -/
theorem reportPass_ready {report : Sync.Report} (hg : report.outcome ≠ .gone)
    (hs : report ≠ ⟨.refreshed, .skipped⟩) (s : GroupState) : reportPass resync now r s report = do
      patchStatus r (StatusPatch.ready s r.status r.generation (inSyncMessage report.action) now)
      return .after resync := by
  obtain ⟨action, outcome⟩ := report
  cases outcome with
  | gone => exact absurd rfl hg
  | refreshed => rfl
  | skipped =>
    cases action with
    | refreshed => exact absurd rfl hs
    | _ => rfl

theorem reportPass_orderly {tr : List Turn} {report : Sync.Report} {s : GroupState}
    (h : Passed r tr (.ok report) s) :
    (reportPass resync now r s report).run.Meets (Orderly resync now r) (Ends resync now r) tr := by
  by_cases hg : report.outcome = .gone
  · obtain ⟨action, outcome⟩ := report
    obtain rfl : outcome = .gone := hg
    refine meets_bind (meets_count (Q := fun tr' res => res = .ok () ∧
      Passed r tr' (.ok ⟨action, .gone⟩) s) _ _ (orderly_count resync now r _ _ _)
        ⟨rfl, h.snoc_count _ _⟩) ?_ ?_
    · rintro _ _ ⟨h, _⟩
      cases h
    · rintro tr' _ ⟨_, h⟩
      exact meets_report (.drifted h) rfl
  · by_cases hs : report = ⟨.refreshed, .skipped⟩
    · subst hs
      exact .skipped h
    · rw [reportPass_ready hg hs]
      exact meets_report (.ready h hg hs) rfl

theorem announce_orderly (hv : r.spec.group.Valid) :
    (announce r).run.Meets (Orderly resync now r)
      (fun tr res => (res = .ok () ∧ Begun r tr ∧ exchanged tr = []) ∨
        (res = .error .kubernetes ∧ Ends resync now r tr (.error .kubernetes))) [] := by
  unfold announce
  split
  · rename_i hnew
    have ha : Announces r (StatusPatch.pending r.generation) := by
      simp only [Option.isNone_iff_eq_none] at hnew
      exact ⟨hv, hnew.1, hnew.2, rfl⟩
    refine meets_patchStatus (fun hn => ?_) ?_ ?_ ?_
    · exact .inr ⟨rfl, .unnamed (.inl rfl) hn⟩
    · intro _ _ _ he
      cases he
      exact .inl ⟨rfl, ha⟩
    · exact .inl ⟨rfl, .inr ⟨_, ha, rfl⟩, rfl⟩
    · exact .inr ⟨rfl, .unannounced ha⟩
  · exact .inl ⟨rfl, .inl rfl, rfl⟩

theorem applyValid_orderly (hv : r.spec.group.Valid) :
    (applyValid resync now r).run.Meets (Orderly resync now r) (Ends resync now r) [] := by
  rw [applyValid_eq]
  refine meets_bind (announce_orderly hv) ?_ ?_
  · rintro tr e (⟨h, _⟩ | ⟨h, he⟩)
    · cases h
    · cases h
      exact he
  · rintro tr _ (⟨_, hb, hx⟩ | ⟨h, _⟩)
    case inr => cases h
    refine meets_bind (meets_throughVault _ (orderly_vault resync now r)) ?_ ?_
    · rintro tr' e ⟨_, _, h, _⟩
      cases h
    · rintro tr' _ ⟨tv, ⟨res, s⟩, h, hy, hx', hr⟩
      cases h
      have hpassed : Passed r tr' res s := by
        refine ⟨hv, ?_, ?_⟩
        · rw [Begun, hr]
          exact hb
        · rw [hx', hx, List.nil_append]
          exact Sync.passing_of_yields hy
      cases res with
      | error e =>
        refine meets_bind (meets_count (Q := fun tr' res => res = .ok () ∧ Passed r tr' (.error e) s) _ _
          (orderly_count resync now r _ _ _) ⟨rfl, hpassed.snoc_count _ _⟩) ?_ ?_
        · rintro _ _ ⟨h, _⟩
          cases h
        · rintro tr' _ ⟨_, h⟩
          exact meets_report (.failed h) rfl
      | ok report =>
        refine meets_bind (meets_count (Q := fun tr' res => res = .ok () ∧ Passed r tr' (.ok report) s) _ _
          (orderly_count resync now r _ _ _) ⟨rfl, hpassed.snoc_count _ _⟩) ?_ ?_
        · rintro _ _ ⟨h, _⟩
          cases h
        · rintro tr' _ ⟨_, h⟩
          exact reportPass_orderly h

/-- Every effect of an apply has its place and every end its reason. -/
theorem apply_orderly : (apply resync now r).run.Meets (Orderly resync now r) (Ends resync now r) [] := by
  unfold apply
  cases ho : r.spec.group.objection? with
  | some o => exact meets_report (.invalid ho rfl) rfl
  | none => exact applyValid_orderly ho

theorem ends_of_yields {tr : List Turn} {result : Except Error Next}
    (h : (apply resync now r).run.Yields tr result) : Ends resync now r tr result :=
  apply_orderly.of_reaches h

theorem report_of_reaches {tr : List Turn} {space name : String} {patch : Json}
    {next : Verdict → Program Effect.Answer (Except Error Next)}
    (h : (apply resync now r).run.Reaches tr (call (.patchStatus space name patch) next)) :
    (tr = [] ∧ Announces r patch) ∨ ∃ result, Reports resync now r tr patch result :=
  (apply_orderly.of_reaches h).1 space name patch rfl

/-- Before the last patch the status is that of before, announced perhaps. -/
theorem Begun.held {j : Json} {tr : List Turn} (hb : Begun r tr) (hj : Status.Held j r.status) :
    ∃ s, Status.Held (statusAfter j tr) s ∧ s.bind (·.id) = r.status.bind (·.id) ∧
      s.bind (·.metadata) = r.status.bind (·.metadata) := by
  rcases hb with hb | ⟨patch, ha, hb⟩
  · exact ⟨r.status, by rwa [statusAfter, hb], rfl, rfl⟩
  · obtain ⟨_, _, _, rfl⟩ := ha
    refine ⟨_, by rw [statusAfter, hb]; exact hj.pending r.generation, ?_, ?_⟩
    · cases r.status <;> rfl
    · cases r.status <;> rfl

end IdentityGroups.Operator
