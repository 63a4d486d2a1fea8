import Mathlib
import IdentityGroups.Operator.Reconcile
import IdentityGroups.Proofs.Operator.Report

/-! # The delay after a reconcile that failed

An error asks for a delay of its own: a minute when a call to Vault failed, five when what is asked for is
invalid, half a minute otherwise. A reconcile puts every error of an apply or a cleanup into the context of
the finalizer, and an error in that context asks for half a minute whatever its cause.
-/

namespace IdentityGroups.Operator
open Program
variable {α : Type} {resync : Nat} {now : Time.Instant} {r : Resource} {tr : List Turn} {e : Error}

namespace Error

def isInvalid : Error → Bool
  | .config _ | .validation _ | .sync .untracked => true
  | _ => false

def cause? : Error → Option Error
  | .applyFailed cause | .cleanupFailed cause => some cause
  | _ => none

theorem requeueAfter_eq (e : Error) :
    e.requeueAfter = if e.isInvalid then invalidDelay else if e.isRemote then remoteDelay else 30 := by
  cases e with
  | sync e => cases e <;> rfl
  | _ => rfl

theorem requeueAfter_eq_thirty_iff (e : Error) :
    e.requeueAfter = 30 ↔ e.isInvalid = false ∧ e.isRemote = false := by
  rw [requeueAfter_eq]
  cases e.isInvalid <;> cases e.isRemote <;> decide

theorem requeueAfter_of_cause? {cause : Error} (h : e.cause? = some cause) : e.requeueAfter = 30 := by
  cases e with
  | applyFailed cause' => rfl
  | cleanupFailed cause' => rfl
  | _ => cases h

end Error

/-! ## How a reconcile fails -/

/-- With the turns between its two counts being `tr`, a reconcile fails with the error. -/
inductive Fails (resync : Nat) (now : Time.Instant) (r : Resource) (tr : List Turn) : Error → Prop
  | applied {cause : Error} (hf : finalizerName ∈ r.metadata.finalizers.getD []) (hd : r.isDeleting = false)
      (h : (apply resync now r).run.Yields tr (.error cause)) : Fails resync now r tr (.applyFailed cause)
  | cleanedUp {cause : Error} (hf : finalizerName ∈ r.metadata.finalizers.getD []) (hd : r.isDeleting)
      (h : (cleanup r).run.Yields tr (.error cause)) : Fails resync now r tr (.cleanupFailed cause)
  /-- The resource or its finalizers are at fault. -/
  | unpatched {e : Error} (he : e ∈ [Error.unnamedObject, .addFinalizer, .removeFinalizer]) :
      Fails resync now r tr e

theorem yields_bind_error {β : Type} {x : Handling α} {f : α → Handling β}
    (h : (x >>= f).run.Yields tr (.error e)) :
    x.run.Yields tr (.error e) ∨
      ∃ tr₁ a tr₂, x.run.Yields tr₁ (.ok a) ∧ (f a).run.Yields tr₂ (.error e) ∧ tr = tr₁ ++ tr₂ := by
  rw [handling_bind] at h
  obtain ⟨tr₁, res, tr₂, hx, hf, rfl⟩ := yields_bind_iff.1 h
  cases res with
  | error e' =>
    obtain ⟨rfl, he⟩ := yields_done_iff.1 hf
    cases he
    rw [List.append_nil]
    exact .inl hx
  | ok a => exact .inr ⟨tr₁, a, tr₂, hx, hf, rfl⟩

theorem yields_inContext_iff {context : Error → Error} {x : Handling α} {res : Except Error α} :
    (inContext context x).run.Yields tr res ↔ ∃ res', x.run.Yields tr res' ∧ res = res'.mapError context := by
  have hrun : (inContext context x).run = x.run >>= fun res => done (res.mapError context) := by
    change (Except.mapError context <$> x.run) = _
    rw [map_eq_pure_bind]
    rfl
  rw [hrun, yields_bind_iff]
  constructor
  · rintro ⟨tr₁, res', tr₂, hx, hdone, rfl⟩
    obtain ⟨rfl, rfl⟩ := yields_done_iff.1 hdone
    exact ⟨res', by rwa [List.append_nil], rfl⟩
  · rintro ⟨res', hx, rfl⟩
    exact ⟨tr, res', [], hx, .start _, (List.append_nil tr).symm⟩

theorem yields_inContext {context : Error → Error} {x : Handling α}
    (h : (inContext context x).run.Yields tr (.error e)) :
    ∃ cause, x.run.Yields tr (.error cause) ∧ e = context cause := by
  obtain ⟨res, hx, he⟩ := yields_inContext_iff.1 h
  cases res with
  | error cause =>
    cases he
    exact ⟨cause, hx, rfl⟩
  | ok a => cases he

theorem yields_patchFinalizers {name : String} {operations : Json} {error : Error} {next : Next}
    (h : (do patchFinalizers r name operations error; return next : Handling Next).run.Yields tr (.error e)) :
    e = error := by
  rcases yields_bind_error h with hp | ⟨tr₁, _, tr₂, _, hnext, _⟩
  · unfold patchFinalizers at hp
    by_cases hn : name = ""
    · rw [if_pos hn] at hp
      cases (yields_done_iff.1 hp).2
      rfl
    · rw [if_neg hn] at hp
      obtain ⟨verdict, tr', rfl, hv⟩ := yields_call_iff.1 hp
      cases verdict with
      | accepted => cases (yields_done_iff.1 hv).2
      | refused =>
        cases (yields_done_iff.1 hv).2
        rfl
  · cases (yields_done_iff.1 hnext).2

theorem fails_of_yields (h : (withFinalizer resync now r).run.Yields tr (.error e)) :
    Fails resync now r tr e := by
  unfold withFinalizer at h
  cases hi : (r.metadata.finalizers.getD []).idxOf? finalizerName with
  | none =>
    cases hd : r.isDeleting with
    | true =>
      simp only [hi, hd] at h
      cases (yields_done_iff.1 h).2
    | false =>
      simp only [hi, hd] at h
      cases hn : r.metadata.name with
      | none =>
        simp only [hn] at h
        cases (yields_done_iff.1 h).2
        exact .unpatched (by simp)
      | some name =>
        simp only [hn] at h
        rw [yields_patchFinalizers h]
        exact .unpatched (by simp)
  | some i =>
    have hf : finalizerName ∈ r.metadata.finalizers.getD [] := List.isSome_idxOf?.1 (by rw [hi]; rfl)
    cases hd : r.isDeleting with
    | false =>
      simp only [hi, hd] at h
      obtain ⟨cause, hc, rfl⟩ := yields_inContext h
      exact .applied hf hd hc
    | true =>
      simp only [hi, hd] at h
      cases hn : r.metadata.name with
      | none =>
        simp only [hn] at h
        cases (yields_done_iff.1 h).2
        exact .unpatched (by simp)
      | some name =>
        simp only [hn] at h
        rcases yields_bind_error h with hx | ⟨tr₁, next, tr₂, _, hp, _⟩
        · obtain ⟨cause, hc, rfl⟩ := yields_inContext hx
          exact .cleanedUp hf hd hc
        · rw [yields_patchFinalizers hp]
          exact .unpatched (by simp)

theorem run_reconcile (resync : Nat) (now : Time.Instant) (r : Resource) : (reconcile resync now r).run =
    call (.count .reconciliations [kindLabel]) fun _ => (withFinalizer resync now r).run >>= fun result =>
      call .timed fun _ => done result := rfl

theorem reconcile_yields {result : Except Error Next} (h : (reconcile resync now r).run.Yields tr result) :
    ∃ tr', tr = ⟨.count .reconciliations [kindLabel], ()⟩ :: tr' ++ [⟨.timed, ()⟩] ∧
      (withFinalizer resync now r).run.Yields tr' result := by
  rw [run_reconcile] at h
  obtain ⟨_, _, rfl, hrest⟩ := yields_call_iff.1 h
  obtain ⟨tr', res, _, hw, htimed, rfl⟩ := yields_bind_iff.1 hrest
  obtain ⟨_, _, rfl, hdone⟩ := yields_call_iff.1 htimed
  obtain ⟨rfl, rfl⟩ := yields_done_iff.1 hdone
  exact ⟨tr', rfl, hw⟩

theorem Fails.delay (h : Fails resync now r tr e) : e.requeueAfter = 30 := by
  cases h with
  | applied hf hd h => rfl
  | cleanedUp hf hd h => rfl
  | unpatched he =>
    simp only [List.mem_cons, List.not_mem_nil, or_false] at he
    rcases he with rfl | rfl | rfl <;> rfl

/-- In the context of the finalizer an error keeps its delay only if neither Vault nor what was asked for is at
fault, and a reconcile that fails, whoever answers it, is retried after half a minute. -/
theorem failed_reconcile_delay (e : Error) :
    (∀ cause, e.cause? = some cause →
      (e.requeueAfter = cause.requeueAfter ↔ cause.isInvalid = false ∧ cause.isRemote = false)) ∧
    ∀ resync now r tr, (reconcile resync now r).run.Yields tr (.error e) → e.requeueAfter = 30 ∧
      ∃ tr', tr = ⟨.count .reconciliations [kindLabel], ()⟩ :: tr' ++ [⟨.timed, ()⟩] ∧
        Fails resync now r tr' e := by
  constructor
  · intro cause h
    rw [Error.requeueAfter_of_cause? h, eq_comm]
    exact Error.requeueAfter_eq_thirty_iff cause
  · intro resync now r tr h
    obtain ⟨tr', htr, hw⟩ := reconcile_yields h
    have hf := fails_of_yields hw
    exact ⟨hf.delay, tr', htr, hf⟩

/-! Vault cannot be reached when a tracked group is read. -/

def readingOld : Resource where
  metadata := { name := some "r", finalizers := some [finalizerName] }
  spec := { name := "g" }
  status := some { id := some "old", name := some "g", kind := some .internal }

def unreachable : Error := .sync (.read .read "old" (.transport "timeout"))

def vaultUnreachable : List Turn := [
  ⟨.count .reconciliations [kindLabel], ()⟩,
  ⟨.vault (.read (Group.idPath "old")), .error (.transport "timeout")⟩,
  ⟨.count .groupOperations ["failed", "default"], ()⟩,
  ⟨.patchStatus "default" "r" (StatusPatch.failed none "VaultError"
    "Error reading identity group 'old' (read): Vault request failed: timeout"
    (some ⟨some "old", { name := "g" }⟩) .epoch), .accepted⟩,
  ⟨.timed, ()⟩]

theorem vaultUnreachable_yields :
    (reconcile 300 .epoch readingOld).run.Yields vaultUnreachable (.error (.applyFailed unreachable)) := by
  have hv : readingOld.spec.group.objection? = none := by decide
  have ha : apply 300 .epoch readingOld = applyValid 300 .epoch readingOld := by
    unfold apply
    rw [hv]
  have hw : withFinalizer 300 .epoch readingOld =
      inContext .applyFailed (applyValid 300 .epoch readingOld) := by
    rw [← ha]
    rfl
  unfold reconcile
  rw [hw]
  exact .turn (.turn (.turn (.turn (.turn (.start _)))))

theorem failed_reconcile_delay_unreachable :
    (reconcile 300 .epoch readingOld).run.Yields vaultUnreachable (.error (.applyFailed unreachable)) ∧
      (Error.applyFailed unreachable).requeueAfter = 30 ∧
      (Error.applyFailed unreachable).requeueAfter ≠ unreachable.requeueAfter := by
  obtain ⟨hcause, hrun⟩ := failed_reconcile_delay (.applyFailed unreachable)
  refine ⟨vaultUnreachable_yields, (hrun 300 .epoch readingOld _ vaultUnreachable_yields).1, fun he => ?_⟩
  have hremote := ((hcause unreachable rfl).1 he).2
  cases hremote

/-- The retry after a failed call to Vault does not wait for the minute that the failure asks for. -/
theorem delay_not_of_cause :
    ∃ tr cause, (reconcile 300 .epoch readingOld).run.Yields tr (.error (.applyFailed cause)) ∧
      cause.isRemote ∧ cause.requeueAfter = 60 ∧ (Error.applyFailed cause).requeueAfter = 30 :=
  ⟨vaultUnreachable, unreachable, vaultUnreachable_yields, rfl, rfl, rfl⟩

end IdentityGroups.Operator
