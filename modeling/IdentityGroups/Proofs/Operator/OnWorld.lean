import Mathlib
import IdentityGroups.Operator.World
import IdentityGroups.Proofs.Operator.Report
import IdentityGroups.Proofs.Sync.Claims

/-! # Applies in a world that answers

Kubernetes accepts every patch and Vault is a store with no failures laid out. An apply then leaves the
resource as it was but for the status, and the store as the pass leaves it.
-/

namespace IdentityGroups

open Json Json.Decode Entries in
/-- The JSON kept for a resource: its metadata and its spec can be read, and its status is held. -/
structure Resource.Kept (object : Json) (r : Resource) : Prop where
  members : ∃ m, object = .obj m ∧ present? m "metadata" Metadata.decode = .ok (some r.metadata) ∧
    present? m "spec" Spec.decode = .ok (some r.spec) ∧
    Status.Held ((find? "status" m).getD .null) r.status

namespace Resource
open Json Json.Decode Entries
variable {object : Json} {r : Resource}

theorem Kept.decode (h : Kept object r) : Resource.decode object = .ok r := by
  obtain ⟨m, rfl, hm, hs, hst⟩ := h
  have hstatus : optionalMember m "status" Status.decode = .ok r.status := by
    rw [optionalMember_eq]
    cases hf : find? "status" m with
    | none =>
      rw [hf] at hst
      generalize r.status = status at hst
      cases hst
      rfl
    | some j =>
      rw [hf] at hst
      exact hst.decode
  simp only [Resource.decode, hm, hs, hstatus]
  rfl

/-- A patch of the status changes the status and nothing else. -/
theorem Kept.merge {p : List (String × Json)} {s : Status} (h : Kept object r)
    (hs : ∀ j, Status.Held j r.status → Status.Held (Status.merged j (StatusPatch.body p)) (some s)) :
    Kept (object.merge (StatusPatch.body p)) { r with status := some s } := by
  obtain ⟨m, rfl, hm, hspec, hst⟩ := h
  have hb : StatusPatch.body p = .obj [("status", .obj (ofList p))] := rfl
  have hmerge : (Json.obj m).merge (StatusPatch.body p) =
      .obj (insert "status" (merge ((find? "status" m).getD .null) (.obj (ofList p))) m) := by
    rw [hb, Json.merge, mergeMembers_cons (by simp)]
    simp only [mergeMembers, membersOrNone]
  have hother : ∀ {α : Type} (item : Decoder α) (k : String), "status" ≠ k → ∀ v,
      present? (insert "status" v m) k item = present? m k item := by
    intro α item k hk v
    unfold present?
    rw [find?_insert, if_neg hk]
  refine ⟨_, hmerge, ?_, ?_, ?_⟩
  · rw [hother _ _ (by decide)]
    exact hm
  · rw [hother _ _ (by decide)]
    exact hspec
  · have hheld := hs _ hst
    rw [Status.merged_body] at hheld
    rw [find?_insert, if_pos rfl, Option.getD_some, Json.merge]
    exact hheld

end Resource

namespace Operator
open Program Vault
variable {α β V : Type} (answer : Vault.Request → V → Vault.Reply × V) {w : World V} {r : Resource} {s : Store}

/-! ## Effects -/

theorem world_bind (x : Handling α) (f : α → Handling β) (w : World V) :
    w.run answer (x >>= f) =
      match w.run answer x with
      | (.ok a, w') => w'.run answer (f a)
      | (.error e, w') => (.error e, w') := by
  unfold World.run
  rw [handling_bind, run_bind]
  generalize x.run.run (World.handle answer) w = res
  obtain ⟨_ | _, w'⟩ := res <;> rfl

theorem world_count (family : Metrics.Family) (labels : List String) (w : World V) :
    w.run answer (count family labels) =
      (.ok (), { w with metrics := w.metrics.increment ⟨family, labels⟩ }) := rfl

theorem world_throughVault (p : Sync.Exchange α) (w : World V) :
    w.run answer (throughVault p) =
      (.ok (p.run answer w.vault).1, { w with vault := (p.run answer w.vault).2 }) := by
  induction p generalizing w with
  | done a => rfl
  | call request next ih => exact ih _ { w with vault := (answer request w.vault).2 }

theorem cluster_patchStatus {c : Cluster} {patch : Json} {r : Resource} (hc : c.codes = [])
    (hd : Resource.decode (c.object.merge patch) = .ok r) (space name : String) : ∃ log,
      c.patchStatus space name patch = (.accepted, { object := c.object.merge patch, codes := [], log }) := by
  simp only [Cluster.patchStatus, Cluster.answer, Cluster.receive, Cluster.takeCode, hc, hd]
  exact ⟨_, rfl⟩

theorem world_patchStatus {patch : Json} {r r' : Resource} (hn : r.anyName ≠ "") (hc : w.cluster.codes = [])
    (hd : Resource.decode (w.cluster.object.merge patch) = .ok r') : ∃ log,
      w.run answer (patchStatus r patch) =
        (.ok (), { w with cluster := { object := w.cluster.object.merge patch, codes := [], log } }) := by
  obtain ⟨log, ha⟩ := cluster_patchStatus hc hd r.namespaceOrDefault r.anyName
  have hp : w.run answer (perform (.patchStatus r.namespaceOrDefault r.anyName patch)) =
      (.ok Verdict.accepted,
        { w with cluster := { object := w.cluster.object.merge patch, codes := [], log } }) := by
    change (Except.ok (w.cluster.patchStatus r.namespaceOrDefault r.anyName patch).1,
      { w with cluster := (w.cluster.patchStatus r.namespaceOrDefault r.anyName patch).2 }) = _
    rw [ha]
  refine ⟨log, ?_⟩
  unfold patchStatus
  rw [if_neg hn, world_bind, hp]
  rfl

/-! ## Patches -/

/-- Kubernetes keeps the resource and accepts what it is sent. -/
structure Accepting (w : World V) (r : Resource) : Prop where
  kept : Resource.Kept w.cluster.object r
  codes : w.cluster.codes = []

theorem Accepting.counted (h : Accepting w r) (family : Metrics.Family) (labels : List String) :
    Accepting { w with metrics := w.metrics.increment ⟨family, labels⟩ } r := ⟨h.kept, h.codes⟩

/-- A patch of the status that is sent in the name of `r₀` and makes `status` of the one kept. -/
theorem Accepting.patched {r₀ : Resource} {p : List (String × Json)} {status : Status} (h : Accepting w r)
    (hn : r₀.anyName ≠ "")
    (hs : ∀ j, Status.Held j r.status → Status.Held (Status.merged j (StatusPatch.body p)) (some status)) :
    ∃ w', w.run answer (patchStatus r₀ (StatusPatch.body p)) = (.ok (), w') ∧ w'.vault = w.vault ∧
      Accepting w' { r with status := some status } := by
  have hk := h.kept.merge hs
  obtain ⟨log, hrun⟩ := world_patchStatus answer hn h.codes hk.decode
  exact ⟨_, hrun, rfl, hk, rfl⟩

def announced (r : Resource) : Resource :=
  if r.tracked?.isNone ∧ (r.status.bind (·.phase)).isNone then
    { r with status := some ((r.status.getD {}).pending r.generation) }
  else r

theorem announced_eq (hb : r.tracked?.isSome ∨ (r.status.bind (·.phase)).isSome) : announced r = r := by
  unfold announced
  rw [if_neg]
  rintro ⟨h1, h2⟩
  rcases hb with hb | hb
  · simp [Option.isNone_iff_eq_none.1 h1] at hb
  · simp [Option.isNone_iff_eq_none.1 h2] at hb

theorem announced_with (r : Resource) (status : Option Status) :
    { announced r with status := status } = { r with status := status } := by
  unfold announced
  split <;> rfl

/-- An announcement says nothing of the group. -/
theorem metadata_announced (r : Resource) :
    (announced r).status.bind (·.metadata) = r.status.bind (·.metadata) := by
  unfold announced
  split
  · cases r.status <;> rfl
  · rfl

theorem Accepting.announcing (h : Accepting w r) (hn : r.anyName ≠ "") :
    ∃ w', w.run answer (announce r) = (.ok (), w') ∧ w'.vault = w.vault ∧ Accepting w' (announced r) := by
  unfold announce announced
  split
  · exact h.patched answer hn fun j hj => hj.pending r.generation
  · exact ⟨w, rfl, rfl, h⟩

/-! ## Applies -/

def passOn (r : Resource) (s : Store) : (Except Sync.Error Sync.Report × GroupState) × Store :=
  ((Sync.pass r.tracked? r.specChanged).run.run { group := r.spec.group }).run Store.serve s

def concluded (r : Resource) (now : Time.Instant) (state : GroupState) :
    Except Sync.Error Sync.Report → Status
  | .error e => (r.status.getD {}).failed none "VaultError" e.message (some state) now
  | .ok ⟨_, .gone⟩ => (r.status.getD {}).drifted r.generation "Identity group was not found in Vault" now
  | .ok ⟨action, _⟩ => .ready state r.generation (inSyncMessage action) now

def returned (resync : Nat) : Except Sync.Error Sync.Report → Except Error Next
  | .error e => .error (.sync e)
  | .ok ⟨_, .gone⟩ => .ok (.after driftDelay)
  | .ok ⟨.refreshed, .skipped⟩ => .ok (.after skippedDelay)
  | .ok _ => .ok (.after resync)

section
variable (resync : Nat) (now : Time.Instant) (state : GroupState)

theorem concluded_ready {report : Sync.Report} (hg : report.outcome ≠ .gone) :
    concluded r now state (.ok report) = .ready state r.generation (inSyncMessage report.action) now := by
  obtain ⟨action, outcome⟩ := report
  cases outcome with
  | gone => exact absurd rfl hg
  | _ => rfl

theorem returned_ready {report : Sync.Report} (hg : report.outcome ≠ .gone)
    (hs : report ≠ ⟨.refreshed, .skipped⟩) : returned resync (.ok report) = .ok (.after resync) := by
  obtain ⟨action, outcome⟩ := report
  cases outcome with
  | gone => exact absurd rfl hg
  | refreshed => rfl
  | skipped =>
    cases action with
    | refreshed => exact absurd rfl hs
    | _ => rfl

theorem generation_announced (r : Resource) : (announced r).generation = r.generation := by
  unfold announced
  split <;> rfl

theorem Accepting.reporting {report : Sync.Report} (h : Accepting w (announced r))
    (hn : r.anyName ≠ "") : ∃ w', w.run answer (reportPass resync now r state report) =
      (returned resync (.ok report), w') ∧ w'.vault = w.vault ∧ (report ≠ ⟨.refreshed, .skipped⟩ →
        Accepting w' { r with status := some (concluded (announced r) now state (.ok report)) }) := by
  by_cases hg : report.outcome = .gone
  · obtain ⟨action, outcome⟩ := report
    obtain rfl : outcome = .gone := hg
    obtain ⟨w', hrun, hv, ha⟩ := (h.counted .driftDetected [r.namespaceOrDefault]).patched
      answer hn fun j hj => hj.drifted r.generation "Identity group was not found in Vault" now
    refine ⟨w', ?_, hv, fun _ => ?_⟩
    · simp only [reportPass]
      rw [world_bind, world_count]
      simp only
      rw [world_bind]
      unfold StatusPatch.drifted
      rw [hrun]
      rfl
    · rw [announced_with] at ha
      rwa [concluded, generation_announced]
  · by_cases hs : report = ⟨.refreshed, .skipped⟩
    · subst hs
      exact ⟨w, rfl, rfl, fun hne => absurd rfl hne⟩
    · obtain ⟨w', hrun, hv, ha⟩ := h.patched answer hn fun j hj =>
        hj.ready state r.status r.generation (inSyncMessage report.action) now (metadata_announced r)
      refine ⟨w', ?_, hv, fun _ => ?_⟩
      · rw [reportPass_ready hg hs, returned_ready resync hg hs, world_bind]
        unfold StatusPatch.ready
        rw [hrun]
        rfl
      · rw [announced_with] at ha
        rwa [concluded_ready now state hg, generation_announced]

def reportOn (resync : Nat) (now : Time.Instant) (r : Resource) (state : GroupState) :
    Except Sync.Error Sync.Report → Handling Next
  | .error e => do
    count .groupOperations ["failed", r.namespaceOrDefault]
    patchStatus r (StatusPatch.failed none "VaultError" e.message (some state) now)
    throw (.sync e)
  | .ok report => do
    count .groupOperations [report.action.word, r.namespaceOrDefault]
    reportPass resync now r state report

/-- An apply leaves what its pass leaves of Vault and reports what the pass came to. -/
theorem Accepting.applied {res : Except Sync.Error Sync.Report} {v : V} (h : Accepting w r)
    (hn : r.anyName ≠ "") (hv : r.spec.group.Valid)
    (hpass : ((Sync.pass r.tracked? r.specChanged).run.run { group := r.spec.group }).run answer w.vault =
      ((res, state), v)) : ∃ w', w.runOn answer (apply resync now) = (.ok (returned resync res), w') ∧
        w'.vault = v ∧ (res ≠ .ok ⟨.refreshed, .skipped⟩ →
          Accepting w' { r with status := some (concluded (announced r) now state res) }) := by
  obtain ⟨w₁, hrun₁, hv₁, h₁⟩ := h.announcing answer hn
  have hpassed : Accepting { w₁ with vault := v } (announced r) := ⟨h₁.kept, h₁.codes⟩
  have happly : w.run answer (apply resync now r) =
      { w₁ with vault := v }.run answer (reportOn resync now r state res) := by
    unfold apply
    rw [hv]
    simp only
    rw [applyValid_eq, world_bind, hrun₁]
    simp only
    rw [passAndReport, world_bind, world_throughVault, hv₁, hpass]
    cases res <;> rfl
  unfold World.runOn
  rw [h.kept.decode]
  simp only
  rw [happly]
  cases res with
  | error e =>
    obtain ⟨w', hrun, hv', ha⟩ := (hpassed.counted .groupOperations ["failed", r.namespaceOrDefault]).patched
      answer hn fun j hj => hj.failed none "VaultError" e.message (some state) now
    refine ⟨w', ?_, hv', fun _ => ?_⟩
    · rw [reportOn, world_bind, world_count]
      simp only
      rw [world_bind]
      unfold StatusPatch.failed
      rw [hrun]
      rfl
    · rw [announced_with] at ha
      exact ha
  | ok report =>
    obtain ⟨w', hrun, hv', ha⟩ :=
      (hpassed.counted .groupOperations [report.action.word, r.namespaceOrDefault]).reporting
        answer resync now state hn
    refine ⟨w', ?_, hv', fun hs => ha fun he => hs (congrArg Except.ok he)⟩
    rw [reportOn, world_bind, world_count]
    simp only
    rw [hrun]

end

/-- Kubernetes keeps the resource and accepts what it is sent; but for its log the store is `s`. -/
structure Holds (w : World Store) (r : Resource) (s : Store) : Prop extends Accepting w r where
  store : Store.Quiet w.vault s

/-- What an apply returns, and the world it leaves. -/
theorem Holds.runOn_apply {w : World Store} {res : Except Sync.Error Sync.Report} {state : GroupState}
    {s' : Store} (h : Holds w r s) (resync : Nat) (now : Time.Instant) (hn : r.anyName ≠ "")
    (hv : r.spec.group.Valid) (hpass : passOn r s = ((res, state), s')) :
    (w.runOn Store.answer (apply resync now)).1 = .ok (returned resync res) ∧
      (res ≠ .ok ⟨.refreshed, .skipped⟩ → Holds (w.runOn Store.answer (apply resync now)).2
        { r with status := some (concluded (announced r) now state res) } s') := by
  obtain ⟨ht, rfl⟩ := h.store
  obtain ⟨hres, hquiet⟩ := Store.run_answer
    ((Sync.pass r.tracked? r.specChanged).run.run { group := r.spec.group }) ht
  unfold passOn at hpass
  rw [hpass] at hres hquiet
  have hanswered : ((Sync.pass r.tracked? r.specChanged).run.run { group := r.spec.group }).run Store.answer
      w.vault = ((res, state), (((Sync.pass r.tracked? r.specChanged).run.run { group := r.spec.group }).run
        Store.answer w.vault).2) := Prod.ext hres rfl
  obtain ⟨w', hrun, hvault, ha⟩ := h.toAccepting.applied Store.answer resync now state hn hv hanswered
  rw [hrun]
  exact ⟨rfl, fun hs => ⟨ha hs, hvault ▸ hquiet⟩⟩

/-- An apply of a resource that needs no announcement leaves the store that the pass leaves, and reports
what it came to. -/
theorem Holds.applied {w : World Store} {resync : Nat} {now : Time.Instant}
    {res : Except Sync.Error Sync.Report} {state : GroupState} {s' : Store} (h : Holds w r s)
    (hn : r.anyName ≠ "") (hv : r.spec.group.Valid)
    (hb : r.tracked?.isSome ∨ (r.status.bind (·.phase)).isSome) (hpass : passOn r s = ((res, state), s'))
    (hs : res ≠ .ok ⟨.refreshed, .skipped⟩) : Holds (w.runOn Store.answer (apply resync now)).2
      { r with status := some (concluded r now state res) } s' := by
  have hafter := (h.runOn_apply resync now hn hv hpass).2 hs
  rwa [announced_eq hb] at hafter

end Operator

end IdentityGroups
