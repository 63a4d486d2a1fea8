import Mathlib
import IdentityGroups.Proofs.Operator.Report
import IdentityGroups.Proofs.Resource.RoundTrip
import IdentityGroups.Proofs.Sync.Learning

/-! # What an apply does to the tracked id

Four patches treat the id differently: the announcement and a failure without an id leave it alone, a
drift nulls it, a failure that knows an id and a report of a group in line set it. Together with the id
that each course of a pass ends with, this decides what is tracked after an apply against anyone.
-/

namespace IdentityGroups
open Operator Program

def Status.trackedId (s : Option Status) : Option String := (s.bind Status.tracked?).map (·.id)

namespace Status

theorem trackedId_eq (s : Option Status) : trackedId s = Sync.filled? (s.bind (·.id)) := by
  cases s with
  | none => rfl
  | some s =>
    simp only [trackedId, Option.bind_some, tracked?, Option.map_map, Sync.filled?]
    cases s.id.filter (· ≠ "") <;> rfl

theorem trackedId_of_id {s : Option Status} {id : String} (h : s.bind (·.id) = some id) (hne : id ≠ "") :
    trackedId s = some id := by
  rw [trackedId_eq, Sync.filled?_eq_some_iff]
  exact ⟨h, hne⟩

theorem getD_id (s : Option Status) : (s.getD {}).id = s.bind (·.id) := by
  cases s <;> rfl

/-- A failure that knows no id leaves the one of before. -/
theorem failed_id (s : Status) (generation : Option Int64) (reason message : String)
    (state : Option GroupState) (now : Time.Instant) :
    (s.failed generation reason message state now).id = (state.bind (·.id)).or s.id := by
  rcases state with _ | ⟨_ | id, group⟩ <;> rfl

end Status

namespace Operator
variable {resync : Nat} {now : Time.Instant} {r : Resource} {j : Json} {tr : List Turn}

/-- How the id `t` that was tracked before an apply of `r` relates to the id `t'` tracked after it, when
the turns with Vault were `tv` and the apply came to `result`. -/
structure Traces (r : Resource) (tv : List Sync.Turn) (result : Except Error Next) (t t' : Option String) :
    Prop where
  /-- The id is the one of before, or one that Vault gave in this apply, or given up. -/
  origin : t' = t ∨ (∃ id, t' = some id ∧ Sync.Learnt tv id) ∨ t' = none
  /-- It is given up only when a read by id came back without a payload. -/
  vanished : t' = none → t ≠ none → Sync.Vanished tv
  /-- An invalid specification does not change it. -/
  invalid : ¬ r.spec.group.Valid → t' = t
  /-- A request that failed, of whatever kind, does not lose it. -/
  faulted : Sync.Faulted tv → t ≠ none → t' ≠ none
  /-- A patch that failed does not change it. -/
  unreported : result = .error .kubernetes → t' = t
  /-- An id that was learnt before the pass failed is tracked once the failure is reported. -/
  learnt : ∀ e id, result = .error (.sync e) → Sync.Learnt tv id → t' = some id

variable {tv : List Sync.Turn}

theorem Traces.same {result : Except Error Next} {t : Option String}
    (hl : ∀ e id, result = .error (.sync e) → ¬ Sync.Learnt tv id) : Traces r tv result t t where
  origin := .inl rfl
  vanished h hn := absurd h hn
  invalid _ := rfl
  faulted _ hn := hn
  unreported _ := rfl
  learnt e id hres h := absurd h (hl e id hres)

section
variable {result : Except Error Next} {s' : Option Status}

theorem Traces.taught {t : Option String} {id : String} (hv : r.spec.group.Valid)
    (hres : result ≠ .error .kubernetes) (hs : s'.bind (·.id) = some id)
    (hl : ∀ i, Sync.Learnt tv i ↔ i = id) : Traces r tv result t (Status.trackedId s') := by
  have hid : Sync.Learnt tv id := (hl id).2 rfl
  have hne : id ≠ "" := by
    obtain ⟨_, _, _, _, _, _, hne⟩ := hid
    exact hne
  rw [Status.trackedId_of_id hs hne]
  exact
    { origin := .inr (.inl ⟨id, rfl, hid⟩)
      vanished := fun h => by cases h
      invalid := fun h => absurd hv h
      faulted := fun _ _ h => by cases h
      unreported := fun h => absurd h hres
      learnt := fun _ i _ h => by rw [(hl i).1 h] }

theorem Traces.kept {t : Tracked} (ht : r.tracked? = some t) (hs : s'.bind (·.id) = some t.id)
    (hl : ∀ i, ¬ Sync.Learnt tv i) :
    Traces r tv result (Status.trackedId r.status) (Status.trackedId s') := by
  obtain ⟨hid, hne⟩ := Status.id_of_tracked? ht
  rw [Status.trackedId_of_id hs hne, Status.trackedId_of_id hid hne]
  exact .same fun _ i _ => hl i

theorem Traces.gone {t : Option String} {n : Next} (hv : r.spec.group.Valid) (hs : s'.bind (·.id) = none)
    (hvan : Sync.Vanished tv) (hf : ¬ Sync.Faulted tv) :
    Traces r tv (.ok n) t (Status.trackedId s') := by
  rw [Status.trackedId_eq, hs]
  exact
    { origin := .inr (.inr rfl)
      vanished := fun _ _ => hvan
      invalid := fun h => absurd hv h
      faulted := fun h => absurd h hf
      unreported := fun h => by cases h
      learnt := fun _ _ h => by cases h }

end

/-- What is tracked once the last patch is accepted. -/
theorem Reports.traces {patch : Json} {result : Except Error Next}
    (h : Reports resync now r tr patch result) (hj : Status.Held j r.status) :
    ∃ s', Status.Held (Status.merged (statusAfter j tr) patch) s' ∧
      Traces r (exchanged tr) result (Status.trackedId r.status) (Status.trackedId s') := by
  obtain ⟨s, hs, hid, hmeta⟩ := h.begun.held hj
  have hsame : ∀ s' : Status, s'.id = (s.getD {}).id →
      Status.trackedId (some s') = Status.trackedId r.status := by
    intro s' h
    rw [Status.trackedId_eq, Status.trackedId_eq, Option.bind_some, h, Status.getD_id, hid]
  cases h with
  | invalid ho htr =>
    refine ⟨_, hs.failed _ _ _ none now, ?_⟩
    rw [hsame _ (Status.failed_id _ _ _ _ _ _)]
    exact .same fun _ _ h => by cases h
  | @failed e state hp =>
    refine ⟨_, hs.failed _ _ _ (some state) now, ?_⟩
    have hfid := Status.failed_id (s.getD {}) none "VaultError" e.message (some state) now
    cases hp.passing.fate with
    | unknown _ hnone hl =>
      rw [Option.bind_some, hnone] at hfid
      rw [hsame _ hfid]
      exact .same fun _ i _ => hl i
    | learnt hl hset =>
      rw [Option.bind_some, hset.id_eq (by rintro ⟨_, h⟩; cases h)] at hfid
      exact .taught hp.valid (by simp) hfid hl
    | kept ht hl hset =>
      rw [Option.bind_some, hset.id_eq (by rintro ⟨_, h⟩; cases h)] at hfid
      exact .kept ht hfid hl
  | @drifted action state hp =>
    refine ⟨_, hs.drifted _ _ now, ?_⟩
    obtain ⟨hvan, hf⟩ : Sync.Vanished (exchanged tr) ∧ ¬ Sync.Faulted (exchanged tr) := by
      cases hp.passing.fate with
      | unknown hres => obtain ⟨_, h⟩ := hres; cases h
      | learnt _ hset =>
        rcases hset with ⟨_, hn⟩ | ⟨_, _, h⟩
        · exact absurd ⟨action, rfl⟩ hn
        · exact h
      | kept _ _ hset =>
        rcases hset with ⟨_, hn⟩ | ⟨_, _, h⟩
        · exact absurd ⟨action, rfl⟩ hn
        · exact h
    exact .gone hp.valid rfl hvan hf
  | @ready report state hp hg hskip =>
    refine ⟨_, hs.ready state r.status _ _ now hmeta, ?_⟩
    have hgone : ¬ ∃ action, Except.ok (ε := Sync.Error) report = .ok ⟨action, .gone⟩ := by
      rintro ⟨_, h⟩
      cases h
      exact hg rfl
    cases hp.passing.fate with
    | unknown hres => obtain ⟨_, h⟩ := hres; cases h
    | learnt hl hset => exact .taught hp.valid (by simp) (hset.id_eq hgone) hl
    | kept ht hl hset => exact .kept ht (hset.id_eq hgone) hl

theorem Begun.traces {result : Except Error Next} (hb : Begun r tr) (hj : Status.Held j r.status)
    (hl : ∀ e id, result = .error (.sync e) → ¬ Sync.Learnt (exchanged tr) id) :
    ∃ s', Status.Held (statusAfter j tr) s' ∧
      Traces r (exchanged tr) result (Status.trackedId r.status) (Status.trackedId s') := by
  obtain ⟨s, hs, hid, _⟩ := hb.held hj
  refine ⟨s, hs, ?_⟩
  rw [show Status.trackedId s = Status.trackedId r.status by
    rw [Status.trackedId_eq, Status.trackedId_eq, hid]]
  exact .same hl

/-- Whoever answers an apply and whichever of its patches are accepted, the tracked id is not lost. The
JSON `j` is any under which the status may be kept, `Status.held_encode` gives one. -/
theorem tracking_kept {result : Except Error Next} (hj : Status.Held j r.status)
    (h : (apply resync now r).run.Yields tr result) :
    ∃ s', Status.Held (statusAfter j tr) s' ∧
      Traces r (exchanged tr) result (Status.trackedId r.status) (Status.trackedId s') := by
  cases ends_of_yields h with
  | accepted hr =>
    rw [statusAfter_snoc_accepted, exchanged_snoc_patch]
    exact hr.traces hj
  | refused hr =>
    rw [statusAfter, reported_snoc_refused, exchanged_snoc_patch]
    exact hr.begun.traces hj fun _ _ h => by cases h
  | unnamed hb hn => exact hb.traces hj fun _ _ h => by cases h
  | unannounced ha => exact Begun.traces (.inl rfl) hj fun _ _ h => by cases h
  | skipped hp => exact hp.begun.traces hj fun _ _ h => by cases h

/-! A group tracked as `old` is read and is gone. -/

def trackingOld : Resource where
  metadata := { name := some "r" }
  spec := { name := "g" }
  status := some { id := some "old", name := some "g", kind := some .internal }

def oldVanishes : List Turn := [
  ⟨.vault (.read (Group.idPath "old")), .ok none⟩, ⟨.count .groupOperations ["refreshed", "default"], ()⟩,
  ⟨.count .driftDetected ["default"], ()⟩,
  ⟨.patchStatus "default" "r" (StatusPatch.drifted none "Identity group was not found in Vault" .epoch),
    .accepted⟩]

theorem oldVanishes_yields :
    (apply 300 .epoch trackingOld).run.Yields oldVanishes (.ok (.after driftDelay)) := by
  have hv : trackingOld.spec.group.objection? = none := by decide
  have ha : apply 300 .epoch trackingOld = applyValid 300 .epoch trackingOld := by
    unfold apply
    rw [hv]
  rw [ha]
  exact .turn (.turn (.turn (.turn (.start _))))

theorem tracking_kept_old :
    (apply 300 .epoch trackingOld).run.Yields oldVanishes (.ok (.after driftDelay)) ∧
      ∃ s', Status.Held (statusAfter (.ofOption Status.encode trackingOld.status) oldVanishes) s' ∧
        Traces trackingOld (exchanged oldVanishes) (.ok (.after driftDelay)) (some "old")
          (Status.trackedId s') :=
  ⟨oldVanishes_yields, tracking_kept (Status.held_encode _) oldVanishes_yields⟩

end Operator

end IdentityGroups
