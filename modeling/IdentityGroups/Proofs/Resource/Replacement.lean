import Mathlib
import IdentityGroups.Proofs.Resource.RoundTrip

/-! # A report that a group is in line replaces the report of before

A merge patch leaves what it does not name, so a report is replaced only by a patch that names all of it: every
field, and among the metadata every key that is no longer there.
-/

namespace IdentityGroups
open Json Json.Decode Entries

namespace Status

structure Matches (s : Status) (state : GroupState) (generation : Option Int64) : Prop where
  id : s.id = state.id
  name : s.name = some state.group.name
  kind : s.kind = some state.group.kind
  metadata : s.metadata = state.group.metadata
  memberGroupIds : s.memberGroupIds = state.group.memberGroupIds
  memberEntityIds : s.memberEntityIds = state.group.memberEntityIds
  observedGeneration : s.observedGeneration = generation

theorem ready_matches (state : GroupState) (generation : Option Int64) (message : String) (now : Time.Instant) :
    (ready state generation message now).Matches state generation := by
  constructor <;> rfl

theorem tracked?_of_matches {s : Status} {state : GroupState} {generation : Option Int64} {id : String}
    (h : s.Matches state generation) (hid : state.id = some id) (hne : id ≠ "") :
    s.tracked? = some ⟨id, some state.group.name, some state.group.kind⟩ := by
  have hs : s.id = some id := h.id.trans hid
  rw [tracked?, hs, h.name, h.kind]
  simp [hne]

/-- A ready patch made for a status and merged over it leaves what the patch alone says. -/
theorem decode_merged_ready (state : GroupState) (previous : Option Status) (generation : Option Int64)
    (message : String) (now : Time.Instant) :
    Status.decode (merged (.ofOption encode previous)
      (StatusPatch.ready state previous generation message now)) =
        .ok (ready state generation message now) := by
  have hheld := (held_encode previous).ready state previous generation message now rfl
  generalize merged _ _ = j at hheld
  cases hheld with
  | present _ reads => exact decode_obj_iff.2 reads

/-- Whatever was reported before, the group at hand is what is reported and tracked after a ready patch, with
one condition: that the resource is ready. -/
theorem ready_replaces (state : GroupState) (generation : Option Int64) (message : String) (now : Time.Instant)
    {id : String} (hid : state.id = some id) (hne : id ≠ "") :
    ∃ s : Status,
      (∀ previous : Option Status, Status.decode (merged (.ofOption encode previous)
        (StatusPatch.ready state previous generation message now)) = .ok s) ∧
      s.Matches state generation ∧
      (∃ c, s.conditions = [c] ∧ c.type = "Ready" ∧ c.status = "True") ∧
      s.tracked? = some ⟨id, some state.group.name, some state.group.kind⟩ := by
  have hmatches := ready_matches state generation message now
  exact ⟨ready state generation message now,
    fun previous => decode_merged_ready state previous generation message now, hmatches,
    ⟨.ready "True" "Synced" message now, rfl, rfl, rfl⟩, tracked?_of_matches hmatches hid hne⟩

def labelled : Status where
  id := some "g0"
  metadata := some (.ofList [("owner", "edge"), ("tier", "gold")])
  memberGroupIds := some ["h1"]

def relabelled : GroupState where
  id := some "g1"
  group := { name := "ops", metadata := some (.ofList [("owner", "core")]) }

/-- The label and the members are gone from the report. -/
theorem labelled_replaced : ∃ s : Status,
    Status.decode (merged (.ofOption encode (some labelled))
      (StatusPatch.ready relabelled (some labelled) (some 2) "in sync" .epoch)) = .ok s ∧
    s.metadata = some (.ofList [("owner", "core")]) ∧ s.memberGroupIds = none ∧
    s.tracked? = some ⟨"g1", some "ops", some .internal⟩ := by
  obtain ⟨s, hdecode, hmatches, -, htracked⟩ :=
    ready_replaces relabelled (some 2) "in sync" .epoch (show relabelled.id = some "g1" from rfl) (by decide)
  exact ⟨s, hdecode (some labelled), hmatches.metadata, hmatches.memberGroupIds, htracked⟩

end Status

end IdentityGroups
