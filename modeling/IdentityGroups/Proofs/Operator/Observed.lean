import Mathlib
import IdentityGroups.Proofs.Operator.Ready
import IdentityGroups.Proofs.Sync.Showing

/-! # What a report of readiness was read from

The last thing that an apply asks of Vault before it reports readiness is the group whose id it reports. The
attributes that it reports are those that it then was shown, just when its credential had not expired meanwhile.
An apply whose credential had expired reports readiness only after it was granted a write, and then it reports
the attributes that are desired.
-/

namespace IdentityGroups

namespace StatusPatch
open Entries

def given? (k : String) (patch : Json) : Option Json := (patch.member? "status").bind (·.member? k)

theorem given?_body {members : List (String × Json)} (hd : Distinct members) (k : String) :
    given? k (body members) = find? k members :=
  find?_ofList k hd

/-- A patch gives metadata, and may null keys that they do not have. -/
inductive GivesMetadata : Option (Dict String) → Json → Prop
  | none : GivesMetadata none .null
  | some {d : Dict String} {m : List (String × Json)}
      (h : ∀ k, (find? k m).filter (· ≠ .null) = (d.find? k).map Json.str) : GivesMetadata (some d) (.obj m)

structure Gives (patch : Json) (g : Group) : Prop where
  name : given? "name" patch = some (.str g.name)
  kind : given? "type" patch = some (.str g.kind.word)
  metadata : ∃ j, given? "metadata" patch = some j ∧ GivesMetadata g.metadata j
  memberGroupIds : given? "memberGroupIds" patch = some (.ofOption .ofTexts g.memberGroupIds)
  memberEntityIds : given? "memberEntityIds" patch = some (.ofOption .ofTexts g.memberEntityIds)

theorem givesMetadata (observed previous : Option (Dict String)) :
    GivesMetadata observed (metadata observed previous) := by
  cases observed with
  | none => exact .none
  | some d =>
    refine .some fun k => ?_
    change Option.filter _ (Dict.find? (List.foldl _ (d.map Json.str) (previous.getD .empty).keys) k) = _
    rw [Status.find?_foldl_insertIfNew, Dict.find?_map]
    cases d.find? k with
    | some t => rfl
    | none => split <;> rfl

theorem ready_gives (state : GroupState) (previous : Option Status) (generation : Option Int64)
    (message : String) (now : Time.Instant) :
    Gives (ready state previous generation message now) state.group := by
  have hgiven := fun k => @given?_body [
    ("id", .ofOption .str state.id), ("phase", .str "Ready"), ("message", .str message),
    ("name", .str state.group.name), ("type", .str state.group.kind.word),
    ("metadata", metadata state.group.metadata (previous.bind (·.metadata))),
    ("memberGroupIds", .ofOption .ofTexts state.group.memberGroupIds),
    ("memberEntityIds", .ofOption .ofTexts state.group.memberEntityIds),
    ("lastSyncTime", .str now.render), ("observedGeneration", .ofOption .ofInt64 generation),
    ("conditions", .arr [condition "True" "Synced" message now])] (by simp [Distinct]) k
  exact
    { name := hgiven "name"
      kind := hgiven "type"
      metadata := ⟨_, hgiven "metadata", givesMetadata _ _⟩
      memberGroupIds := hgiven "memberGroupIds"
      memberEntityIds := hgiven "memberEntityIds" }

end StatusPatch

namespace Operator
open Program Vault Sync
variable {r : Resource} {resync : Nat} {now : Time.Instant} {tr : List Turn} {patch : Json}

/-- Whoever answers, a report of readiness gives what a read of the group under the id that is reported showed,
a name or a kind that it lacks being the desired one, just when this read was not refused for an expired
credential. When it was, the apply had been granted a write, no read of the group was granted, and the report
gives the desired attributes. -/
theorem ready_reports_read_iff {space name : String}
    {next : Verdict → Program Effect.Answer (Except Error Next)}
    (h : (apply resync now r).run.Reaches tr (call (.patchStatus space name patch) next))
    (hp : StatusPatch.text? "phase" patch = some "Ready") : ∃ id, StatusPatch.text? "id" patch = some id ∧
      ((∃ o, Decoded (exchanged tr) id o ∧ StatusPatch.Gives patch (o.applyTo r.spec.group)) ↔
        ¬ Unread (exchanged tr) id) ∧
      (Unread (exchanged tr) id → Written (exchanged tr) ∧ StatusPatch.Gives patch r.spec.group ∧
        ∀ response, (⟨.read (Group.idPath id), .ok response⟩ : Sync.Turn) ∉ exchanged tr) := by
  rcases report_of_reaches h with ⟨_, hannounces⟩ | ⟨result, hreports⟩
  · obtain ⟨_, _, _, rfl⟩ := hannounces
    rw [StatusPatch.phase_pending] at hp
    exact absurd hp (by decide)
  · obtain ⟨report, state, hpassed, hgone, hskip, rfl⟩ := hreports.ready_eq hp
    have hgives := StatusPatch.ready_gives state r.status r.generation (inSyncMessage report.action) now
    rw [StatusPatch.id_ready]
    cases hpassed.passing.showing rfl hgone with
    | @decoded id o hd =>
      exact ⟨id, rfl, ⟨fun _ => hd.not_unread, fun _ => ⟨o, hd, hgives⟩⟩, fun hu => absurd hu hd.not_unread⟩
    | @unread id hu hw =>
      have hreads := hpassed.passing.readsLast
      exact ⟨id, rfl, ⟨fun ⟨o, hd, _⟩ => hd.not_unread, fun hn => absurd hu hn⟩,
        fun _ => ⟨hw.resolve_right hskip, hgives, hu.not_mem hreads⟩⟩

/-! A group is tracked whose metadata were given by someone else, and the specification now asks for a
policy. -/

def resourceChanged : Resource where
  metadata := { name := some "r1", inNamespace? := some "team", generation := some 2 }
  spec := { name := "g1", policies := some ["p"] }
  status := some { id := some "old", phase := some "Ready", name := some "g1", kind := some .internal,
                   metadata := some (.ofList [("owner", "core")]), observedGeneration := some 1 }

/-- The apply that writes the policy, up to its report, when the read after the write is answered so. -/
def changedTurns (reply : Reply) : List Turn := [
  ⟨.vault (.write (Group.idPath "old") resourceChanged.spec.group.updateBody), .ok none⟩,
  ⟨.vault (.read (Group.idPath "old")), reply⟩,
  ⟨.count .groupOperations ["updated", "team"], ()⟩]

def changedReport (g : Group) : Json :=
  StatusPatch.ready ⟨some "old", g⟩ resourceChanged.status (some 2) (inSyncMessage .updated) .epoch

theorem phase_changedReport (g : Group) : StatusPatch.text? "phase" (changedReport g) = some "Ready" :=
  StatusPatch.phase_ready _ _ _ _ _

theorem apply_resourceChanged : apply 300 .epoch resourceChanged = applyValid 300 .epoch resourceChanged := by
  have hvalid : resourceChanged.spec.group.objection? = none := by decide
  unfold apply
  rw [hvalid]

def ownedSecret : Secret := .withData (.ofList [
  ("metadata", .ofTextDict (.ofList [("owner", "core")])), ("name", .str "g1"), ("type", .str "internal")])

def owned : Observed where
  name := some "g1"
  kind := some .internal
  metadata := some (.ofList [("owner", "core")])

/-- The metadata are reported as they are shown, though the specification has none. -/
theorem ready_reports_owner : ∃ next,
    (apply 300 .epoch resourceChanged).run.Reaches (changedTurns (.ok (some ownedSecret)))
      (call (.patchStatus "team" "r1" (changedReport (owned.applyTo resourceChanged.spec.group))) next) ∧
    StatusPatch.text? "phase" (changedReport (owned.applyTo resourceChanged.spec.group)) = some "Ready" ∧
    ∃ o, Decoded (exchanged (changedTurns (.ok (some ownedSecret)))) "old" o ∧
      StatusPatch.Gives (changedReport (owned.applyTo resourceChanged.spec.group))
        (o.applyTo resourceChanged.spec.group) := by
  have hreaches : ∃ next, (apply 300 .epoch resourceChanged).run.Reaches
      (changedTurns (.ok (some ownedSecret)))
      (call (.patchStatus "team" "r1" (changedReport (owned.applyTo resourceChanged.spec.group))) next) := by
    rw [apply_resourceChanged]
    exact ⟨_, .turn (.turn (.turn (.start _)))⟩
  obtain ⟨next, hreaches⟩ := hreaches
  obtain ⟨id, hid, hread, -⟩ := ready_reports_read_iff hreaches (phase_changedReport _)
  obtain rfl : "old" = id := Option.some.inj ((StatusPatch.id_ready _ _ _ _ _).symm.trans hid)
  refine ⟨next, hreaches, phase_changedReport _, hread.2 ?_⟩
  rintro ⟨f, hlast, _⟩
  cases hlast

/-- When the credential expires between the write and the read, the report says that there are no metadata,
and no read was granted. -/
theorem ready_reports_unread : ∃ next,
    (apply 300 .epoch resourceChanged).run.Reaches (changedTurns (.error (.api 403 ["invalid accessor"])))
      (call (.patchStatus "team" "r1" (changedReport resourceChanged.spec.group)) next) ∧
    StatusPatch.text? "phase" (changedReport resourceChanged.spec.group) = some "Ready" ∧
    StatusPatch.given? "metadata" (changedReport resourceChanged.spec.group) = some .null ∧
    ∀ path response, (⟨.read path, .ok response⟩ : Sync.Turn) ∉
      exchanged (changedTurns (.error (.api 403 ["invalid accessor"]))) := by
  have hreaches : ∃ next, (apply 300 .epoch resourceChanged).run.Reaches
      (changedTurns (.error (.api 403 ["invalid accessor"])))
      (call (.patchStatus "team" "r1" (changedReport resourceChanged.spec.group)) next) := by
    rw [apply_resourceChanged]
    exact ⟨_, .turn (.turn (.turn (.start _)))⟩
  obtain ⟨next, hreaches⟩ := hreaches
  have hnull : StatusPatch.given? "metadata" (changedReport resourceChanged.spec.group) = some .null := rfl
  refine ⟨next, hreaches, phase_changedReport _, hnull, ?_⟩
  simp [changedTurns, exchanged]

end Operator

end IdentityGroups
