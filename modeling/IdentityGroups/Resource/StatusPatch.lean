import IdentityGroups.Resource.Status
import IdentityGroups.Json.Merge

/-! # Patches of a status

Each pass reports by a merge patch: what a patch leaves out stays, what it nulls goes. Only a
failure leaves the group out when its id is not known, so that an id reported before stays.
-/

namespace IdentityGroups.StatusPatch

def condition (status reason message : String) (now : Time.Instant) : Json := .object [
  ("type", .str "Ready"), ("status", .str status), ("lastTransitionTime", .str now.render),
  ("reason", .str reason), ("message", .str message)]

def body (members : List (String × Json)) : Json := .object [("status", .object members)]

/-- What was observed, with null for each key of `previous` that is no longer there. -/
def metadata (observed previous : Option (Dict String)) : Json :=
  .ofOption (fun d => .ofDict <|
    (previous.getD .empty).keys.foldl (fun patch k => patch.insertIfNew k .null) (d.map .str))
    observed

def ready (state : GroupState) (previous : Option Status) (generation : Option Int64)
    (message : String) (now : Time.Instant) : Json := body [
  ("id", .ofOption .str state.id), ("phase", .str "Ready"), ("message", .str message),
  ("name", .str state.group.name), ("type", .str state.group.kind.word),
  ("metadata", metadata state.group.metadata (previous.bind (·.metadata))),
  ("memberGroupIds", .ofOption .ofTexts state.group.memberGroupIds),
  ("memberEntityIds", .ofOption .ofTexts state.group.memberEntityIds),
  ("lastSyncTime", .str now.render), ("observedGeneration", .ofOption .ofInt64 generation),
  ("conditions", .arr [condition "True" "Synced" message now])]

def drifted (generation : Option Int64) (message : String) (now : Time.Instant) : Json := body [
  ("id", .null), ("phase", .str "Drifted"), ("message", .str message),
  ("observedGeneration", .ofOption .ofInt64 generation),
  ("conditions", .arr [condition "False" "NotFoundInVault" message now])]

/-- A pass failed; the group is reported when its id is known. -/
def failed (generation : Option Int64) (reason message : String) (state : Option GroupState)
    (now : Time.Instant) : Json :=
  let known : List (String × Json) :=
    match state with
    | some { id := some id, group } =>
      [("id", .str id), ("name", .str group.name), ("type", .str group.kind.word)]
    | _ => []
  body <| [("phase", .str "Failed"), ("message", .str message),
    ("observedGeneration", .ofOption .ofInt64 generation),
    ("conditions", .arr [condition "False" reason message now])] ++ known

def pending (generation : Option Int64) : Json := body [
  ("phase", .str "Pending"), ("message", .str "Creating identity group in Vault"),
  ("observedGeneration", .ofOption .ofInt64 generation)]

end IdentityGroups.StatusPatch
