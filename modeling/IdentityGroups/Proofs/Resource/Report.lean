import Mathlib
import IdentityGroups.Proofs.Json.Decode
import IdentityGroups.Resource.StatusPatch

/-! # What a status reports after a patch

A status is kept as JSON and read as a record. Each patch is given by what it makes of the record, and
merging its text is shown to do just that, whatever else the object kept holds.
-/

namespace IdentityGroups
open Json Json.Decode Entries

/-! ## The record that a patch makes -/

def Condition.ready (status reason message : String) (now : Time.Instant) : Condition where
  type := "Ready"
  status := status
  lastTransitionTime := now
  reason := some reason
  message := some message

namespace Status

def pending (s : Status) (generation : Option Int64) : Status :=
  { s with
    phase := some "Pending"
    message := some "Creating identity group in Vault"
    observedGeneration := generation }

def drifted (s : Status) (generation : Option Int64) (message : String) (now : Time.Instant) : Status :=
  { s with
    id := none
    phase := some "Drifted"
    message := some message
    observedGeneration := generation
    conditions := [.ready "False" "NotFoundInVault" message now] }

/-- The group whose id is known is reported, an unknown one leaves the report of before. -/
def known (s : Status) : Option GroupState → Status
  | some { id := some id, group } =>
    { s with
      id := some id
      name := some group.name
      kind := some group.kind }
  | _ => s

def failed (s : Status) (generation : Option Int64) (reason message : String) (state : Option GroupState)
    (now : Time.Instant) : Status :=
  { s.known state with
    phase := some "Failed"
    message := some message
    observedGeneration := generation
    conditions := [.ready "False" reason message now] }

/-- The group is in line with Vault. Nothing of the report before remains. -/
def ready (state : GroupState) (generation : Option Int64) (message : String) (now : Time.Instant) :
    Status where
  id := state.id
  phase := some "Ready"
  message := some message
  name := some state.group.name
  kind := some state.group.kind
  metadata := state.group.metadata
  memberGroupIds := state.group.memberGroupIds
  memberEntityIds := state.group.memberEntityIds
  lastSyncTime := some now
  observedGeneration := generation
  conditions := [.ready "True" "Synced" message now]

/-! ## Reading member by member -/

structure Reads (m : List (String × Json)) (s : Status) : Prop where
  conditions : memberOr [] m "conditions" (list Condition.decode) = .ok s.conditions
  id : optionalMember m "id" text = .ok s.id
  lastSyncTime : optionalMember m "lastSyncTime" instant = .ok s.lastSyncTime
  memberEntityIds : optionalMember m "memberEntityIds" (list text) = .ok s.memberEntityIds
  memberGroupIds : optionalMember m "memberGroupIds" (list text) = .ok s.memberGroupIds
  message : optionalMember m "message" text = .ok s.message
  metadata : optionalMember m "metadata" (dict text) = .ok s.metadata
  name : optionalMember m "name" text = .ok s.name
  observedGeneration : optionalMember m "observedGeneration" int64 = .ok s.observedGeneration
  phase : optionalMember m "phase" text = .ok s.phase
  kind : optionalMember m "type" GroupKind.decode = .ok s.kind

theorem decode_obj_iff {m : List (String × Json)} {s : Status} :
    decode (.obj m) = .ok s ↔ Reads m s := by
  constructor
  · intro h
    simp only [decode, bind_eq_ok_iff] at h
    obtain ⟨_, h1, _, h2, _, h3, _, h4, _, h5, _, h6, _, h7, _, h8, _, h9, _, h10, _, h11, h⟩ := h
    cases h
    exact ⟨h1, h2, h3, h4, h5, h6, h7, h8, h9, h10, h11⟩
  · intro h
    simp only [decode, bind_eq_ok_iff]
    exact ⟨_, h.1, _, h.2, _, h.3, _, h.4, _, h.5, _, h.6, _, h.7, _, h.8, _, h.9, _, h.10, _, h.11, rfl⟩

theorem reads_nil : Reads [] {} := by
  constructor <;> rfl

/-- The JSON `j` is kept for the status `s`: nothing, or a canonical object that reads as `s`. -/
inductive Held : Json → Option Status → Prop
  | absent : Held .null none
  | present {m : List (String × Json)} {s : Status} (canonical : (Json.obj m).Canonical)
      (reads : Reads m s) : Held (.obj m) (some s)

theorem Held.canonical {j : Json} {s : Option Status} (h : Held j s) : j.Canonical := by
  cases h with
  | absent => trivial
  | present hm _ => exact hm

theorem Held.reads {j : Json} {s : Option Status} (h : Held j s) :
    Reads j.membersOrNone (s.getD {}) := by
  cases h with
  | absent => exact reads_nil
  | present _ hr => exact hr

theorem Held.decode {j : Json} {s : Option Status} (h : Held j s) :
    optional Status.decode j = .ok s := by
  cases h with
  | absent => rfl
  | present _ hr =>
    change (Status.decode _).map some = _
    rw [decode_obj_iff.2 hr]
    rfl

/-! ## Merging -/

def merged (j patch : Json) : Json := (((Json.obj [("status", j)]).merge patch).member? "status").getD .null

theorem merged_body (j : Json) (p : List (String × Json)) :
    merged j (StatusPatch.body p) = .obj (mergeMembers j.membersOrNone (ofList p)) := by
  have hb : StatusPatch.body p = .obj [("status", .obj (ofList p))] := rfl
  rw [merged, hb, merge, mergeMembers_cons (by simp)]
  simp [mergeMembers, Json.member?, membersOrNone, find?, Entries.insert, merge]

/-- A member that the patch gives a value without members, or none, reads as that value. -/
theorem optionalMember_merged {α : Type} {m p : List (String × Json)} (hm : Ascending m) (hp : Distinct p)
    {k : String} {v : Json} (hk : find? k p = some v) (hv : ∀ t, merge t v = v) (item : Decoder α) :
    optionalMember (mergeMembers m (ofList p)) k item = optional item v := by
  have hf := find?_mergeMembers (ascending_ofList p).distinct hm k
  rw [find?_ofList k hp, hk] at hf
  rw [optionalMember_eq, hf]
  cases v with
  | null => rfl
  | _ => simp only [patched, hv]

theorem optionalMember_unmerged {α : Type} {m p : List (String × Json)} (hm : Ascending m)
    (hp : Distinct p) {k : String} (hk : find? k p = none) (item : Decoder α) :
    optionalMember (mergeMembers m (ofList p)) k item = optionalMember m k item := by
  have hf := find?_mergeMembers (ascending_ofList p).distinct hm k
  rw [find?_ofList k hp, hk] at hf
  rw [optionalMember_eq, hf, optionalMember_eq]

theorem memberOr_merged {α : Type} {m p : List (String × Json)} (hm : Ascending m) (hp : Distinct p)
    {k : String} {items : List Json} (hk : find? k p = some (.arr items)) (default : α) (item : Decoder α) :
    memberOr default (mergeMembers m (ofList p)) k item = item (.arr items) := by
  have hf := find?_mergeMembers (ascending_ofList p).distinct hm k
  rw [find?_ofList k hp, hk] at hf
  rw [memberOr_eq, hf]
  simp only [patched, merge]

theorem memberOr_unmerged {α : Type} {m p : List (String × Json)} (hm : Ascending m) (hp : Distinct p)
    {k : String} (hk : find? k p = none) (default : α) (item : Decoder α) :
    memberOr default (mergeMembers m (ofList p)) k item = memberOr default m k item := by
  have hf := find?_mergeMembers (ascending_ofList p).distinct hm k
  rw [find?_ofList k hp, hk] at hf
  rw [memberOr_eq, hf, memberOr_eq]

theorem Held.merged {j : Json} {s : Option Status} {p : List (String × Json)} {t : Status} (h : Held j s)
    (hp : ∀ q ∈ p, q.2.Canonical)
    (hr : ∀ m, (Json.obj m).Canonical → Reads m (s.getD {}) → Reads (mergeMembers m (ofList p)) t) :
    Held (merged j (StatusPatch.body p)) (some t) := by
  have hm := membersOrNone_canonical h.canonical
  rw [merged_body]
  exact .present (canonical_mergeMembers hm (canonical_ofList hp)) (hr _ hm h.reads)

/-! ## The values of patches -/

theorem merge_ofOption_str (t : Json) (o : Option String) :
    merge t (.ofOption .str o) = .ofOption .str o := by
  cases o <;> rfl

theorem merge_ofOption_ofInt64 (t : Json) (o : Option Int64) :
    merge t (.ofOption .ofInt64 o) = .ofOption .ofInt64 o := by
  cases o <;> rfl

theorem merge_ofOption_ofTexts (t : Json) (o : Option (List String)) :
    merge t (.ofOption .ofTexts o) = .ofOption .ofTexts o := by
  cases o <;> rfl

theorem optional_str (s : String) : optional text (.str s) = .ok (some s) := rfl

theorem optional_generation (o : Option Int64) : optional int64 (.ofOption .ofInt64 o) = .ok o :=
  optional_ofOption (fun _ => by simp [ofInt64]) int64_ofInt64 o

theorem optional_id (o : Option String) : optional text (.ofOption .str o) = .ok o :=
  optional_ofOption (f := Json.str) (fun _ => by simp) (fun _ => rfl) o

theorem optional_texts (o : Option (List String)) : optional (list text) (.ofOption .ofTexts o) = .ok o :=
  optional_ofOption (fun _ => by simp [ofTexts]) list_ofTexts o

theorem optional_kind (k : GroupKind) : optional GroupKind.decode (.str k.word) = .ok (some k) := by
  change (GroupKind.decode (.str k.word)).map some = _
  rw [kind_word]
  rfl

theorem optional_instant (t : Time.Instant) : optional instant (.str t.render) = .ok (some t) := by
  change (instant (.str t.render)).map some = _
  rw [instant_render]
  rfl

theorem decode_condition (status reason message : String) (now : Time.Instant) :
    Condition.decode (StatusPatch.condition status reason message now) =
      .ok (.ready status reason message now) := by
  have hd : Distinct [("type", Json.str "Ready"), ("status", .str status),
      ("lastTransitionTime", .str now.render), ("reason", .str reason), ("message", .str message)] := by
    simp [Distinct]
  have htime := present?_ofList hd (k := "lastTransitionTime") rfl (instant_render now)
  have hmessage := optionalMember_ofList hd (k := "message") rfl text
  have hreason := optionalMember_ofList hd (k := "reason") rfl text
  have hstatus := present?_ofList hd (k := "status") rfl (text_str status)
  have htype := present?_ofList hd (k := "type") rfl (text_str "Ready")
  rw [optional_str] at hmessage hreason
  simp only [StatusPatch.condition, object, Condition.decode, htime, hmessage, hreason, hstatus, htype,
    require, bind, Except.bind, pure, Except.pure, Condition.ready]

theorem list_condition (status reason message : String) (now : Time.Instant) :
    list Condition.decode (.arr [StatusPatch.condition status reason message now]) =
      .ok [.ready status reason message now] := by
  change [StatusPatch.condition status reason message now].mapM Condition.decode = _
  rw [List.mapM_cons, decode_condition]
  rfl

/-! ## Metadata

The keys of before that are no longer there are nulled, so that what is left is what was observed.
-/

theorem find?_foldl_insertIfNew (ks : List String) (d : Dict Json) (k : String) :
    (ks.foldl (fun patch k => patch.insertIfNew k .null) d).find? k =
      (d.find? k).or (if k ∈ ks then some .null else none) := by
  induction ks generalizing d with
  | nil => simp
  | cons k' ks ih =>
    rw [List.foldl_cons, ih, Dict.find?_insertIfNew, Option.or_assoc]
    by_cases hk : k' = k
    · simp [hk]
    · simp [hk, Ne.symm hk]

theorem mem_keys_iff (d : Dict String) (k : String) : k ∈ d.keys ↔ d.contains k := by
  have h := find?_eq_none_iff (k := k) (l := d.entries)
  unfold Dict.contains Dict.keys
  cases hd : d.find? k with
  | none => simpa using h.1 hd
  | some s =>
    simp only [Option.isSome_some, iff_true]
    by_contra hn
    exact absurd (h.2 hn) (by rw [show find? k d.entries = some s from hd]; simp)

/-- What an object holds under `metadata`, as members. -/
theorem members_of_metadata {m : List (String × Json)} {cur : Option (Dict String)}
    (hm : (Json.obj m).Canonical) (h : optionalMember m "metadata" (dict text) = .ok cur) :
    Ascending ((find? "metadata" m).getD .null).membersOrNone ∧
      ∀ k, find? k ((find? "metadata" m).getD .null).membersOrNone =
        ((cur.getD .empty).find? k).map .str := by
  rw [optionalMember_eq] at h
  cases hf : find? "metadata" m with
  | none =>
    rw [hf] at h
    cases h
    exact ⟨List.Pairwise.nil, fun _ => rfl⟩
  | some j =>
    rw [hf] at h
    have hj := canonical_of_find? (canonical_obj_iff.1 hm).2 hf
    cases j with
    | obj ms =>
      obtain ⟨d, hd, rfl⟩ := map_eq_ok_iff.1 h
      have hms := (canonical_obj_iff.1 hj).1
      exact ⟨hms, find?_of_dict_text hms hd⟩
    | null => cases h; exact ⟨List.Pairwise.nil, fun _ => rfl⟩
    | _ => cases h

theorem optionalMember_metadata {m p : List (String × Json)} {cur observed previous : Option (Dict String)}
    (hm : (Json.obj m).Canonical) (hcur : optionalMember m "metadata" (dict text) = .ok cur)
    (hp : Distinct p) (hk : find? "metadata" p = some (StatusPatch.metadata observed previous))
    (hcov : ∀ k, (cur.getD .empty).contains k → (previous.getD .empty).contains k) :
    optionalMember (mergeMembers m (ofList p)) "metadata" (dict text) = .ok observed := by
  obtain ⟨hasc, hold⟩ := members_of_metadata hm hcur
  cases observed with
  | none => exact optionalMember_merged (canonical_obj_iff.1 hm).1 hp hk (fun _ => rfl) _
  | some d =>
    have hf := find?_mergeMembers (ascending_ofList p).distinct (canonical_obj_iff.1 hm).1 "metadata"
    rw [find?_ofList _ hp, hk] at hf
    simp only [StatusPatch.metadata, ofOption, ofDict, patched, merge] at hf
    have hleft : mergeMembers ((find? "metadata" m).getD .null).membersOrNone
        ((previous.getD .empty).keys.foldl (fun patch k => patch.insertIfNew k .null) (d.map .str)).entries =
        (d.map Json.str).entries := by
      refine eq_of_find?_eq (ascending_mergeMembers _ hasc) (d.map Json.str).ascending fun k => ?_
      rw [find?_mergeMembers (Dict.ascending _).distinct hasc k]
      have hpatch := find?_foldl_insertIfNew (previous.getD .empty).keys (d.map .str) k
      rw [Dict.find?_map] at hpatch
      unfold Dict.find? at hpatch
      have hobserved : find? k (d.map Json.str).entries = (find? k d.entries).map .str :=
        Entries.find?_map _ _ _
      rw [hpatch, hobserved]
      cases hd : find? k d.entries with
      | some s => simp [patched, merge]
      | none =>
        by_cases hprev : k ∈ (previous.getD .empty).keys
        · simp [hprev, patched]
        · have hnot : (cur.getD .empty).contains k = false := by
            by_contra hc
            exact hprev ((mem_keys_iff _ _).2 (hcov k (by simpa using hc)))
          have hnone : (cur.getD .empty).find? k = none := by
            simpa [Dict.contains] using hnot
          simp [hprev, hold, hnone]
    rw [hleft] at hf
    rw [optionalMember_eq, hf]
    change (dict text (.ofTextDict d)).map some = _
    rw [dict_ofTextDict]
    rfl

/-! ## The patches -/

theorem canonical_condition (status reason message : String) (now : Time.Instant) :
    (StatusPatch.condition status reason message now).Canonical :=
  canonical_object (by simp [Canonical])

theorem canonical_conditions (status reason message : String) (now : Time.Instant) :
    (Json.arr [StatusPatch.condition status reason message now]).Canonical :=
  ⟨canonical_condition status reason message now, trivial⟩

theorem canonical_ofOption {α : Type} {f : α → Json} (hf : ∀ a, (f a).Canonical) (o : Option α) :
    (Json.ofOption f o).Canonical := by
  cases o with
  | none => trivial
  | some a => exact hf a

theorem canonical_generation (o : Option Int64) : (Json.ofOption .ofInt64 o).Canonical :=
  canonical_ofOption (fun _ => by simp [ofInt64, Canonical]) o

theorem canonical_id (o : Option String) : (Json.ofOption .str o).Canonical :=
  canonical_ofOption (fun _ => by simp [Canonical]) o

theorem canonical_ofTexts (l : List String) : (Json.ofTexts l).Canonical := by
  refine canonicalItems_iff.2 fun j hj => ?_
  obtain ⟨s, _, rfl⟩ := List.mem_map.1 hj
  trivial

theorem canonical_ofTextDict (d : Dict String) : (Json.ofTextDict d).Canonical := by
  refine canonical_obj_iff.2 ⟨(d.map Json.str).ascending, fun p hp => ?_⟩
  obtain ⟨q, _, rfl⟩ := List.mem_map.1 hp
  trivial

theorem canonical_metadata (observed previous : Option (Dict String)) :
    (StatusPatch.metadata observed previous).Canonical := by
  refine canonical_ofOption (fun d => ?_) observed
  refine canonical_obj_iff.2 ⟨Dict.ascending _, ?_⟩
  generalize (previous.getD .empty).keys = ks
  suffices hf : ∀ e : Dict Json, (∀ p ∈ e.entries, p.2.Canonical) →
      ∀ p ∈ (ks.foldl (fun patch k => patch.insertIfNew k .null) e).entries, p.2.Canonical by
    exact hf (d.map .str) (canonical_obj_iff.1 (canonical_ofTextDict d)).2
  induction ks with
  | nil => intro e he; exact he
  | cons k ks ih =>
    intro e he
    refine ih _ fun p hp => ?_
    simp only [Dict.insertIfNew] at hp
    split at hp
    · exact he p hp
    · rcases mem_insert hp with rfl | hp
      · trivial
      · exact he p hp

section
variable {j : Json} {s : Option Status} (h : Held j s)
include h

theorem Held.pending (generation : Option Int64) :
    Held (Status.merged j (StatusPatch.pending generation)) (some ((s.getD {}).pending generation)) := by
  refine h.merged ?_ fun m hc hr => ?_
  · simp only [List.mem_cons, List.not_mem_nil, or_false, forall_eq_or_imp, forall_eq]
    exact ⟨trivial, trivial, canonical_generation _⟩
  have hm := (canonical_obj_iff.1 hc).1
  have hd : Distinct [("phase", Json.str "Pending"), ("message", .str "Creating identity group in Vault"),
      ("observedGeneration", .ofOption .ofInt64 generation)] := by simp [Distinct]
  exact
    { conditions := (memberOr_unmerged hm hd rfl _ _).trans hr.conditions
      id := (optionalMember_unmerged hm hd rfl _).trans hr.id
      lastSyncTime := (optionalMember_unmerged hm hd rfl _).trans hr.lastSyncTime
      memberEntityIds := (optionalMember_unmerged hm hd rfl _).trans hr.memberEntityIds
      memberGroupIds := (optionalMember_unmerged hm hd rfl _).trans hr.memberGroupIds
      message := (optionalMember_merged hm hd rfl (fun _ => rfl) _).trans (optional_str _)
      metadata := (optionalMember_unmerged hm hd rfl _).trans hr.metadata
      name := (optionalMember_unmerged hm hd rfl _).trans hr.name
      observedGeneration :=
        (optionalMember_merged hm hd rfl (fun t => merge_ofOption_ofInt64 t _) _).trans
          (optional_generation _)
      phase := (optionalMember_merged hm hd rfl (fun _ => rfl) _).trans (optional_str _)
      kind := (optionalMember_unmerged hm hd rfl _).trans hr.kind }

theorem Held.drifted (generation : Option Int64) (message : String) (now : Time.Instant) :
    Held (Status.merged j (StatusPatch.drifted generation message now))
      (some ((s.getD {}).drifted generation message now)) := by
  refine h.merged ?_ fun m hc hr => ?_
  · simp only [List.mem_cons, List.not_mem_nil, or_false, forall_eq_or_imp, forall_eq]
    exact ⟨trivial, trivial, trivial, canonical_generation _,
      canonical_conditions _ _ _ _⟩
  have hm := (canonical_obj_iff.1 hc).1
  have hd : Distinct [("id", Json.null), ("phase", .str "Drifted"), ("message", .str message),
      ("observedGeneration", .ofOption .ofInt64 generation),
      ("conditions", .arr [StatusPatch.condition "False" "NotFoundInVault" message now])] := by
    simp [Distinct]
  exact
    { conditions := (memberOr_merged hm hd rfl _ _).trans (list_condition _ _ _ _)
      id := (optionalMember_merged hm hd rfl (fun _ => rfl) _).trans (optional_id none)
      lastSyncTime := (optionalMember_unmerged hm hd rfl _).trans hr.lastSyncTime
      memberEntityIds := (optionalMember_unmerged hm hd rfl _).trans hr.memberEntityIds
      memberGroupIds := (optionalMember_unmerged hm hd rfl _).trans hr.memberGroupIds
      message := (optionalMember_merged hm hd rfl (fun _ => rfl) _).trans (optional_str _)
      metadata := (optionalMember_unmerged hm hd rfl _).trans hr.metadata
      name := (optionalMember_unmerged hm hd rfl _).trans hr.name
      observedGeneration :=
        (optionalMember_merged hm hd rfl (fun t => merge_ofOption_ofInt64 t _) _).trans
          (optional_generation _)
      phase := (optionalMember_merged hm hd rfl (fun _ => rfl) _).trans (optional_str _)
      kind := (optionalMember_unmerged hm hd rfl _).trans hr.kind }

theorem Held.failed (generation : Option Int64) (reason message : String) (state : Option GroupState)
    (now : Time.Instant) : Held (Status.merged j (StatusPatch.failed generation reason message state now))
      (some ((s.getD {}).failed generation reason message state now)) := by
  rcases state with _ | ⟨_ | id, group⟩
  case some.some =>
    refine h.merged ?_ fun m hc hr => ?_
    · simp only [List.cons_append, List.nil_append, List.mem_cons, List.not_mem_nil, or_false,
        forall_eq_or_imp, forall_eq]
      exact ⟨trivial, trivial, canonical_generation _, canonical_conditions _ _ _ _,
        trivial, trivial, trivial⟩
    have hm := (canonical_obj_iff.1 hc).1
    have hd : Distinct ([("phase", Json.str "Failed"), ("message", .str message),
        ("observedGeneration", .ofOption .ofInt64 generation),
        ("conditions", .arr [StatusPatch.condition "False" reason message now])] ++
        [("id", .str id), ("name", .str group.name), ("type", .str group.kind.word)]) := by
      simp [Distinct]
    exact
      { conditions := (memberOr_merged hm hd rfl _ _).trans (list_condition _ _ _ _)
        id := (optionalMember_merged hm hd rfl (fun _ => rfl) _).trans (optional_str _)
        lastSyncTime := (optionalMember_unmerged hm hd rfl _).trans hr.lastSyncTime
        memberEntityIds := (optionalMember_unmerged hm hd rfl _).trans hr.memberEntityIds
        memberGroupIds := (optionalMember_unmerged hm hd rfl _).trans hr.memberGroupIds
        message := (optionalMember_merged hm hd rfl (fun _ => rfl) _).trans (optional_str _)
        metadata := (optionalMember_unmerged hm hd rfl _).trans hr.metadata
        name := (optionalMember_merged hm hd rfl (fun _ => rfl) _).trans (optional_str _)
        observedGeneration :=
          (optionalMember_merged hm hd rfl (fun t => merge_ofOption_ofInt64 t _) _).trans
            (optional_generation _)
        phase := (optionalMember_merged hm hd rfl (fun _ => rfl) _).trans (optional_str _)
        kind := (optionalMember_merged hm hd rfl (fun _ => rfl) _).trans (optional_kind _) }
  -- an id that is not known leaves the group out, whatever else is known of it
  all_goals
    refine h.merged ?_ fun m hc hr => ?_
    · simp only [List.append_nil, List.mem_cons, List.not_mem_nil, or_false, forall_eq_or_imp, forall_eq]
      exact ⟨trivial, trivial, canonical_generation _, canonical_conditions _ _ _ _⟩
    have hm := (canonical_obj_iff.1 hc).1
    have hd : Distinct ([("phase", Json.str "Failed"), ("message", .str message),
        ("observedGeneration", .ofOption .ofInt64 generation),
        ("conditions", .arr [StatusPatch.condition "False" reason message now])] ++ []) := by
      simp [Distinct]
    exact
      { conditions := (memberOr_merged hm hd rfl _ _).trans (list_condition _ _ _ _)
        id := (optionalMember_unmerged hm hd rfl _).trans hr.id
        lastSyncTime := (optionalMember_unmerged hm hd rfl _).trans hr.lastSyncTime
        memberEntityIds := (optionalMember_unmerged hm hd rfl _).trans hr.memberEntityIds
        memberGroupIds := (optionalMember_unmerged hm hd rfl _).trans hr.memberGroupIds
        message := (optionalMember_merged hm hd rfl (fun _ => rfl) _).trans (optional_str _)
        metadata := (optionalMember_unmerged hm hd rfl _).trans hr.metadata
        name := (optionalMember_unmerged hm hd rfl _).trans hr.name
        observedGeneration :=
          (optionalMember_merged hm hd rfl (fun t => merge_ofOption_ofInt64 t _) _).trans
            (optional_generation _)
        phase := (optionalMember_merged hm hd rfl (fun _ => rfl) _).trans (optional_str _)
        kind := (optionalMember_unmerged hm hd rfl _).trans hr.kind }

/-- The report of a group in line takes the place of the report of before, provided that the metadata
to be patched was read with that report. -/
theorem Held.ready (state : GroupState) (previous : Option Status) (generation : Option Int64)
    (message : String) (now : Time.Instant)
    (hprev : (s.bind (·.metadata)) = previous.bind (·.metadata)) :
    Held (Status.merged j (StatusPatch.ready state previous generation message now))
      (some (Status.ready state generation message now)) := by
  refine h.merged ?_ fun m hc hr => ?_
  · simp only [List.mem_cons, List.not_mem_nil, or_false, forall_eq_or_imp, forall_eq]
    exact ⟨canonical_id _, trivial, trivial, trivial, trivial,
      canonical_metadata _ _, canonical_ofOption canonical_ofTexts _, canonical_ofOption canonical_ofTexts _,
      trivial, canonical_generation _, canonical_conditions _ _ _ _⟩
  have hm := (canonical_obj_iff.1 hc).1
  have hcov : ∀ k, ((s.getD {}).metadata.getD .empty).contains k →
      ((previous.bind (·.metadata)).getD .empty).contains k := by
    intro k hk
    cases s with
    | none => simp [Dict.contains] at hk
    | some s => rw [← hprev]; exact hk
  have hd : Distinct [("id", Json.ofOption .str state.id), ("phase", .str "Ready"),
      ("message", .str message), ("name", .str state.group.name), ("type", .str state.group.kind.word),
      ("metadata", StatusPatch.metadata state.group.metadata (previous.bind (·.metadata))),
      ("memberGroupIds", .ofOption .ofTexts state.group.memberGroupIds),
      ("memberEntityIds", .ofOption .ofTexts state.group.memberEntityIds),
      ("lastSyncTime", .str now.render), ("observedGeneration", .ofOption .ofInt64 generation),
      ("conditions", .arr [StatusPatch.condition "True" "Synced" message now])] := by simp [Distinct]
  exact
    { conditions := (memberOr_merged hm hd rfl _ _).trans (list_condition _ _ _ _)
      id := (optionalMember_merged hm hd rfl (fun t => merge_ofOption_str t _) _).trans (optional_id _)
      lastSyncTime := (optionalMember_merged hm hd rfl (fun _ => rfl) _).trans (optional_instant _)
      memberEntityIds :=
        (optionalMember_merged hm hd rfl (fun t => merge_ofOption_ofTexts t _) _).trans (optional_texts _)
      memberGroupIds :=
        (optionalMember_merged hm hd rfl (fun t => merge_ofOption_ofTexts t _) _).trans (optional_texts _)
      message := (optionalMember_merged hm hd rfl (fun _ => rfl) _).trans (optional_str _)
      metadata := optionalMember_metadata hc hr.metadata hd rfl hcov
      name := (optionalMember_merged hm hd rfl (fun _ => rfl) _).trans (optional_str _)
      observedGeneration :=
        (optionalMember_merged hm hd rfl (fun t => merge_ofOption_ofInt64 t _) _).trans
          (optional_generation _)
      phase := (optionalMember_merged hm hd rfl (fun _ => rfl) _).trans (optional_str _)
      kind := (optionalMember_merged hm hd rfl (fun _ => rfl) _).trans (optional_kind _) }

end

/-! ## What is tracked -/

theorem id_of_tracked? {s : Option Status} {t : Tracked} (h : s.bind tracked? = some t) :
    s.bind (·.id) = some t.id ∧ t.id ≠ "" := by
  obtain ⟨s, rfl, ht⟩ := Option.bind_eq_some_iff.1 h
  obtain ⟨id, hid, rfl⟩ := Option.map_eq_some_iff.1 ht
  simpa [Option.filter_eq_some_iff] using hid

theorem tracked?_isSome {s : Option Status} {id : String} (h : s.bind (·.id) = some id) (hne : id ≠ "") :
    (s.bind tracked?).isSome := by
  obtain ⟨s, rfl, hid⟩ := Option.bind_eq_some_iff.1 h
  simp [tracked?, hid, hne]

end Status

end IdentityGroups
