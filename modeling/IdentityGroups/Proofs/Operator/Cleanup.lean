import Mathlib
import IdentityGroups.Proofs.Operator.Delay
import IdentityGroups.Proofs.Operator.OnWorld
import IdentityGroups.Proofs.Program.Answered

/-! # What a cleanup deletes, and when it is over

The group that is tracked is probed, and deleted if it is there; nothing else is asked of Vault. Only when all
that was asked was answered is the cleanup counted and the finalizer taken off, so that a group that may still
be there keeps its resource.
-/

namespace IdentityGroups.Operator
open Program Vault
variable {r : Resource} {t : Tracked} {tr : List Turn} {result : Except Error Next}

/-! ## Its requests -/

/-- A query of one request is one request of the handling. -/
theorem run_ofQuery {α : Type} {q : Sync.Query α} {request : Request} {f : Reply → Except Sync.Error α}
    (h : q.run = call request fun reply => done (f reply)) :
    (ofQuery q).run = call (.vault request) fun reply => done ((f reply).mapError .sync) := by
  have hthrough : (throughVault q.run).run = call (.vault request) fun reply => done (.ok (f reply)) := by
    rw [h]
    rfl
  rw [ofQuery, handling_bind, hthrough, call_bind]
  refine congrArg (call _) (funext fun reply => ?_)
  simp only [done_bind]
  cases f reply <;> rfl

def cleanedUp : Program Effect.Answer (Except Error Next) :=
  call (.count .cleanups [kindLabel]) fun _ => done (.ok .awaitChange)

theorem run_cleanup_untracked (h : r.tracked? = none) : (cleanup r).run = cleanedUp := by
  unfold cleanup
  rw [h]
  rfl

theorem run_cleanup_tracked (h : r.tracked? = some t) : (cleanup r).run =
    call (.vault (.read (Group.idPath t.id))) fun reply => match reply with
      | .error f => done (.error (.sync (.read .exists t.id f)))
      | .ok response =>
        if (Sync.payload? response).isSome then
          call (.vault (.delete (Group.idPath t.id))) fun reply => match reply with
            | .error f => done (.error (.sync (.delete t.id f)))
            | .ok _ => cleanedUp
        else cleanedUp := by
  have hprobe := run_ofQuery (Sync.run_isHeld (Status.id_of_tracked? h).2 r.spec.name)
  have hdelete := run_ofQuery (Sync.run_delete t.id)
  unfold cleanup
  rw [h]
  simp only
  rw [handling_bind, hprobe, call_bind]
  refine congrArg (call _) (funext fun reply => ?_)
  cases reply with
  | error f => rfl
  | ok response =>
    simp only [done_bind, Except.mapError, Except.map]
    cases (Sync.payload? response).isSome with
    | false => rfl
    | true =>
      simp only [if_true]
      rw [handling_bind, hdelete, call_bind]
      refine congrArg (call _) (funext fun reply => ?_)
      cases reply <;> rfl

/-- The courses that a cleanup can take: its turns and what it comes to. -/
inductive CleanupCourse (r : Resource) : List Turn → Except Error Next → Prop
  | untracked (h : r.tracked? = none) :
      CleanupCourse r [⟨.count .cleanups [kindLabel], ()⟩] (.ok .awaitChange)
  | unread {t : Tracked} {f : Failure} (h : r.tracked? = some t) :
      CleanupCourse r [⟨.vault (.read (Group.idPath t.id)), .error f⟩] (.error (.sync (.read .exists t.id f)))
  | absent {t : Tracked} {response : Option Secret} (h : r.tracked? = some t)
      (hp : Sync.payload? response = none) :
      CleanupCourse r [⟨.vault (.read (Group.idPath t.id)), .ok response⟩, ⟨.count .cleanups [kindLabel], ()⟩]
        (.ok .awaitChange)
  | undeleted {t : Tracked} {response : Option Secret} {f : Failure} (h : r.tracked? = some t)
      (hp : (Sync.payload? response).isSome) :
      CleanupCourse r [⟨.vault (.read (Group.idPath t.id)), .ok response⟩,
        ⟨.vault (.delete (Group.idPath t.id)), .error f⟩] (.error (.sync (.delete t.id f)))
  | deleted {t : Tracked} {response answer : Option Secret} (h : r.tracked? = some t)
      (hp : (Sync.payload? response).isSome) :
      CleanupCourse r [⟨.vault (.read (Group.idPath t.id)), .ok response⟩,
        ⟨.vault (.delete (Group.idPath t.id)), .ok answer⟩, ⟨.count .cleanups [kindLabel], ()⟩]
        (.ok .awaitChange)

theorem cleanedUp_yields_iff : cleanedUp.Yields tr result ↔
    tr = [⟨.count .cleanups [kindLabel], ()⟩] ∧ result = .ok .awaitChange := by
  rw [cleanedUp, yields_call_iff]
  constructor
  · rintro ⟨_, tr', rfl, h⟩
    obtain ⟨rfl, rfl⟩ := yields_done_iff.1 h
    exact ⟨rfl, rfl⟩
  · rintro ⟨rfl, rfl⟩
    exact ⟨(), [], rfl, .start _⟩

/-- Whoever answers, these are the courses, and each of them is taken by some cleanup. -/
theorem cleanup_yields_iff : (cleanup r).run.Yields tr result ↔ CleanupCourse r tr result := by
  constructor
  · intro h
    cases ht : r.tracked? with
    | none =>
      rw [run_cleanup_untracked ht] at h
      obtain ⟨rfl, rfl⟩ := cleanedUp_yields_iff.1 h
      exact .untracked ht
    | some t =>
      rw [run_cleanup_tracked ht] at h
      obtain ⟨reply, tr', rfl, hprobed⟩ := yields_call_iff.1 h
      clear h
      cases reply with
      | error f =>
        obtain ⟨rfl, rfl⟩ := yields_done_iff.1 hprobed
        exact .unread ht
      | ok response =>
        cases hp : Sync.payload? response with
        | none =>
          simp only [hp] at hprobed
          obtain ⟨rfl, rfl⟩ := cleanedUp_yields_iff.1 hprobed
          exact .absent ht hp
        | some secret =>
          have hsome : (Sync.payload? response).isSome := by rw [hp]; rfl
          simp only [if_pos hsome] at hprobed
          obtain ⟨reply, tr', rfl, hdeleted⟩ := yields_call_iff.1 hprobed
          clear hprobed
          cases reply with
          | error f =>
            obtain ⟨rfl, rfl⟩ := yields_done_iff.1 hdeleted
            exact .undeleted ht hsome
          | ok answer =>
            obtain ⟨rfl, rfl⟩ := cleanedUp_yields_iff.1 hdeleted
            exact .deleted ht hsome
  · intro h
    cases h with
    | untracked ht =>
      rw [run_cleanup_untracked ht]
      exact .turn (.start _)
    | unread ht =>
      rw [run_cleanup_tracked ht]
      exact .turn (.start _)
    | absent ht hp =>
      rw [run_cleanup_tracked ht]
      refine .turn ?_
      simp only [hp]
      exact .turn (.start _)
    | undeleted ht hp =>
      rw [run_cleanup_tracked ht]
      refine .turn ?_
      simp only [if_pos hp]
      exact .turn (.start _)
    | deleted ht hp =>
      rw [run_cleanup_tracked ht]
      refine .turn ?_
      simp only [if_pos hp]
      exact .turn (.turn (.start _))

/-! ## What it asks, does and returns -/

/-- What is done besides asking Vault. -/
def aside (tr : List Turn) : List Effect :=
  tr.filterMap fun
    | ⟨.vault _, _⟩ => none
    | ⟨e, _⟩ => some e

def carriesGroup : Reply → Bool
  | .ok response => (Sync.payload? response).isSome
  | .error _ => false

/-- The turns of a probe of the group under `id` and, just when it is there, of its delete. -/
def Probes (id : String) (ts : List Sync.Turn) : Prop :=
  ∃ probe : Reply, if carriesGroup probe then
      ∃ answer : Reply, ts = [⟨.read (Group.idPath id), probe⟩, ⟨.delete (Group.idPath id), answer⟩]
    else ts = [⟨.read (Group.idPath id), probe⟩]

theorem probes_absent {id : String} {probe : Reply} (h : carriesGroup probe = false) :
    Probes id [⟨.read (Group.idPath id), probe⟩] := by
  refine ⟨probe, ?_⟩
  rw [h]
  rfl

theorem probes_held {id : String} {probe : Reply} (h : carriesGroup probe) (answer : Reply) :
    Probes id [⟨.read (Group.idPath id), probe⟩, ⟨.delete (Group.idPath id), answer⟩] := by
  refine ⟨probe, ?_⟩
  rw [if_pos h]
  exact ⟨answer, rfl⟩

/-- The turns `tr` of a cleanup with this result delete no more than the group that is tracked, and the cleanup
succeeds and is counted just when all that it asked was answered. -/
structure CleansUp (r : Resource) (tr : List Turn) (result : Except Error Next) : Prop where
  untracked : r.tracked? = none → exchanged tr = []
  tracked : ∀ t, r.tracked? = some t → Probes t.id (exchanged tr)
  succeeds : result = .ok .awaitChange ↔ ∀ turn ∈ exchanged tr, turn.2.isOk
  counts : aside tr = if result.isOk then [.count .cleanups [kindLabel]] else []
  probeFails : ∀ t f, r.tracked? = some t → ⟨.read (Group.idPath t.id), .error f⟩ ∈ exchanged tr →
    result = .error (.sync (.read .exists t.id f))
  deleteFails : ∀ t f, r.tracked? = some t → ⟨.delete (Group.idPath t.id), .error f⟩ ∈ exchanged tr →
    result = .error (.sync (.delete t.id f))

theorem CleanupCourse.cleansUp (h : CleanupCourse r tr result) : CleansUp r tr result := by
  cases h with
  | untracked ht =>
    constructor <;> simp [ht, exchanged, aside, Except.isOk, Except.toBool]
  | @unread t f ht =>
    constructor <;> simp +contextual [ht, exchanged, aside, Except.isOk, Except.toBool]
    exact probes_absent rfl
  | @absent t response ht hp =>
    constructor <;> simp [ht, exchanged, aside, Except.isOk, Except.toBool]
    exact probes_absent (by simp [carriesGroup, hp])
  | @undeleted t response f ht hp =>
    have hcarries : carriesGroup (.ok response) := hp
    constructor <;> simp +contextual [ht, exchanged, aside, Except.isOk, Except.toBool]
    exact probes_held hcarries (.error f)
  | @deleted t response answer ht hp =>
    have hcarries : carriesGroup (.ok response) := hp
    constructor <;> simp [ht, exchanged, aside, Except.isOk, Except.toBool]
    exact probes_held hcarries (.ok answer)

/-! ## The finalizer -/

theorem CleansUp.not_patched (h : CleansUp r tr result) {space name : String} {operations : Json}
    {v : Verdict} : ⟨.patchObject space name operations, v⟩ ∉ tr := by
  intro hm
  have haside : Effect.patchObject space name operations ∈ aside tr :=
    List.mem_filterMap.2 ⟨_, hm, rfl⟩
  rw [h.counts] at haside
  split at haside <;> simp at haside

/-- The finalizers of a resource that is being deleted are patched only after a cleanup that succeeded. -/
theorem patched_after_cleanup {resync : Nat} {now : Time.Instant} (hd : r.isDeleting = true)
    (h : (withFinalizer resync now r).run.Yields tr result) {space name : String} {operations : Json}
    {v : Verdict} (hm : ⟨.patchObject space name operations, v⟩ ∈ tr) :
    ∃ before after, tr = before ++ after ∧ (cleanup r).run.Yields before (.ok .awaitChange) := by
  unfold withFinalizer at h
  rw [hd] at h
  cases hi : (r.metadata.finalizers.getD []).idxOf? finalizerName with
  | none =>
    simp only [hi] at h
    obtain ⟨rfl, -⟩ := yields_done_iff.1 h
    cases hm
  | some i =>
    simp only [hi] at h
    cases hn : r.metadata.name with
    | none =>
      simp only [hn] at h
      obtain ⟨rfl, -⟩ := yields_done_iff.1 h
      cases hm
    | some owner =>
      simp only [hn] at h
      rw [handling_bind] at h
      obtain ⟨before, res, after, hcleanup, hrest, rfl⟩ := yields_bind_iff.1 h
      obtain ⟨res', hyields, rfl⟩ := yields_inContext_iff.1 hcleanup
      have hcourse := cleanup_yields_iff.1 hyields
      refine ⟨before, after, rfl, ?_⟩
      cases res' with
      | error e =>
        obtain ⟨rfl, -⟩ := yields_done_iff.1 hrest
        rw [List.append_nil] at hm
        exact absurd hm hcourse.cleansUp.not_patched
      | ok next =>
        cases hcourse <;> exact hyields

/-! ## Counting -/

theorem course_of_run {V : Type} (answer : Request → V → Reply × V) (w : World V) (r : Resource) :
    ∃ tr, CleanupCourse r tr (w.run answer (cleanup r)).1 ∧
      Answered (World.handle answer) tr w (w.run answer (cleanup r)).2 := by
  obtain ⟨tr, hyields, hanswered⟩ := yields_run (World.handle answer) (cleanup r).run w
  exact ⟨tr, cleanup_yields_iff.1 hyields, hanswered⟩

/-- One is added to the count of cleanups just when a cleanup succeeds. -/
theorem metrics_cleanup {V : Type} (answer : Request → V → Reply × V) (w : World V) (r : Resource) :
    (w.run answer (cleanup r)).2.metrics =
      if (w.run answer (cleanup r)).1.isOk then w.metrics.increment ⟨.cleanups, [kindLabel]⟩
      else w.metrics := by
  obtain ⟨tr, hcourse, hanswered⟩ := course_of_run answer w r
  generalize (w.run answer (cleanup r)).1 = result at hcourse
  generalize (w.run answer (cleanup r)).2 = w' at hanswered
  cases hcourse with
  | untracked ht =>
    obtain ⟨-, rfl⟩ := hanswered
    rfl
  | unread ht =>
    obtain ⟨-, rfl⟩ := hanswered
    rfl
  | absent ht hp =>
    obtain ⟨-, -, rfl⟩ := hanswered
    rfl
  | undeleted ht hp =>
    obtain ⟨-, -, rfl⟩ := hanswered
    rfl
  | deleted ht hp =>
    obtain ⟨-, -, -, rfl⟩ := hanswered
    rfl

/-! ## On a store -/

/-- The store after a cleanup, whatever failures it met: no other group has changed, and after a cleanup that
succeeded the one that is tracked is not there. -/
theorem CleanupCourse.onStore {w w' : World Store} (h : CleanupCourse r tr result)
    (ha : Answered (World.handle Store.answer) tr w w') (ht : r.tracked? = some t) (hid : Addressable t.id) :
    Store.OnlyAt t.id w.vault w'.vault ∧
      ∀ next, result = .ok next → w'.vault.groups.find? t.id = none := by
  cases h with
  | untracked hnone => cases hnone.symm.trans ht
  | @unread t' f ht' =>
    cases ht'.symm.trans ht
    obtain ⟨-, rfl⟩ := ha
    exact ⟨Store.onlyAt_of_groups (Store.groups_answer_read hid w.vault), fun _ h => by cases h⟩
  | @absent t' response ht' hp =>
    cases ht'.symm.trans ht
    obtain ⟨hprobe, -, rfl⟩ := ha
    have hgroups := Store.groups_answer_read hid w.vault
    have hresponse := Store.answer_read_ok hid hprobe
    have hmissing : w.vault.groups.find? t.id = none := by
      cases hf : w.vault.groups.find? t.id with
      | none => rfl
      | some stored =>
        rw [hresponse, hf, Option.map_some, Sync.payload?_readView] at hp
        cases hp
    refine ⟨Store.onlyAt_of_groups hgroups, fun _ _ => ?_⟩
    exact (congrArg (·.find? t.id) hgroups).trans hmissing
  | @undeleted t' response f ht' hp =>
    cases ht'.symm.trans ht
    obtain ⟨-, hdelete, rfl⟩ := ha
    have hgroups := (Store.groups_answer_delete_error hid hdelete).trans (Store.groups_answer_read hid w.vault)
    exact ⟨Store.onlyAt_of_groups hgroups, fun _ h => by cases h⟩
  | @deleted t' response answer ht' hp =>
    cases ht'.symm.trans ht
    obtain ⟨-, hdelete, -, rfl⟩ := ha
    have hgroups := Store.groups_answer_delete_ok hid hdelete
    have hprobed := Store.groups_answer_read hid w.vault
    have hfind (other : String) := (congrArg (·.find? other) hgroups).trans (Store.find?_drop _ t.id other)
    refine ⟨fun other hne => ?_, fun _ _ => ?_⟩
    · refine (hfind other).trans ?_
      rw [if_neg (Ne.symm hne)]
      exact congrArg (·.find? other) hprobed
    · refine (hfind t.id).trans ?_
      rw [if_pos rfl]

/-- A cleanup of a group that is not there succeeds, and leaves but a line in the log. -/
theorem cleanup_absent (ht : r.tracked? = some t) (hid : Addressable t.id) {w : World Store}
    (hf : w.vault.groups.find? t.id = none) (htraps : w.vault.traps = []) :
    w.run Store.answer (cleanup r) = (.ok .awaitChange,
      { w with
        vault := { w.vault with log := w.vault.log ++ [.read (Group.idPath t.id)] }
        metrics := w.metrics.increment ⟨.cleanups, [kindLabel]⟩ }) := by
  have hanswer : World.handle Store.answer (.vault (.read (Group.idPath t.id))) w =
      (.ok none, { w with vault := { w.vault with log := w.vault.log ++ [.read (Group.idPath t.id)] } }) := by
    simp only [World.handle, Store.answer_of_no_traps htraps, Store.serve_read_id hid, hf, Option.map_none]
  rw [World.run, run_cleanup_tracked ht, run_call, hanswer]
  rfl

/-- Whoever answers, a cleanup asks for no more than the delete of the group that is tracked, succeeds and is
counted just when all it asked was answered, and only then are finalizers patched. Whatever failures are laid out
in a store, after a success the group is gone from it and the others are as before, and another cleanup then
succeeds and changes nothing. -/
theorem cleanup_deletes_tracked (r : Resource) :
    (∀ tr result, (cleanup r).run.Yields tr result → CleansUp r tr result) ∧
    (∀ (V : Type) (answer : Request → V → Reply × V) (w : World V),
      (w.run answer (cleanup r)).2.metrics =
        if (w.run answer (cleanup r)).1.isOk then w.metrics.increment ⟨.cleanups, [kindLabel]⟩
        else w.metrics) ∧
    (r.isDeleting = true → ∀ resync now tr result, (reconcile resync now r).run.Yields tr result →
      ∀ space name operations verdict, ⟨.patchObject space name operations, verdict⟩ ∈ tr →
        ∃ before after, tr = ⟨.count .reconciliations [kindLabel], ()⟩ :: before ++ after ∧
          (cleanup r).run.Yields before (.ok .awaitChange)) ∧
    (∀ t, r.tracked? = some t → Addressable t.id → ∀ (w w' : World Store) result,
      w.run Store.answer (cleanup r) = (result, w') → Store.OnlyAt t.id w.vault w'.vault ∧
        ∀ next, result = .ok next → w'.vault.groups.find? t.id = none ∧
          ∀ again : World Store, again.vault = { w'.vault with traps := [] } →
            ∃ last, again.run Store.answer (cleanup r) = (.ok .awaitChange, last) ∧
              last.vault = { again.vault with log := again.vault.log ++ [.read (Group.idPath t.id)] }) := by
  refine ⟨?transcripts, ?counted, ?released, ?stored⟩
  case transcripts => exact fun tr result h => (cleanup_yields_iff.1 h).cleansUp
  case counted => exact fun V answer w => metrics_cleanup answer w r
  case released =>
    intro hd resync now tr result h space name operations verdict hm
    obtain ⟨tr', rfl, hfinal⟩ := reconcile_yields h
    have hm' : ⟨.patchObject space name operations, verdict⟩ ∈ tr' := by simpa using hm
    obtain ⟨before, after, rfl, hcleanup⟩ := patched_after_cleanup hd hfinal hm'
    exact ⟨before, after ++ [⟨.timed, ()⟩], by simp, hcleanup⟩
  case stored =>
    intro t ht hid w w' result hrun
    obtain ⟨tr, hcourse, hanswered⟩ := course_of_run Store.answer w r
    rw [hrun] at hcourse hanswered
    obtain ⟨honly, hgone⟩ := hcourse.onStore hanswered ht hid
    refine ⟨honly, fun next hok => ⟨hgone next hok, fun again hagain => ?_⟩⟩
    have hf : again.vault.groups.find? t.id = none := by
      rw [hagain]
      exact hgone next hok
    have htraps : again.vault.traps = [] := by rw [hagain]
    exact ⟨_, cleanup_absent ht hid hf htraps, rfl⟩

/-! A store with the group that a resource tracks, another one of the name, and a failure that no cleanup meets. -/

def namesakes : World Store where
  cluster := { object := .null }
  vault := ((({} : Store).insertGroup "old" (.object [("name", .str "g"), ("type", .str "internal")])).insertGroup
    "other" (.object [("name", .str "g"), ("type", .str "internal")])).failNext .write (.transport "timeout")

theorem cleanup_namesakes : ∃ w', namesakes.run Store.answer (cleanup readingOld) = (.ok .awaitChange, w') ∧
    w'.vault.groups.find? "old" = none ∧
    w'.vault.groups.find? "other" = namesakes.vault.groups.find? "other" ∧
    ∃ last, ({ w' with vault := { w'.vault with traps := [] } } : World Store).run Store.answer
      (cleanup readingOld) = (.ok .awaitChange, last) := by
  have hok : (namesakes.run Store.answer (cleanup readingOld)).1 = .ok .awaitChange := by rfl
  obtain ⟨w', hrun⟩ : ∃ w', namesakes.run Store.answer (cleanup readingOld) = (.ok .awaitChange, w') :=
    ⟨_, Prod.ext hok rfl⟩
  obtain ⟨-, -, -, hstore⟩ := cleanup_deletes_tracked readingOld
  obtain ⟨honly, hgone⟩ :=
    hstore ⟨"old", some "g", some .internal⟩ rfl (by decide) namesakes w' (.ok .awaitChange) hrun
  obtain ⟨hmissing, hagain⟩ := hgone .awaitChange rfl
  obtain ⟨last, hlast, -⟩ := hagain { w' with vault := { w'.vault with traps := [] } } rfl
  exact ⟨w', hrun, hmissing, honly "other" (by decide), last, hlast⟩

end IdentityGroups.Operator
