import Mathlib
import IdentityGroups.Proofs.Sync.Course

/-! # Which ids a pass learns and keeps

Vault gives ids in two places only, and a pass learns one at most. It ends holding that id or the one
tracked, unless it failed before it had either, or the group turned out to be gone.
-/

namespace IdentityGroups.Sync

/-- A request that asks for an id is answered with `id`: a create, or a look-up of a name. -/
def Teaches (id : String) (turn : Turn) : Prop :=
  ((∃ body, turn.1 = .write Group.collectionPath body) ∨ ∃ name, turn.1 = .read (Group.namePath name)) ∧
    ∃ secret : Vault.Secret, turn.2 = .ok (some secret) ∧ secret.text? "id" = some id ∧ id ≠ ""

def Learnt (tr : List Turn) (id : String) : Prop := ∃ turn ∈ tr, Teaches id turn

def Vanished (tr : List Turn) : Prop :=
  ∃ turn ∈ tr, (∃ id, turn.1 = .read (Group.idPath id)) ∧ ∃ response, turn.2 = .ok response ∧
    payload? response = none

def Faulted (tr : List Turn) : Prop := ∃ turn ∈ tr, ∃ f, turn.2 = .error f

theorem learnt_nil_iff {id : String} : ¬ Learnt [] id := by simp [Learnt]

theorem learnt_cons_iff {turn : Turn} {tr : List Turn} {id : String} :
    Learnt (turn :: tr) id ↔ Teaches id turn ∨ Learnt tr id := by simp [Learnt]

theorem vanished_cons {turn : Turn} {tr : List Turn} (h : Vanished tr) : Vanished (turn :: tr) := by
  obtain ⟨t, ht, h⟩ := h
  exact ⟨t, List.mem_cons_of_mem _ ht, h⟩

theorem faulted_cons_iff {turn : Turn} {tr : List Turn} :
    Faulted (turn :: tr) ↔ (∃ f, turn.2 = .error f) ∨ Faulted tr := by simp [Faulted]

/-! ## Paths -/

theorem idPath_ne_namePath (id name : String) : Group.idPath id ≠ Group.namePath name := by
  intro h
  have := congrArg String.toList h
  simp [Group.idPath, Group.namePath, Group.collectionPath] at this

theorem idPath_ne_collectionPath (id : String) : Group.idPath id ≠ Group.collectionPath := by
  intro h
  have := congrArg String.toList h
  simp [Group.idPath, Group.collectionPath] at this

theorem not_teaches_read {id i : String} {reply : Vault.Reply} :
    ¬ Teaches i ⟨.read (Group.idPath id), reply⟩ := by
  rintro ⟨⟨body, h⟩ | ⟨name, h⟩, _⟩
  · cases h
  · exact idPath_ne_namePath id name (Vault.Request.read.inj h)

theorem not_teaches_update {id i : String} {body : Json} {reply : Vault.Reply} :
    ¬ Teaches i ⟨.write (Group.idPath id) body, reply⟩ := by
  rintro ⟨⟨body, h⟩ | ⟨name, h⟩, _⟩
  · exact idPath_ne_collectionPath id (Vault.Request.write.inj h).1
  · cases h

theorem not_teaches_delete {id i : String} {reply : Vault.Reply} :
    ¬ Teaches i ⟨.delete (Group.idPath id), reply⟩ := by
  rintro ⟨⟨body, h⟩ | ⟨name, h⟩, _⟩ <;> cases h

theorem filled?_eq_some_iff {s : Option String} {id : String} :
    filled? s = some id ↔ s = some id ∧ id ≠ "" := by
  simp only [filled?, Option.filter_eq_some_iff, decide_eq_true_eq, ne_eq]

/-! ## What a turn teaches -/

/-- A create teaches the id that it is answered with, if that is a text and not empty. -/
theorem teaches_create_iff {id : String} {body : Json} {response : Option Vault.Secret} :
    Teaches id ⟨.write Group.collectionPath body, .ok response⟩ ↔
      filled? (response.bind (·.text? "id")) = some id := by
  rw [filled?_eq_some_iff]
  constructor
  · rintro ⟨_, secret, h, ht, hne⟩
    cases h
    exact ⟨ht, hne⟩
  · rintro ⟨ht, hne⟩
    obtain ⟨secret, rfl, ht⟩ := Option.bind_eq_some_iff.1 ht
    exact ⟨.inl ⟨body, rfl⟩, secret, rfl, ht, hne⟩

theorem hasPayload_of_text? {secret : Vault.Secret} {k t : String} (h : secret.text? k = some t) :
    secret.hasPayload := by
  obtain ⟨j, hj, _⟩ := Option.bind_eq_some_iff.1 h
  obtain ⟨d, hd, hf⟩ := Option.bind_eq_some_iff.1 hj
  simp only [Vault.Secret.hasPayload, hd, Option.any_some, Bool.not_eq_true', Dict.isEmpty]
  cases hn : d.entries with
  | nil => simp [Dict.find?, Entries.find?, hn] at hf
  | cons => rfl

/-- A look-up teaches the id that it finds. -/
theorem teaches_lookup_iff {id name : String} {reply : Vault.Reply} :
    Teaches id ⟨.read (Group.namePath name), reply⟩ ↔ found name reply = .ok (some id) := by
  constructor
  · rintro ⟨_, secret, h, ht, hne⟩
    cases h
    have hp : payload? (some secret) = some secret := by
      simp [payload?, hasPayload_of_text? ht]
    simp only [found, hp, filled?_eq_some_iff.2 ⟨ht, hne⟩]
  · intro h
    cases reply with
    | error f => cases h
    | ok response =>
      cases hp : payload? response with
      | none => simp [found, hp] at h
      | some secret =>
        have hs : response = some secret := by
          simp only [payload?, Option.filter_eq_some_iff] at hp
          exact hp.1
        cases hid : filled? (secret.text? "id") with
        | none => simp [found, hp, hid] at h
        | some id' =>
          simp only [found, hp, hid, Except.ok.injEq, Option.some.injEq] at h
          subst h
          obtain ⟨ht, hne⟩ := filled?_eq_some_iff.1 hid
          exact ⟨.inr ⟨name, rfl⟩, secret, hs ▸ rfl, ht, hne⟩

theorem ne_error_of_found {name : String} {reply : Vault.Reply} {o : Option String}
    (h : found name reply = .ok o) (f : Vault.Failure) : reply ≠ .error f := by
  rintro rfl
  cases h

/-! ## Where a course ends -/

/-- A course that knew of `id` ends holding it, unless the group is gone, in which case a read said so
and no request failed. -/
def Settles (id : String) (tr : List Turn) (gone : Prop) (s : GroupState) : Prop :=
  (s.id = some id ∧ ¬ gone) ∨ (s.id = none ∧ gone ∧ Vanished tr ∧ ¬ Faulted tr)

theorem Settles.cons {id : String} {turn : Turn} {tr : List Turn} {gone gone' : Prop} {s : GroupState}
    (h : Settles id tr gone s) (hg : gone ↔ gone') (ht : ∀ f, turn.2 ≠ .error f) :
    Settles id (turn :: tr) gone' s := by
  rcases h with ⟨hid, hn⟩ | ⟨hid, hgone, hv, hf⟩
  · exact .inl ⟨hid, fun h => hn (hg.2 h)⟩
  · refine .inr ⟨hid, hg.1 hgone, vanished_cons hv, fun h => ?_⟩
    rcases faulted_cons_iff.1 h with ⟨f, hf'⟩ | h
    · exact ht f hf'
    · exact hf h

theorem Settles.id_eq {id : String} {tv : List Turn} {gone : Prop} {s : GroupState}
    (h : Settles id tv gone s) (hg : ¬ gone) : s.id = some id := by
  rcases h with ⟨hid, _⟩ | ⟨_, hgone, _⟩
  · exact hid
  · exact absurd hgone hg

variable {g : Group} {s' : GroupState} {tr : List Turn}

theorem Reading.learnt {id i : String} {res : Except Error Outcome} (h : Reading id g tr res s') :
    ¬ Learnt tr i := by
  cases h <;> simpa [Learnt] using not_teaches_read

theorem Reading.settles {id : String} {res : Except Error Outcome} (h : Reading id g tr res s') :
    Settles id tr (res = .ok .gone) s' := by
  cases h with
  | failed => exact .inl ⟨rfl, by simp⟩
  | skipped => exact .inl ⟨rfl, by simp⟩
  | gone hp =>
    refine .inr ⟨rfl, rfl, ⟨_, List.mem_singleton_self _, ⟨id, rfl⟩, _, rfl, hp⟩, ?_⟩
    simp [Faulted]
  | malformed => exact .inl ⟨rfl, by simp⟩
  | refreshed => exact .inl ⟨rfl, by simp⟩

theorem Reading.gone_iff {id : String} {res : Except Error Outcome} (h : Reading id g tr res s') :
    res = .ok .gone ↔ s'.id = none := by
  rcases h.settles with ⟨hid, hg⟩ | ⟨hid, hg, _⟩
  · simp [hid, hg]
  · simp [hid, hg]

theorem Updating.learnt {id i : String} {res : Except Error Outcome} (h : Updating id g tr res s') :
    ¬ Learnt tr i := by
  cases h with
  | rejected => simpa [Learnt] using not_teaches_update
  | sent h =>
    intro hl
    rcases learnt_cons_iff.1 hl with hl | hl
    · exact not_teaches_update hl
    · exact h.learnt hl

theorem Updating.settles {id : String} {res : Except Error Outcome} (h : Updating id g tr res s') :
    Settles id tr (res = .ok .gone) s' := by
  cases h with
  | rejected => exact .inl ⟨rfl, by simp⟩
  | sent h => exact h.settles.cons Iff.rfl (by simp)

inductive Learning (tr : List Turn) (s s' : GroupState) (gone failed : Prop) : Prop
  | nothing (hf : failed) (hs : s' = s) (hl : ∀ i, ¬ Learnt tr i)
  | taught {id : String} (hl : ∀ i, Learnt tr i ↔ i = id) (h : Settles id tr gone s')

theorem learnt_single {turn : Turn} {rest : List Turn} {id : String} (hrest : ∀ i, ¬ Learnt rest i)
    (ht : ∀ i, Teaches i turn ↔ some id = some i) (i : String) : Learnt (turn :: rest) i ↔ i = id := by
  rw [learnt_cons_iff, ht, Option.some_inj]
  exact ⟨fun h => h.elim Eq.symm (absurd · (hrest i)), fun h => .inl h.symm⟩

theorem not_learnt_lookup {s : GroupState} {response : Option Vault.Secret} {reply : Vault.Reply}
    (hid : filled? (response.bind (·.text? "id")) = none) (hf : ∀ id, found s.group.name reply ≠ .ok (some id))
    (i : String) : ¬ Learnt [⟨.write Group.collectionPath s.group.createBody, .ok response⟩,
      ⟨.read (Group.namePath s.group.name), reply⟩] i := by
  rw [learnt_cons_iff, learnt_cons_iff, teaches_create_iff, teaches_lookup_iff, hid]
  simp [learnt_nil_iff, hf]

theorem Creating.learning {s : GroupState} {res : Except Error String} (h : Creating s tr res s') :
    Learning tr s s' (s'.id = none ∧ ∃ id, res = .ok id) (∃ e, res = .error e) := by
  cases h with
  | rejected =>
    refine .nothing ⟨_, rfl⟩ rfl fun i => ?_
    rintro ⟨turn, ht, h⟩
    rw [List.mem_singleton.1 ht] at h
    obtain ⟨_, _, h, _⟩ := h
    cases h
  | answered hid h =>
    refine .taught (learnt_single (fun i => h.learnt) fun i => teaches_create_iff.trans (by rw [hid])) ?_
    refine h.settles.cons ⟨?_, fun hg => h.gone_iff.2 hg.1⟩ (by simp)
    rintro rfl
    exact ⟨h.gone_iff.1 rfl, _, rfl⟩
  | unfound hid hf => exact .nothing ⟨_, rfl⟩ rfl (not_learnt_lookup hid (by simp [hf]))
  | lost hid hf => exact .nothing ⟨_, rfl⟩ rfl (not_learnt_lookup hid (by simp [hf]))
  | lookedUp hid hf h =>
    have hl := learnt_single (fun i => h.learnt) fun i => teaches_lookup_iff.trans (by rw [hf, Except.ok.injEq])
    refine .taught (fun i => ?_) ((h.settles.cons Iff.rfl (ne_error_of_found hf)).cons ?_ (by simp))
    · rw [learnt_cons_iff, teaches_create_iff, hid, hl i]
      simp
    · refine ⟨?_, fun hg => h.gone_iff.2 hg.1⟩
      rintro rfl
      exact ⟨h.gone_iff.1 rfl, _, rfl⟩

theorem Claiming.learning {replaced : Option String} {s : GroupState} {res : Except Error Report}
    (h : Claiming replaced s tr res s') (hs : s.id = none) :
    Learning tr s s' (∃ action, res = .ok ⟨action, .gone⟩) (∃ e, res = .error e) := by
  cases h with
  | failed hf =>
    refine .nothing ⟨_, rfl⟩ rfl fun i => ?_
    rw [learnt_cons_iff, teaches_lookup_iff, hf]
    simp [learnt_nil_iff]
  | @adopted _ _ _ res _ hf h =>
    refine .taught (learnt_single (fun i => h.learnt)
      fun i => teaches_lookup_iff.trans (by rw [hf, Except.ok.injEq])) ?_
    refine h.settles.cons ?_ (ne_error_of_found hf)
    cases res <;> simp [Except.map]
  | @created reply tr res _ hf h =>
    have hnone : ∀ i, Learnt (⟨.read (Group.namePath s.group.name), reply⟩ :: tr) i ↔ Learnt tr i := by
      intro i
      rw [learnt_cons_iff, teaches_lookup_iff, hf]
      simp
    cases h.learning with
    | nothing hfail hsame hl =>
      obtain ⟨e, rfl⟩ := hfail
      exact .nothing ⟨e, rfl⟩ hsame fun i hi => hl i ((hnone i).1 hi)
    | taught hl hset =>
      refine .taught (fun i => (hnone i).trans (hl i)) (hset.cons ?_ (ne_error_of_found hf))
      cases res <;> cases s'.id <;> simp [Except.map]

/-- What becomes of the id of a group in a pass: it was never known, or it was learnt, or it was the one
tracked. -/
inductive Fate (tracked : Option Tracked) (tr : List Turn) (res : Except Error Report) (s' : GroupState) :
    Prop
  | unknown (hres : ∃ e, res = .error e) (hid : s'.id = none) (hl : ∀ i, ¬ Learnt tr i)
  | learnt {id : String} (hl : ∀ i, Learnt tr i ↔ i = id)
      (h : Settles id tr (∃ action, res = .ok ⟨action, .gone⟩) s')
  | kept {t : Tracked} (ht : tracked = some t) (hl : ∀ i, ¬ Learnt tr i)
      (h : Settles t.id tr (∃ action, res = .ok ⟨action, .gone⟩) s')

theorem Learning.fate {tracked : Option Tracked} {res : Except Error Report} {s : GroupState}
    (h : Learning tr s s' (∃ action, res = .ok ⟨action, .gone⟩) (∃ e, res = .error e)) (hs : s.id = none) :
    Fate tracked tr res s' := by
  cases h with
  | nothing hf hsame hl => exact .unknown hf (hsame ▸ hs) hl
  | taught hl h => exact .learnt hl h

theorem Passing.fate {tracked : Option Tracked} {specChanged : Bool} {res : Except Error Report}
    (h : Passing g tracked specChanged tr res s') : Fate tracked tr res s' := by
  cases h with
  | claimed h => exact (h.learning rfl).fate rfl
  | undeleted ht =>
    refine .unknown ⟨_, rfl⟩ rfl fun i => ?_
    rw [learnt_cons_iff]
    simp [learnt_nil_iff, not_teaches_delete]
  | @replaced t _ response tr _ _ ht h =>
    have hnone : ∀ i, Learnt (⟨.delete (Group.idPath t.id), .ok response⟩ :: tr) i ↔ Learnt tr i := by
      intro i
      rw [learnt_cons_iff]
      simp [not_teaches_delete]
    cases (h.learning rfl).fate rfl with
    | unknown hres hid hl => exact .unknown hres hid fun i hi => hl i ((hnone i).1 hi)
    | learnt hl hset => exact .learnt (fun i => (hnone i).trans (hl i)) (hset.cons Iff.rfl (by simp))
    | kept ht hl hset => exact .kept ht (fun i hi => hl i ((hnone i).1 hi)) (hset.cons Iff.rfl (by simp))
  | @updated _ _ res _ ht h =>
    refine .kept rfl (fun i => h.learnt) ?_
    have hg : (∃ action, res.map (Report.mk .updated) = .ok ⟨action, .gone⟩) ↔ res = .ok .gone := by
      cases res <;> simp [Except.map]
    rw [hg]
    exact h.settles
  | @refreshed _ _ res _ ht h =>
    refine .kept rfl (fun i => h.learnt) ?_
    have hg : (∃ action, res.map (Report.mk .refreshed) = .ok ⟨action, .gone⟩) ↔ res = .ok .gone := by
      cases res <;> simp [Except.map]
    rw [hg]
    exact h.settles

end IdentityGroups.Sync
