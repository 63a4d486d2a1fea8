import Mathlib
import IdentityGroups.Proofs.Program.Answered
import IdentityGroups.Proofs.Sync.Faults
import IdentityGroups.Proofs.Sync.Learning

/-! # When a pass leaves a group of the name and the kind

A pass sends a name and a kind only to a create. A group that is tracked, or taken over for its name, keeps
its own, so that whether the group is right after a pass that kept a group was decided before it.
-/

namespace IdentityGroups.Sync
open Program Vault Vault.Store
variable {s t u : Store} {g : Group} {id : String} {tr : List Turn}

def Fits (s : Store) (g : Group) (id : String) : Prop :=
  ∃ stored, s.groups.find? id = some stored ∧ nameOf? stored = some g.name ∧
    stored.find? "type" = some (.str g.kind.word)

theorem fits_congr (h : s.groups = t.groups) (g : Group) (id : String) : Fits s g id ↔ Fits t g id := by
  rw [Fits, Fits, h]

theorem kindSettled_congr (h : s.groups = t.groups) (g : Group) : KindSettled s g ↔ KindSettled t g := by
  rw [KindSettled, KindSettled, h]

/-! ## What a request leaves, whatever its path -/

theorem serve_read_unchanged (path : String) (s : Store) : (serve (.read path) s).2 = s := by
  unfold serve perform
  simp only
  split
  · rfl
  · split <;> rfl
  · rename_i h _
    cases h
  · rename_i h _
    cases h
  · rename_i h _
    cases h
  · rfl

theorem serve_write_id (id : String) (body : Json) (s : Store) :
    (serve (.write (Group.idPath id) body) s).2 = s ∨ ∃ k stored, s.groups.find? k = some stored ∧
      (serve (.write (Group.idPath id) body) s).2 = s.put k (mergeBody stored body) := by
  have hne := target_idPath_ne_collection id
  simp only [serve, perform, Request.path]
  cases htarget : target (normalPath (Group.idPath id)) with
  | collection => exact absurd htarget hne
  | byId k =>
    simp only
    cases hf : s.groups.find? k with
    | none => exact .inl rfl
    | some stored => exact .inr ⟨k, stored, hf, rfl⟩
  | byName encoded => exact .inl rfl
  | other => exact .inl rfl

theorem serve_delete_id (id : String) (s : Store) : (serve (.delete (Group.idPath id)) s).2 = s ∨
    ∃ k, (serve (.delete (Group.idPath id)) s).2 = s.drop k := by
  simp only [serve, perform, Request.path]
  cases htarget : target (normalPath (Group.idPath id)) with
  | byId k => exact .inr ⟨k, rfl⟩
  | collection => exact .inl rfl
  | byName encoded => exact .inl rfl
  | other => exact .inl rfl

/-- A write under an id sets no name and no kind. -/
theorem fits_write (s : Store) (id : String) (body : Json) (g : Group) (i : String) :
    Fits (serve (.write (Group.idPath id) body) s).2 g i ↔ Fits s g i := by
  rcases serve_write_id id body s with h | ⟨k, stored, hf, h⟩
  · rw [h]
  · rw [h, Fits, Fits, find?_put]
    by_cases hk : k = i
    · obtain rfl := hk
      rw [if_pos rfl, hf]
      simp only [Option.some.injEq, exists_eq_left', nameOf?_mergeBody,
        find?_mergeBody_of_not_mem body (show "type" ∉ mutableNames by decide)]
    · rw [if_neg hk]

/-! ## Courses that keep a group -/

theorem Reading.unchanged {res : Except Error Outcome} {state : GroupState} (h : Reading id g tr res state)
    (ha : Answered serve tr s t) : t = s := by
  cases h with
  | failed | skipped | gone | malformed | refreshed =>
    obtain ⟨_, rfl⟩ := ha
    exact serve_read_unchanged _ s

theorem Updating.fits_iff {res : Except Error Outcome} {state : GroupState} (h : Updating id g tr res state)
    (ha : Answered serve tr s t) (i : String) : Fits t g i ↔ Fits s g i := by
  cases h with
  | rejected =>
    obtain ⟨_, rfl⟩ := ha
    exact fits_write s id g.updateBody g i
  | sent h =>
    obtain ⟨_, ha⟩ := answered_cons_iff.1 ha
    obtain rfl := h.unchanged ha
    exact fits_write s id g.updateBody g i

/-! ## Courses that claim a group -/

/-- A group made under an empty id is not found by its name. -/
theorem not_found_made {i : String} (hn : g.name ≠ "") (hfree : u.idForName? g.name = none) (hid : id = "")
    (hf : found g.name (serve (.read (Group.namePath g.name)) (u.takeId.2.put id (made id g))).1 =
      .ok (some i)) : False := by
  rw [serve_read_name hn] at hf
  cases hname : (u.takeId.2.put id (made id g)).idForName? g.name with
  | none =>
    rw [hname] at hf
    cases hf
  | some k =>
    obtain ⟨stored, hstored, hk⟩ := held_of_idForName? hname
    rw [hname, Option.bind_some, hstored] at hf
    rw [find?_put, takeId_groups] at hstored
    split at hstored
    · cases hstored
      have hmade : (made id g).find? "id" = some (.str id) :=
        (find?_sent_of_not_mem g (by decide)).trans (find?_named id g _)
      have hempty : filled? (some id) = none := by simp [filled?, hid]
      simp only [Option.map_some, found, payload?_readView, text?_readView hmade, hempty] at hf
      cases hf
    · exact idForName?_eq_none_iff.1 hfree k stored hstored hk

theorem Creating.fits {state state' : GroupState} {res : Except Error String} (h : Creating state tr res state')
    (ha : Answered serve tr u t) (hd : u.discardsCreates = false) (hn : state.group.name ≠ "")
    (hfree : u.idForName? state.group.name = none) (hok : ∃ i, res = .ok i) (hknown : state'.id.isSome) :
    ∃ id, state'.id = some id ∧ Fits t state.group id := by
  obtain ⟨i, hok⟩ := hok
  have hserve := serve_create hn hd hfree
  have hfits : Fits (u.takeId.2.put u.takeId.1 (made u.takeId.1 state.group)) state.group u.takeId.1 := by
    refine ⟨made u.takeId.1 state.group, ?_, nameOf?_eq_some_iff.2 (find?_name_made _ _), find?_type_made _ _⟩
    rw [find?_put, if_pos rfl]
  have htext : ∀ {response : Option Secret}, .ok response =
      (serve (.write Group.collectionPath state.group.createBody) u).1 →
      response.bind (·.text? "id") = some u.takeId.1 := by
    intro response hresponse
    rw [hserve] at hresponse
    cases hresponse
    exact text?_answered u.takeId.1 state.group.name
  cases h with
  | rejected => cases hok
  | @answered response id tr res state' hid h =>
    obtain ⟨hresponse, ha⟩ := answered_cons_iff.1 ha
    rw [htext hresponse] at hid
    obtain ⟨hid, _⟩ := filled?_eq_some_iff.1 hid
    cases hid
    rw [hserve] at ha
    obtain rfl := h.unchanged ha
    rcases h.settles with ⟨hid, _⟩ | ⟨hid, _⟩
    · exact ⟨_, hid, hfits⟩
    · rw [hid] at hknown
      cases hknown
  | unfound => cases hok
  | lost => cases hok
  | @lookedUp response reply id tr res state' hid hf h =>
    obtain ⟨hresponse, hrest⟩ := answered_cons_iff.1 ha
    obtain ⟨hreply, _⟩ := answered_cons_iff.1 hrest
    rw [htext hresponse] at hid
    have hempty : u.takeId.1 = "" := by
      by_contra hne
      rw [filled?_eq_some_iff.2 ⟨rfl, hne⟩] at hid
      cases hid
    rw [hserve] at hreply
    rw [hreply] at hf
    exact (not_found_made hn hfree hempty hf).elim

theorem fits_iff_kindSettled (hu : WellFormed u) (h : u.idForName? g.name = some id) :
    Fits u g id ↔ KindSettled u g := by
  obtain ⟨stored, hf, hn⟩ := held_of_idForName? h
  constructor
  · rintro ⟨stored', hf', _, hkind⟩ k other hother hname
    obtain rfl := hu.unique hother hf (hname.trans hn.symm)
    cases hother.symm.trans hf'
    exact hkind
  · intro hk
    exact ⟨stored, hf, hn, hk id stored hf hn⟩

theorem Claiming.fits_iff {replaced : Option String} {res : Except Error Report} {report : Report}
    {state : GroupState} (h : Claiming replaced ⟨none, g⟩ tr res state) (ha : Answered serve tr u t)
    (hu : WellFormed u) (hd : u.discardsCreates = false) (hn : g.name ≠ "") (hres : res = .ok report)
    (hgone : report.outcome ≠ .gone) : ∃ id, state.id = some id ∧ (Fits t g id ↔ KindSettled u g) := by
  cases h with
  | failed hf => cases hres
  | @adopted reply id tr res state hf h =>
    obtain ⟨hreply, ha⟩ := answered_cons_iff.1 ha
    rw [serve_read_unchanged] at ha
    rw [hreply, found_served hu.indexed hn] at hf
    have hname : u.idForName? g.name = some id := Except.ok.inj hf
    have hnot : ¬ res = .ok .gone := by
      rintro rfl
      cases hres
      exact hgone rfl
    exact ⟨id, h.settles.id_eq hnot, (h.fits_iff ha id).trans (fits_iff_kindSettled hu hname)⟩
  | @created reply tr res state hf h =>
    obtain ⟨hreply, ha⟩ := answered_cons_iff.1 ha
    rw [serve_read_unchanged] at ha
    rw [hreply, found_served hu.indexed hn] at hf
    have hfree : u.idForName? g.name = none := Except.ok.inj hf
    cases res with
    | error e => cases hres
    | ok i =>
      cases hres
      have hknown : state.id.isSome := by
        by_contra hnone
        exact hgone (if_neg hnone)
      obtain ⟨id, hid, hfits⟩ := h.fits ha hd hn hfree ⟨i, rfl⟩ hknown
      have hsettled : KindSettled u g := by
        intro k stored hf hname
        exact absurd hname (idForName?_eq_none_iff.1 hfree k stored hf)
      exact ⟨id, hid, iff_of_true hfits hsettled⟩

/-! ## The whole pass -/

/-- What is stored before a pass suits it: a group that it keeps has the name and the kind, and where it
claims one, whatever group has the name has the kind. -/
def Suits (s : Store) (g : Group) : Option Tracked → Prop
  | none => KindSettled s g
  | some x =>
    if g.mustReplace x then KindSettled (serve (.delete (Group.idPath x.id)) s).2 g else Fits s g x.id

theorem suits_clearLog (s : Store) (g : Group) (tracked : Option Tracked) :
    Suits s.clearLog g tracked ↔ Suits s g tracked := by
  cases tracked with
  | none => exact kindSettled_congr rfl g
  | some x =>
    have hgroups : (serve (.delete (Group.idPath x.id)) s.clearLog).2.groups =
        (serve (.delete (Group.idPath x.id)) s).2.groups := by
      rw [serve_clearLog]
      generalize serve (.delete (Group.idPath x.id)) s = res
      rfl
    simp only [Suits]
    rw [kindSettled_congr hgroups g, fits_congr (show s.clearLog.groups = s.groups from rfl) g x.id]

/-- After a pass that does not find its group gone the group is right just when what was stored suited it. -/
theorem Passing.fits_iff {tracked : Option Tracked} {specChanged : Bool} {res : Except Error Report}
    {report : Report} {state : GroupState} (h : Passing g tracked specChanged tr res state)
    (ha : Answered serve tr s t) (hs : WellFormed s) (hd : s.discardsCreates = false) (hn : g.name ≠ "")
    (hres : res = .ok report) (hgone : report.outcome ≠ .gone) :
    ∃ id, state.id = some id ∧ (Fits t g id ↔ Suits s g tracked) := by
  cases h with
  | claimed h => exact h.fits_iff ha hs hd hn hres hgone
  | undeleted => cases hres
  | @replaced x specChanged response tr res state ht h =>
    obtain ⟨_, ha⟩ := answered_cons_iff.1 ha
    rw [Suits, if_pos ht]
    rcases serve_delete_id x.id s with hu | ⟨k, hu⟩
    · rw [hu] at ha ⊢
      exact h.fits_iff ha hs hd hn hres hgone
    · rw [hu] at ha ⊢
      exact h.fits_iff ha (hs.drop k) hd hn hres hgone
  | @updated x tr res state ht h =>
    have hnot : ¬ res = .ok .gone := by
      rintro rfl
      cases hres
      exact hgone rfl
    rw [Suits, if_neg (by simp [ht])]
    exact ⟨x.id, h.settles.id_eq hnot, h.fits_iff ha x.id⟩
  | @refreshed x tr res state ht h =>
    have hnot : ¬ res = .ok .gone := by
      rintro rfl
      cases hres
      exact hgone rfl
    rw [Suits, if_neg (by simp [ht])]
    obtain rfl := h.unchanged ha
    exact ⟨x.id, h.settles.id_eq hnot, Iff.rfl⟩

end IdentityGroups.Sync
