import Mathlib
import IdentityGroups.Proofs.Program.Cut
import IdentityGroups.Proofs.Vault.Contents

/-! # A store at work

A store with no failures laid out answers each request from its groups alone: what it logs decides
nothing. The requests that the operator sends are answered here, one equation for each.
-/

namespace IdentityGroups.Vault.Store
open Program
variable {α : Type} {s t : Store} {id name : String}

/-- Answers a request without a look at what is laid out, and without a log. -/
def serve (r : Request) (s : Store) : Reply × Store := s.perform r

/-! ## Log and failures decide nothing -/

def noting (s : Store) (log : List Request) (traps : List Trap) : Store := { s with log, traps }

theorem takeId_noting (s : Store) (log : List Request) (traps : List Trap) :
    (s.noting log traps).takeId = (s.takeId.1, s.takeId.2.noting log traps) := by
  unfold takeId noting
  cases s.nextIds <;> rfl

theorem create_noting (s : Store) (log : List Request) (traps : List Trap) (body : Json) :
    (s.noting log traps).create body = ((s.create body).1, (s.create body).2.noting log traps) := by
  unfold create
  cases createTarget body with
  | error e => rfl
  | ok asked =>
    obtain ⟨name, kind⟩ := asked
    have hd : (s.noting log traps).discardsCreates = s.discardsCreates := rfl
    have hn : (s.noting log traps).idForName? name = s.idForName? name := rfl
    have hg : (s.noting log traps).groups = s.groups := rfl
    simp only [hd, hn, hg, takeId_noting]
    split
    · rfl
    · cases s.idForName? name with
      | none => rfl
      | some id =>
        simp only
        cases s.groups.find? id <;> rfl

theorem serve_noting (r : Request) (s : Store) (log : List Request) (traps : List Trap) :
    serve r (s.noting log traps) = ((serve r s).1, (serve r s).2.noting log traps) := by
  have hn : ∀ name, (s.noting log traps).idForName? name = s.idForName? name := fun _ => rfl
  have hg : (s.noting log traps).groups = s.groups := rfl
  unfold serve perform
  simp only [hn, hg, create_noting]
  split
  · rfl
  · split <;> rfl
  · rfl
  · split <;> rfl
  · rfl
  · rfl

/-- What is served leaves the log and the failures as they are. -/
theorem serve_noted (r : Request) (s : Store) : (serve r s).2 = (serve r s).2.noting s.log s.traps :=
  congrArg Prod.snd (serve_noting r s s.log s.traps)

theorem serve_log (r : Request) (s : Store) : (serve r s).2.log = s.log := by
  rw [serve_noted]
  rfl

theorem serve_traps (r : Request) (s : Store) : (serve r s).2.traps = s.traps := by
  rw [serve_noted]
  rfl

theorem serve_clearLog (r : Request) (s : Store) :
    serve r s.clearLog = ((serve r s).1, (serve r s).2.clearLog) := by
  have hclear : (serve r s).2.noting [] s.traps = (serve r s).2.clearLog := by
    rw [← serve_traps r s]
    rfl
  exact (serve_noting r s [] s.traps).trans (by rw [hclear])

theorem takeId_clearLog (s : Store) : s.clearLog.takeId = (s.takeId.1, s.takeId.2.clearLog) := by
  unfold takeId clearLog
  cases s.nextIds <;> rfl

/-- A request meets a failure that is laid out, or is served. -/
theorem answer_cases (r : Request) (s : Store) :
    (∃ f traps, answer r s = (.error f, { s with log := s.log ++ [r], traps })) ∨
      answer r s = serve r { s with log := s.log ++ [r] } := by
  simp only [answer]
  cases Trap.spring r s.traps with
  | none => exact .inr rfl
  | some sprung => exact .inl ⟨sprung.1, sprung.2, rfl⟩

theorem answer_of_no_traps (h : s.traps = []) (request : Request) :
    answer request s = serve request { s with log := s.log ++ [request] } := by
  simp only [answer, h, Trap.spring]
  rfl

def Quiet (s t : Store) : Prop := s.traps = [] ∧ s.clearLog = t

theorem quiet_answer (r : Request) (s t : Store) (h : Quiet s t) :
    (answer r s).1 = (serve r t).1 ∧ Quiet (answer r s).2 (serve r t).2 := by
  obtain ⟨ht, rfl⟩ := h
  have ha := answer_of_no_traps ht r
  have hc : serve r s.clearLog = _ := serve_clearLog r { s with log := s.log ++ [r] }
  rw [ha, hc]
  exact ⟨rfl, (serve_traps r _).trans ht, rfl⟩

/-- A run depends on the groups, whatever was logged. -/
theorem run_answer (p : Program (fun _ : Request => Reply) α) (ht : s.traps = []) :
    (p.run answer s).1 = (p.run serve s.clearLog).1 ∧
      Quiet (p.run answer s).2 (p.run serve s.clearLog).2 := run_related quiet_answer p ⟨ht, rfl⟩

theorem runFor_answer (k : Nat) (p : Program (fun _ : Request => Reply) α) (ht : s.traps = []) :
    Quiet (p.runFor answer k s) (p.runFor serve k s.clearLog) := runFor_related quiet_answer k p ⟨ht, rfl⟩

/-- A failure that is laid out for the request is its answer, and no more comes of it. -/
theorem quiet_failNext (f : Failure) (r : Request) (s t : Store) (h : Quiet s t) :
    (answer r (s.failNext r.method f)).1 = .error f ∧ Quiet (answer r (s.failNext r.method f)).2 t := by
  obtain ⟨ht, rfl⟩ := h
  have ha : answer r (s.failNext r.method f) = (.error f, { s with log := s.log ++ [r], traps := [] }) := by
    simp [answer, failNext, ht, Trap.spring, Trap.meets]
  rw [ha]
  refine ⟨rfl, rfl, ?_⟩
  simp only [clearLog, ht]

theorem Quiet.groups_eq (h : Quiet s t) : s.groups = t.groups := by
  obtain ⟨_, rfl⟩ := h
  rfl

/-! ## The requests of the operator -/

@[simp] theorem serve_read_id (hid : Addressable id) (s : Store) :
    serve (.read (Group.idPath id)) s = (.ok ((s.groups.find? id).map readView), s) := by
  simp only [serve, perform, Request.path, target_idPath hid]

@[simp] theorem serve_read_name (hn : name ≠ "") (s : Store) : serve (.read (Group.namePath name)) s =
    (.ok (((s.idForName? name).bind s.groups.find?).map readView), s) := by
  simp only [serve, perform, Request.path, target_namePath hn, Text.Percent.decode_encode]

theorem serve_update (hid : Addressable id) (s : Store) (g : Group) :
    serve (.write (Group.idPath id) g.updateBody) s =
      match s.groups.find? id with
      | none => (.error (.api 400 ["group not found"]), s)
      | some stored => (.ok none, s.put id (sent g stored)) := by
  simp only [serve, perform, Request.path, target_idPath hid]
  cases s.groups.find? id <;> rfl

@[simp] theorem serve_delete (hid : Addressable id) (s : Store) :
    serve (.delete (Group.idPath id)) s = (.ok none, s.drop id) := by
  simp only [serve, perform, Request.path, target_idPath hid]
  rfl

/-- A probe takes no group out, whatever failure it meets. -/
theorem groups_answer_read (hid : Addressable id) (s : Store) :
    (answer (.read (Group.idPath id)) s).2.groups = s.groups := by
  rcases answer_cases (.read (Group.idPath id)) s with ⟨f, traps, h⟩ | h
  · rw [h]
  · rw [h, serve_read_id hid]

/-- A probe that is answered tells whether the group is there. -/
theorem answer_read_ok (hid : Addressable id) {response : Option Secret}
    (h : .ok response = (answer (.read (Group.idPath id)) s).1) :
    response = (s.groups.find? id).map readView := by
  rcases answer_cases (.read (Group.idPath id)) s with ⟨f, traps, ha⟩ | ha
  · rw [ha] at h
    cases h
  · rw [ha, serve_read_id hid] at h
    cases h
    rfl

/-- A delete that fails meets a failure that is laid out, and takes no group out. -/
theorem groups_answer_delete_error (hid : Addressable id) {f : Failure}
    (h : .error f = (answer (.delete (Group.idPath id)) s).1) :
    (answer (.delete (Group.idPath id)) s).2.groups = s.groups := by
  rcases answer_cases (.delete (Group.idPath id)) s with ⟨f', traps, ha⟩ | ha
  · rw [ha]
  · rw [ha, serve_delete hid] at h
    cases h

theorem groups_answer_delete_ok (hid : Addressable id) {response : Option Secret}
    (h : .ok response = (answer (.delete (Group.idPath id)) s).1) :
    (answer (.delete (Group.idPath id)) s).2.groups = (s.drop id).groups := by
  rcases answer_cases (.delete (Group.idPath id)) s with ⟨f, traps, ha⟩ | ha
  · rw [ha] at h
    cases h
  · rw [ha, serve_delete hid]
    rfl

def OnlyAt (id : String) (before after : Store) : Prop :=
  ∀ other, other ≠ id → after.groups.find? other = before.groups.find? other

theorem onlyAt_of_groups {before after : Store} (h : after.groups = before.groups) :
    OnlyAt id before after := by
  intro other _
  rw [h]

theorem createTarget_createBody {g : Group} (hg : g.name ≠ "") :
    createTarget g.createBody = .ok (g.name, g.kind.word) := by
  have hname : g.createBody.member? "name" = some (.str g.name) := by
    rw [Group.member?_createBody]
    rfl
  have htype : g.createBody.member? "type" = some (.str g.kind.word) := by
    rw [Group.member?_createBody]
    rfl
  have hkind : g.kind.word = "internal" ∨ g.kind.word = "external" := by
    cases g.kind
    · exact .inl rfl
    · exact .inr rfl
  simp only [createTarget, hname, htype, Option.bind_some, Json.text?, if_neg hg, Option.getD_some,
    if_pos hkind]

/-- A group of a name not in use is stored under the next id, which is the answer. -/
theorem serve_create {g : Group} (hg : g.name ≠ "") (hd : s.discardsCreates = false)
    (hn : s.idForName? g.name = none) :
    serve (.write Group.collectionPath g.createBody) s =
      (.ok (some (.withData (.ofList [("id", .str s.takeId.1), ("name", .str g.name)]))),
        s.takeId.2.put s.takeId.1 (made s.takeId.1 g)) := by
  simp only [serve, perform, Request.path, target_collectionPath, create, createTarget_createBody hg, hd, hn,
    mergeBody_createBody]
  rfl

/-- The answer is read for the id. -/
theorem text?_answered (id name : String) :
    (Secret.withData (.ofList [("id", .str id), ("name", .str name)])).text? "id" = some id := by
  have hf : (Dict.ofList [("id", Json.str id), ("name", .str name)]).find? "id" = some (.str id) :=
    Dict.find?_ofList "id" (by simp [Entries.Distinct])
  exact congrArg (Option.bind · Json.text?) hf

/-- A create under a name in use is an update, and answers no id. -/
theorem serve_create_held {g : Group} {stored : Stored} (hg : g.name ≠ "") (hd : s.discardsCreates = false)
    (hn : s.idForName? g.name = some id) (hf : s.groups.find? id = some stored) :
    serve (.write Group.collectionPath g.createBody) s = (.ok none, s.put id (sent g stored)) := by
  have hd' : ¬ s.discardsCreates = true := by simp [hd]
  simp only [serve, perform, Request.path, target_collectionPath, create, createTarget_createBody hg,
    if_neg hd', hn, hf, mergeBody_createBody]
  rfl

theorem takeId_groups (s : Store) : s.takeId.2.groups = s.groups := by
  unfold takeId
  cases s.nextIds <;> rfl

theorem takeId_discardsCreates (s : Store) : s.takeId.2.discardsCreates = s.discardsCreates := by
  unfold takeId
  cases s.nextIds <;> rfl

theorem takeId_drop (s : Store) (id : String) : (s.drop id).takeId.1 = s.takeId.1 := by
  unfold takeId drop
  cases s.nextIds <;> rfl

theorem takeId_put (s : Store) (id : String) (stored : Stored) : (s.put id stored).takeId.1 = s.takeId.1 := by
  unfold takeId put
  cases s.nextIds <;> rfl

/-- A well-formed store that is not told to fail or to drop what it should create, and whose next id is
not in use. -/
structure Working (s : Store) : Prop where
  wellFormed : WellFormed s
  traps : s.traps = []
  creates : s.discardsCreates = false
  addressable : Addressable s.takeId.1
  unused : s.groups.find? s.takeId.1 = none

theorem Working.clearLog (h : Working s) : Working s.clearLog where
  wellFormed := h.wellFormed.of_groups rfl
  traps := h.traps
  creates := h.creates
  addressable := by
    rw [takeId_clearLog]
    exact h.addressable
  unused := by
    rw [takeId_clearLog]
    exact h.unused

theorem Working.drop (h : Working s) (id : String) : Working (s.drop id) where
  wellFormed := h.wellFormed.drop id
  traps := h.traps
  creates := h.creates
  addressable := by
    rw [takeId_drop]
    exact h.addressable
  unused := by
    rw [takeId_drop, find?_drop, h.unused, ite_self]

theorem Working.put_sent {stored : Stored} (h : Working s) (hf : s.groups.find? id = some stored) (g : Group) :
    Working (s.put id (sent g stored)) where
  wellFormed := h.wellFormed.put_sent hf g
  traps := h.traps
  creates := h.creates
  addressable := by
    rw [takeId_put]
    exact h.addressable
  unused := by
    have hne : id ≠ s.takeId.1 := by
      rintro rfl
      cases hf.symm.trans h.unused
    rw [takeId_put, find?_put, if_neg hne, h.unused]

end IdentityGroups.Vault.Store
