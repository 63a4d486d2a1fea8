import Mathlib
import IdentityGroups.Proofs.Vault.Naming

/-! # What is done to a store

A store comes from the empty one by acts, each of which asks it something or arranges it. An act leaves the
groups alone, takes one out, sets attributes of one that is there, or adds one under the next id; only an
arrangement stores a group under an id of its choice.
-/

namespace IdentityGroups.Vault.Store

inductive Act where
  | ask (r : Request)
  | removeGroup (id : String)
  | failNext (method : Method) (failure : Failure)
  | failPath (method : Method) (path : String) (failure : Failure)
  | discardCreates
  | clearLog
  | assignNextId (id : String)
  | insertGroup (id : String) (attributes : Json)

def createdId? : Request → Reply → Option String
  | .write path _, .ok (some secret) =>
    if target (normalPath path) = .collection then secret.text? "id" else none
  | _, _ => none

namespace Act

def on : Act → Store → Store
  | ask r, s => (s.answer r).2
  | removeGroup id, s => (s.removeGroup id).2
  | failNext method failure, s => s.failNext method failure
  | failPath method path failure, s => s.failPath method path failure
  | discardCreates, s => s.discardCreates
  | clearLog, s => s.clearLog
  | assignNextId id, s => s.assignNextId id
  | insertGroup id attributes, s => s.insertGroup id attributes

def givesIds : Act → Bool
  | assignNextId _ | insertGroup .. => true
  | _ => false

def created? : Act → Store → Option String
  | ask r, s => createdId? r (s.answer r).1
  | _, _ => none

end Act

def after (acts : List Act) (s : Store) : Store := acts.foldl (fun s a => a.on s) s

def createdIds : List Act → Store → List String
  | [], _ => []
  | a :: acts, s => (a.created? s).toList ++ createdIds acts (a.on s)

variable {s t : Store} {id name kind : String} {stored : Stored} {body : Json}

theorem after_append (acts acts' : List Act) (s : Store) :
    after (acts ++ acts') s = after acts' (after acts s) := List.foldl_append

/-! ## What an act changes -/

def begun (id name kind : String) : Stored :=
  .ofList [("id", .str id), ("name", .str name), ("type", .str kind)]

theorem find?_begun (id name kind k : String) : (begun id name kind).find? k =
    Entries.find? k [("id", Json.str id), ("name", .str name), ("type", .str kind)] :=
  Dict.find?_ofList k (by simp [Entries.Distinct])

def createAnswer (id name : String) : Secret := .withData (.ofList [("id", .str id), ("name", .str name)])

inductive Creates (s : Store) (body : Json) : Reply × Store → Prop
  | nothing {reply : Reply} (h : ∀ secret, reply ≠ .ok (some secret)) : Creates s body (reply, s)
  | sets {name kind id : String} {stored : Stored} (ht : createTarget body = .ok (name, kind))
      (hn : s.idForName? name = some id) (hf : s.groups.find? id = some stored) :
      Creates s body (.ok none, s.put id (mergeBody stored body))
  | adds {name kind : String} (ht : createTarget body = .ok (name, kind)) (hn : s.idForName? name = none) :
      Creates s body (.ok (some (createAnswer s.takeId.1 name)),
        s.takeId.2.put s.takeId.1 (mergeBody (begun s.takeId.1 name kind) body))

theorem create_cases (s : Store) (body : Json) : Creates s body (s.create body) := by
  unfold create
  cases ht : createTarget body with
  | error e => exact .nothing (by simp)
  | ok asked =>
    obtain ⟨name, kind⟩ := asked
    by_cases hd : s.discardsCreates = true
    · simp only [if_pos hd]
      exact .nothing (by simp)
    · simp only [if_neg hd]
      cases hn : s.idForName? name with
      | none => exact .adds ht hn
      | some id =>
        obtain ⟨stored, hf, -⟩ := held_of_idForName? hn
        simp only [hf]
        exact .sets ht hn hf

/-- The groups of `t` and the ids that it is to give, in terms of those of `s` before an act, and the id that
the act gives. -/
inductive Change (s t : Store) : Option String → Prop
  | kept (hg : t.groups = s.groups) (hn : t.nextIds = s.nextIds) (hc : t.generated = s.generated) :
      Change s t none
  | removed (id : String) (hg : t.groups = (s.drop id).groups) (hn : t.nextIds = s.nextIds)
      (hc : t.generated = s.generated) : Change s t none
  | set {id : String} {stored : Stored} (body : Json) (hf : s.groups.find? id = some stored)
      (hg : t.groups = (s.put id (mergeBody stored body)).groups) (hn : t.nextIds = s.nextIds)
      (hc : t.generated = s.generated) : Change s t none
  | added {name kind : String} {body : Json} (ht : createTarget body = .ok (name, kind))
      (hname : s.idForName? name = none)
      (hg : t.groups = (s.put s.takeId.1 (mergeBody (begun s.takeId.1 name kind) body)).groups)
      (hn : t.nextIds = s.takeId.2.nextIds) (hc : t.generated = s.takeId.2.generated) :
      Change s t (some s.takeId.1)

theorem createdId?_create {path : String} (h : target (normalPath path) = .collection) (id name : String) :
    createdId? (.write path body) (.ok (some (createAnswer id name))) = some id := by
  rw [createdId?, if_pos h]
  exact text?_answered id name

theorem createdId?_eq_none {r : Request} {reply : Reply}
    (h : ∀ path body, r = .write path body → ∀ secret, reply ≠ .ok (some secret)) : createdId? r reply = none := by
  unfold createdId?
  split
  · exact absurd rfl (h _ _ rfl _)
  · rfl

theorem Creates.change {path : String} {result : Reply × Store} (h : Creates s body result)
    (ht : target (normalPath path) = .collection) :
    Change s result.2 (createdId? (.write path body) result.1) := by
  cases h with
  | nothing h =>
    rw [createdId?_eq_none fun _ _ _ => h]
    exact .kept rfl rfl rfl
  | sets _ _ hf => exact .set body hf rfl rfl rfl
  | adds hasked hn =>
    rw [createdId?_create ht]
    refine .added hasked hn ?_ rfl rfl
    rw [put, takeId_groups, put]

theorem serve_change (r : Request) (s : Store) :
    Change s (serve r s).2 (createdId? r (serve r s).1) := by
  unfold serve perform
  simp only
  split
  · exact .kept rfl rfl rfl
  · split
    · exact .kept rfl rfl rfl
    · exact .kept rfl rfl rfl
  · rename_i path body h
    exact (create_cases s body).change h
  · split
    · rw [createdId?_eq_none (by simp)]
      exact .kept rfl rfl rfl
    · rename_i stored hf
      exact .set _ hf rfl rfl rfl
  · exact .removed _ rfl rfl rfl
  · rw [createdId?_eq_none (by simp)]
    exact .kept rfl rfl rfl

theorem Change.of_same {u : Store} {given : Option String} (h : Change s t given) (hg : u.groups = s.groups)
    (hn : u.nextIds = s.nextIds) (hc : u.generated = s.generated) : Change u t given := by
  have hid : u.takeId.1 = s.takeId.1 := by simp only [takeId, hn, hc]; cases s.nextIds <;> rfl
  have hids : u.takeId.2.nextIds = s.takeId.2.nextIds := by simp only [takeId, hn, hc]; cases s.nextIds <;> rfl
  have hcount : u.takeId.2.generated = s.takeId.2.generated := by
    simp only [takeId, hn, hc]; cases s.nextIds <;> rfl
  cases h with
  | kept hg' hn' hc' => exact .kept (hg'.trans hg.symm) (hn'.trans hn.symm) (hc'.trans hc.symm)
  | removed id hg' hn' hc' =>
    refine .removed id (hg'.trans ?_) (hn'.trans hn.symm) (hc'.trans hc.symm)
    rw [drop, drop, hg]
  | set body hf hg' hn' hc' =>
    refine .set body (by rwa [hg]) (hg'.trans ?_) (hn'.trans hn.symm) (hc'.trans hc.symm)
    rw [put, put, hg]
  | added ht hname hg' hn' hc' =>
    rw [← hid]
    refine .added ht (by rwa [idForName?, hg]) (hg'.trans ?_) (hn'.trans hids.symm) (hc'.trans hcount.symm)
    rw [put, put, hg, hid]

theorem answer_change (r : Request) (s : Store) :
    Change s (answer r s).2 (createdId? r (answer r s).1) := by
  rcases answer_cases r s with ⟨f, traps, h⟩ | h
  · rw [h, createdId?_eq_none (by simp)]
    exact .kept rfl rfl rfl
  · rw [h]
    exact (serve_change r _).of_same rfl rfl rfl

theorem Act.change {a : Act} (ha : a.givesIds = false) (s : Store) : Change s (a.on s) (a.created? s) := by
  cases a with
  | ask r => exact answer_change r s
  | removeGroup id => exact .removed id rfl rfl rfl
  | failNext method failure => exact .kept rfl rfl rfl
  | failPath method path failure => exact .kept rfl rfl rfl
  | discardCreates => exact .kept rfl rfl rfl
  | clearLog => exact .kept rfl rfl rfl
  | assignNextId id => cases ha
  | insertGroup id attributes => cases ha

/-! ## Requests that meet no failure -/

/-- No failure that is laid out waits for the request. -/
def Unhindered (s : Store) (r : Request) : Prop := ∀ t ∈ s.traps, t.meets r = false

instance (s : Store) (r : Request) : Decidable (Unhindered s r) := by unfold Unhindered; infer_instance

theorem spring_eq_none_iff {r : Request} {traps : List Trap} :
    Trap.spring r traps = none ↔ ∀ t ∈ traps, t.meets r = false := by
  induction traps with
  | nil => simp [Trap.spring]
  | cons t traps ih =>
    rw [Trap.spring, List.forall_mem_cons]
    cases t.meets r with
    | true => simp
    | false => simp [ih]

theorem answer_unhindered {r : Request} (h : Unhindered s r) :
    answer r s = serve r { s with log := s.log ++ [r] } := by
  simp only [answer, spring_eq_none_iff.2 h]
  rfl

theorem answer_read_byId {path : String} (h : Unhindered s (.read path))
    (ht : target (normalPath path) = .byId id) :
    (answer (.read path) s).1 = .ok ((s.groups.find? id).map readView) := by
  simp only [answer_unhindered h, serve, perform, Request.path, ht]

theorem answer_read_byName {path encoded : String} (h : Unhindered s (.read path))
    (ht : target (normalPath path) = .byName encoded) (hd : Text.Percent.decode encoded = .ok name) :
    (answer (.read path) s).1 = .ok (((s.idForName? name).bind s.groups.find?).map readView) := by
  simp only [answer_unhindered h, serve, perform, Request.path, ht, hd]
  rfl

/-! ## Ids that groups carry -/

def CarriesIds (s : Store) : Prop :=
  ∀ id stored, s.groups.find? id = some stored → stored.find? "id" = some (.str id)

theorem CarriesIds.of_groups (h : CarriesIds s) (hg : t.groups = s.groups) : CarriesIds t := by
  unfold CarriesIds
  rwa [hg]

theorem CarriesIds.put (h : CarriesIds s) (hid : stored.find? "id" = some (.str id)) :
    CarriesIds (s.put id stored) := by
  intro id' stored' hf
  rw [find?_put] at hf
  split at hf
  · rename_i he
    cases hf
    exact he ▸ hid
  · exact h id' stored' hf

theorem CarriesIds.drop (h : CarriesIds s) (id : String) : CarriesIds (s.drop id) := by
  intro id' stored hf
  rw [find?_drop] at hf
  split at hf
  · cases hf
  · exact h id' stored hf

theorem find?_id_begun (id name kind : String) (body : Json) :
    (mergeBody (begun id name kind) body).find? "id" = some (.str id) :=
  (find?_mergeBody_of_not_mem body (by decide)).trans (find?_begun id name kind "id")

theorem CarriesIds.change {given : Option String} (h : CarriesIds s) (hc : Change s t given) : CarriesIds t := by
  cases hc with
  | kept hg => exact h.of_groups hg
  | removed id hg => exact (h.drop id).of_groups hg
  | set body hf hg =>
    refine (h.put ?_).of_groups hg
    rw [find?_mergeBody_of_not_mem body (by decide)]
    exact h _ _ hf
  | added _ _ hg => exact (h.put (find?_id_begun _ _ _ _)).of_groups hg

/-- However a store came about, its groups carry their ids. -/
theorem carriesIds_after (acts : List Act) : CarriesIds (after acts {}) := by
  induction acts using List.reverseRecOn with
  | nil =>
    intro id stored hf
    cases hf
  | append_singleton acts a ih =>
    rw [after_append]
    change CarriesIds (a.on (after acts {}))
    cases ha : a.givesIds with
    | false => exact ih.change (a.change ha _)
    | true =>
      cases a with
      | assignNextId id => exact ih.of_groups rfl
      | insertGroup id attributes => exact ih.put (by simp)
      | _ => cases ha

end IdentityGroups.Vault.Store
