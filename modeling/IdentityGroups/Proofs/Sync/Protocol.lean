import Mathlib
import IdentityGroups.Proofs.Sync.Learning

/-! # The protocol of a pass

What a pass asks of Vault next is laid down by the stage it has come to, and the answer decides the stage
after it. The stages are described apart from the operations, and the pass keeps to them whoever answers: its
complete transcripts are those that go through the stages from the first one to the last. What may still be
asked is bounded at every stage, method by method.
-/

namespace IdentityGroups.Sync
open Program Vault

inductive Stage where
  /-- The group that is replaced is deleted. -/
  | removing (id : String)
  | seeking
  | creating
  /-- The create was answered without an id, so that the name is looked up once more. -/
  | seekingCreated
  | sending (id : String)
  | reading (id : String)
  | ended
  deriving DecidableEq

def givenId? (response : Option Secret) : Option String := filled? (response.bind (·.text? "id"))

namespace Stage

def request? (g : Group) : Stage → Option Request
  | removing id => some (.delete (Group.idPath id))
  | seeking | seekingCreated => some (.read (Group.namePath g.name))
  | creating => some (.write Group.collectionPath g.createBody)
  | sending id => some (.write (Group.idPath id) g.updateBody)
  | reading id => some (.read (Group.idPath id))
  | ended => none

/-- The stage after an answer. A failure ends the pass, and so does a group without an id. -/
def next : Stage → Reply → Stage
  | _, .error _ => ended
  | removing _, .ok _ => seeking
  | seeking, .ok response =>
    match givenId? response with
    | some id => sending id
    | none => if (payload? response).isNone then creating else ended
  | creating, .ok response =>
    match givenId? response with
    | some id => reading id
    | none => seekingCreated
  | seekingCreated, .ok response =>
    match givenId? response with
    | some id => reading id
    | none => ended
  | sending id, .ok _ => reading id
  | reading _, .ok _ => ended
  | ended, .ok _ => ended

def first (g : Group) (specChanged : Bool) : Option Tracked → Stage
  | none => seeking
  | some t =>
    if g.mustReplace t then removing t.id
    else if specChanged then sending t.id
    else reading t.id

def budget : Method → Stage → Nat
  | .delete, removing _ => 1
  | .delete, _ => 0
  | .write, removing _ | .write, seeking | .write, creating | .write, sending _ => 1
  | .write, _ => 0
  | .read, removing _ | .read, seeking => 3
  | .read, creating | .read, seekingCreated => 2
  | .read, sending _ | .read, reading _ => 1
  | .read, ended => 0

end Stage

def Follows (g : Group) : Stage → List Turn → Prop
  | stage, [] => stage.request? g = none
  | stage, ⟨request, reply⟩ :: tr => stage.request? g = some request ∧ Follows g (stage.next reply) tr

variable {α β : Type} {g : Group} {stage : Stage} {tr : List Turn}

/-! ## Programs at a stage -/

/-- The complete transcripts of the program are those that go through the stages from the given one. -/
def Observes (g : Group) (stage : Stage) (p : Exchange α) : Prop :=
  ∀ tr, (∃ a, p.Yields tr a) ↔ Follows g stage tr

theorem observes_done (h : stage.request? g = none) (a : α) : Observes g stage (done a) := by
  intro tr
  cases tr with
  | nil =>
    have hy : (done a : Exchange α).Yields [] a := yields_done_iff.2 ⟨rfl, rfl⟩
    exact ⟨fun _ => h, fun _ => ⟨a, hy⟩⟩
  | cons turn tr =>
    constructor
    · rintro ⟨b, hb⟩
      cases (yields_done_iff.1 hb).1
    · rintro ⟨hr, _⟩
      cases h.symm.trans hr

theorem observes_call {request : Request} {next : Reply → Exchange α} (h : stage.request? g = some request)
    (hn : ∀ reply, Observes g (stage.next reply) (next reply)) : Observes g stage (call request next) := by
  intro tr
  cases tr with
  | nil =>
    constructor
    · rintro ⟨a, ha⟩
      obtain ⟨_, _, hnil, _⟩ := yields_call_iff.1 ha
      cases hnil
    · intro hf
      cases h.symm.trans hf
  | cons turn tr =>
    obtain ⟨asked, reply⟩ := turn
    constructor
    · rintro ⟨a, ha⟩
      obtain ⟨_, _, hcons, ha'⟩ := yields_call_iff.1 ha
      cases hcons
      exact ⟨h, (hn reply tr).1 ⟨a, ha'⟩⟩
    · rintro ⟨hr, hf⟩
      cases h.symm.trans hr
      obtain ⟨a, ha⟩ := (hn reply tr).2 hf
      exact ⟨a, yields_call_iff.2 ⟨reply, tr, rfl, ha⟩⟩

theorem Observes.map {p : Exchange α} (h : Observes g stage p) (f : α → β) :
    Observes g stage (p >>= fun a => done (f a)) := by
  intro tr
  rw [← h tr]
  constructor
  · rintro ⟨b, hb⟩
    obtain ⟨tr₁, a, tr₂, ha, hd, rfl⟩ := yields_bind_iff.1 hb
    obtain ⟨rfl, _⟩ := yields_done_iff.1 hd
    rw [List.append_nil]
    exact ⟨a, ha⟩
  · rintro ⟨a, ha⟩
    exact ⟨f a, yields_bind_iff.2 ⟨tr, a, [], ha, yields_done_iff.2 ⟨rfl, rfl⟩, (List.append_nil tr).symm⟩⟩

theorem observes_read (id : String) (x : Group) : Observes g (.reading id) (read.run.run ⟨some id, x⟩) := by
  rw [run_read rfl]
  refine observes_call rfl ?_
  intro reply
  cases reply <;> exact observes_done rfl _

theorem observes_update (id : String) : Observes g (.sending id) (update.run.run ⟨some id, g⟩) := by
  rw [run_update rfl]
  refine observes_call rfl ?_
  intro reply
  cases reply with
  | error f => exact observes_done rfl _
  | ok response => exact observes_read id g

theorem observes_readBack (id : String) (s : GroupState) : Observes g (.reading id) (readBack id s) :=
  (observes_read id s.group).map _

/-- What a look-up makes of a response. -/
theorem found_ok (name : String) (response : Option Secret) : found name (.ok response) =
    match givenId? response with
    | some id => .ok (some id)
    | none =>
      if (payload? response).isNone then .ok none
      else .error (.malformed (Group.namePath name) "group payload did not contain an id") := by
  cases hid : givenId? response with
  | some id =>
    obtain ⟨htext, hne⟩ := filled?_eq_some_iff.1 hid
    obtain ⟨secret, rfl, htext⟩ := Option.bind_eq_some_iff.1 htext
    have hp : payload? (some secret) = some secret := by
      simp [payload?, hasPayload_of_text? htext]
    have hfilled : filled? (secret.text? "id") = some id := filled?_eq_some_iff.2 ⟨htext, hne⟩
    simp only [found, hp, hfilled]
  | none =>
    cases hp : payload? response with
    | none => simp [found, hp]
    | some secret =>
      have hs : response = some secret := by
        simp only [payload?, Option.filter_eq_some_iff] at hp
        exact hp.1
      subst hs
      have hnone : filled? (secret.text? "id") = none := hid
      simp [found, hp, hnone]

theorem observes_create (i : Option String) : Observes g .creating (create.run.run ⟨i, g⟩) := by
  rw [run_create]
  refine observes_call rfl ?_
  intro reply
  cases reply with
  | error f => exact observes_done rfl _
  | ok response =>
    have hgiven : filled? (response.bind (·.text? "id")) = givenId? response := rfl
    simp only [hgiven, Stage.next]
    cases givenId? response with
    | some id => exact observes_readBack id _
    | none =>
      refine observes_call rfl ?_
      intro reply
      cases reply with
      | error f => exact observes_done rfl _
      | ok response =>
        simp only [found_ok, Stage.next]
        cases givenId? response with
        | some id => exact observes_readBack id _
        | none =>
          simp only
          cases payload? response with
          | none => exact observes_done rfl _
          | some secret => exact observes_done rfl _

theorem observes_claim (replaced : Option String) :
    Observes g .seeking ((claim replaced).run.run ⟨none, g⟩) := by
  rw [run_claim]
  refine observes_call rfl ?_
  intro reply
  cases reply with
  | error f => exact observes_done rfl _
  | ok response =>
    simp only [found_ok, Stage.next]
    cases givenId? response with
    | some id => exact (observes_update id).map _
    | none =>
      simp only
      split
      · exact (observes_create none).map _
      · exact observes_done rfl _

theorem observes_maintain (id : String) (specChanged : Bool) (i : Option String) :
    Observes g (if specChanged then .sending id else .reading id) ((maintain id specChanged).run.run ⟨i, g⟩) := by
  rw [run_maintain]
  cases specChanged with
  | true => exact (observes_update id).map _
  | false => exact (observes_read id g).map _

theorem observes_pass (tracked : Option Tracked) (specChanged : Bool) (i : Option String) :
    Observes g (.first g specChanged tracked) ((pass tracked specChanged).run.run ⟨i, g⟩) := by
  rw [run_pass]
  cases tracked with
  | none => exact observes_claim none
  | some t =>
    simp only [Stage.first]
    split
    · refine observes_call rfl ?_
      intro reply
      cases reply with
      | error f => exact observes_done rfl _
      | ok response => exact observes_claim (some t.id)
    · exact observes_maintain t.id specChanged none

/-! ## What goes through the stages -/

theorem budget_next {request : Request} (h : stage.request? g = some request) (reply : Reply) (m : Method) :
    (stage.next reply).budget m + (if request.method = m then 1 else 0) ≤ stage.budget m := by
  cases stage <;> cases h <;> cases m <;> cases reply <;>
    simp only [Stage.next, Request.method] <;> repeat' split
  all_goals simp_all [Stage.budget]

def sentWith (m : Method) (tr : List Turn) : Nat := tr.countP fun turn => turn.1.method = m

theorem Follows.sentWith_le (h : Follows g stage tr) (m : Method) : sentWith m tr ≤ stage.budget m := by
  induction tr generalizing stage with
  | nil => exact Nat.zero_le _
  | cons turn tr ih =>
    obtain ⟨request, reply⟩ := turn
    obtain ⟨hr, hf⟩ := h
    have hrest := ih hf
    have hstep := budget_next hr reply m
    simp only [sentWith, List.countP_cons, decide_eq_true_eq] at hrest ⊢
    omega

theorem length_eq_sentWith (tr : List Turn) :
    tr.length = sentWith .read tr + sentWith .write tr + sentWith .delete tr := by
  induction tr with
  | nil => rfl
  | cons turn tr ih =>
    have hone : (if turn.1.method = .read then 1 else 0) + (if turn.1.method = .write then 1 else 0) +
        (if turn.1.method = .delete then 1 else 0) = 1 := by
      cases turn.1.method <;> rfl
    simp only [sentWith, List.countP_cons, List.length_cons, decide_eq_true_eq] at ih ⊢
    omega

theorem next_ne_removing (stage : Stage) (reply : Reply) (id : String) : stage.next reply ≠ .removing id := by
  cases stage <;> cases reply <;> simp only [Stage.next] <;> repeat' split
  all_goals simp

/-- A turn on the way is that of a stage, which is the first one or comes after another. -/
theorem Follows.at_turn {before after : List Turn} {turn : Turn}
    (h : Follows g stage (before ++ turn :: after)) : ∃ due : Stage, due.request? g = some turn.1 ∧
      Follows g (due.next turn.2) after ∧
      ((before = [] ∧ due = stage) ∨ ∃ former reply, due = Stage.next former reply) := by
  induction before generalizing stage with
  | nil =>
    obtain ⟨request, reply⟩ := turn
    exact ⟨stage, h.1, h.2, .inl ⟨rfl, rfl⟩⟩
  | cons asked before ih =>
    obtain ⟨request, reply⟩ := asked
    obtain ⟨due, hr, hf, hdue⟩ := ih h.2
    refine ⟨due, hr, hf, .inr ?_⟩
    rcases hdue with ⟨_, hfirst⟩ | hlater
    · exact ⟨stage, reply, hfirst⟩
    · exact hlater

theorem Follows.eq_nil (h : Follows g stage tr) (hended : stage.request? g = none) : tr = [] := by
  cases tr with
  | nil => rfl
  | cons turn tr =>
    obtain ⟨request, reply⟩ := turn
    cases hended.symm.trans h.1

def Rejected (turn : Turn) : Prop :=
  (∃ f, turn.2 = .error f) ∨ ∃ secret : Secret, turn.2 = .ok (some secret) ∧ secret.hasPayload ∧
    (((∃ name, turn.1 = .read (Group.namePath name)) ∧ givenId? (some secret) = none) ∨
      ((∃ id, turn.1 = .read (Group.idPath id)) ∧
        ∃ m, Observed.decode (secret.data.getD .empty) = .error m))

/-- What is rejected ends the pass. -/
theorem request?_next_of_rejected {turn : Turn} (hr : stage.request? g = some turn.1) (h : Rejected turn) :
    (stage.next turn.2).request? g = none := by
  obtain ⟨request, reply⟩ := turn
  simp only [Rejected] at h hr ⊢
  rcases h with ⟨f, rfl⟩ | ⟨secret, rfl, hpayload, ⟨⟨name, rfl⟩, hid⟩ | ⟨⟨id, rfl⟩, _⟩⟩
  · cases stage <;> rfl
  · have hsome : payload? (some secret) = some secret := by
      simp [payload?, hpayload]
    cases stage with
    | seeking => simp [Stage.next, hid, hsome, Stage.request?]
    | seekingCreated => simp [Stage.next, hid, Stage.request?]
    | reading id => rfl
    | removing id => cases hr
    | creating => cases hr
    | sending id => cases hr
    | ended => cases hr
  · have hpath : ∀ name, some (Request.read (Group.namePath name)) ≠ some (.read (Group.idPath id)) := by
      intro name h
      exact idPath_ne_namePath id name (Request.read.inj (Option.some.inj h)).symm
    cases stage with
    | seeking => exact absurd hr (hpath g.name)
    | seekingCreated => exact absurd hr (hpath g.name)
    | reading id => rfl
    | removing id => cases hr
    | creating => cases hr
    | sending id => cases hr
    | ended => cases hr

theorem removing_of_delete {request : Request} (hr : stage.request? g = some request)
    (hm : request.method = .delete) : ∃ id, stage = .removing id ∧ request = .delete (Group.idPath id) := by
  cases stage with
  | removing id =>
    cases hr
    exact ⟨id, rfl, rfl⟩
  | seeking | creating | seekingCreated | sending id | reading id =>
    cases hr
    cases hm
  | ended => cases hr

theorem first_eq_removing {tracked : Option Tracked} {specChanged : Bool} {id : String}
    (h : Stage.first g specChanged tracked = .removing id) :
    ∃ t, tracked = some t ∧ g.mustReplace t ∧ t.id = id := by
  cases tracked with
  | none => cases h
  | some t =>
    simp only [Stage.first] at h
    split at h
    · rename_i hr
      cases h
      exact ⟨t, rfl, hr, rfl⟩
    · split at h <;> cases h

theorem budget_le (stage : Stage) :
    stage.budget .read ≤ 3 ∧ stage.budget .write ≤ 1 ∧ stage.budget .delete ≤ 1 := by
  cases stage <;> simp [Stage.budget]

/-- Whoever answers, the requests of a pass are those of the protocol, and every sequence of answers leads
through it. There are at most five requests, one of them a write at most, and a delete, of the group that is
tracked and to be replaced, only in the first place. Nothing follows what is rejected. -/
theorem pass_follows_protocol (g : Group) (tracked : Option Tracked) (specChanged : Bool) (i : Option String) :
    (∀ tr, (∃ r, ((pass tracked specChanged).run.run ⟨i, g⟩).Yields tr r) ↔
      Follows g (.first g specChanged tracked) tr) ∧
    ∀ tr, Follows g (.first g specChanged tracked) tr →
      tr.length ≤ 5 ∧ sentWith .write tr ≤ 1 ∧ sentWith .delete tr ≤ 1 ∧
      ∀ before turn after, tr = before ++ turn :: after →
        (turn.1.method = .delete → before = [] ∧
          ∃ t, tracked = some t ∧ g.mustReplace t ∧ turn.1 = .delete (Group.idPath t.id)) ∧
        (Rejected turn → after = []) := by
  refine ⟨observes_pass tracked specChanged i, ?_⟩
  intro tr h
  obtain ⟨hread, hwrite, hdelete⟩ := budget_le (.first g specChanged tracked)
  have hreads := h.sentWith_le .read
  have hwrites := h.sentWith_le .write
  have hdeletes := h.sentWith_le .delete
  have hlength := length_eq_sentWith tr
  refine ⟨by omega, by omega, by omega, ?_⟩
  rintro before turn after rfl
  obtain ⟨due, hr, hf, hdue⟩ := h.at_turn
  constructor
  · intro hm
    obtain ⟨id, rfl, hturn⟩ := removing_of_delete hr hm
    rcases hdue with ⟨hnil, hfirst⟩ | ⟨former, reply, hnext⟩
    · obtain ⟨t, ht, hmust, rfl⟩ := first_eq_removing hfirst.symm
      exact ⟨hnil, t, ht, hmust, hturn⟩
    · exact absurd hnext.symm (next_ne_removing former reply id)
  · intro hrejected
    exact hf.eq_nil (request?_next_of_rejected hr hrejected)

/-! The group `a` is renamed to `b`, which Vault makes without saying under which id, and the credential
expires before the group is read. -/

def longestTurns : List Turn := [
  ⟨.delete (Group.idPath "old"), .ok none⟩, ⟨.read (Group.namePath "b"), .ok none⟩,
  ⟨.write Group.collectionPath (Group.createBody { name := "b" }), .ok none⟩,
  ⟨.read (Group.namePath "b"), .ok (some (.withData (.ofList [("id", .str "new")])))⟩,
  ⟨.read (Group.idPath "new"), .error (.api 403 ["invalid accessor"])⟩]

theorem pass_follows_protocol_longest :
    (∃ r, ((pass (some ⟨"old", some "a", none⟩) true).run.run ⟨none, { name := "b" }⟩).Yields longestTurns r) ∧
      longestTurns.length ≤ 5 ∧ sentWith .write longestTurns ≤ 1 ∧ sentWith .delete longestTurns ≤ 1 := by
  have hfollows : Follows { name := "b" } (.first { name := "b" } true (some ⟨"old", some "a", none⟩))
      longestTurns := by
    simp only [Follows, longestTurns]
    decide +kernel
  obtain ⟨hturns, hbounds⟩ :=
    pass_follows_protocol { name := "b" } (some ⟨"old", some "a", none⟩) true none
  obtain ⟨hlength, hwrites, hdeletes, _⟩ := hbounds longestTurns hfollows
  exact ⟨(hturns longestTurns).2 hfollows, hlength, hwrites, hdeletes⟩

end IdentityGroups.Sync
