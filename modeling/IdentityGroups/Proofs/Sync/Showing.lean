import Mathlib
import IdentityGroups.Proofs.Sync.Aftermath

/-! # How a pass came to show its group

A pass that did not fail and did not find the group gone ends by reading it under the id that it then holds;
no pass reads a group by its id before. The group that it shows is what this read found; when the credential
had expired nothing was found, and then a pass that was to do more than read has been granted a write before.
-/

namespace IdentityGroups.Sync
open Program
variable {tr : List Turn} {turn : Turn} {g : Group} {id : String} {s s' : GroupState} {p p' q q' : Prop}

/-- The last turn reads the group under `id` and is refused because the credential has expired. -/
def Unread (tr : List Turn) (id : String) : Prop :=
  ∃ f : Vault.Failure, tr.getLast? = some ⟨.read (Group.idPath id), .error f⟩ ∧ f.isExpiredCredential

def Written (tr : List Turn) : Prop :=
  ∃ path body response, (⟨.write path body, .ok response⟩ : Turn) ∈ tr

/-- How the group `g` is shown in the state at the end: as the last read found it, and then `p`, or unread,
and then `q`. -/
inductive Showing (tr : List Turn) (p q : Prop) (g : Group) : GroupState → Prop
  | decoded {id : String} {o : Observed} (h : Decoded tr id o) (hp : p) :
      Showing tr p q g ⟨some id, o.applyTo g⟩
  | unread {id : String} (h : Unread tr id) (hq : q) : Showing tr p q g ⟨some id, g⟩

theorem unread_cons_iff (hne : tr ≠ []) : Unread (turn :: tr) id ↔ Unread tr id := by
  obtain ⟨last, rest, rfl⟩ := List.exists_cons_of_ne_nil hne
  simp only [Unread, List.getLast?_cons_cons]

theorem written_of_head {path : String} {body : Json} {response : Option Vault.Secret} :
    Written (⟨.write path body, .ok response⟩ :: tr) :=
  ⟨path, body, response, List.mem_cons_self⟩

theorem Written.cons (h : Written tr) (turn : Turn) : Written (turn :: tr) := by
  obtain ⟨path, body, response, h⟩ := h
  exact ⟨path, body, response, List.mem_cons_of_mem _ h⟩

theorem Showing.imp (h : Showing tr p q g s') (hp : p → p') (hq : q → q') : Showing tr p' q' g s' := by
  cases h with
  | decoded h hd => exact .decoded h (hp hd)
  | unread h hu => exact .unread h (hq hu)

theorem Showing.cons (h : Showing tr p q g s') (hne : tr ≠ []) (turn : Turn) :
    Showing (turn :: tr) p q g s' := by
  cases h with
  | decoded h hp => exact .decoded ((decoded_cons_iff hne).2 h) hp
  | unread h hq => exact .unread ((unread_cons_iff hne).2 h) hq

/-! ## The one read by an id -/

/-- A turn that reads a group by its id is the last one. -/
def ReadsLast (tr : List Turn) : Prop :=
  ∀ id reply, (⟨.read (Group.idPath id), reply⟩ : Turn) ∈ tr →
    tr.getLast? = some ⟨.read (Group.idPath id), reply⟩

theorem readsLast_singleton (turn : Turn) : ReadsLast [turn] := by
  intro id reply hmem
  rw [List.mem_singleton.1 hmem]
  rfl

theorem ReadsLast.cons (h : ReadsLast tr) (hne : tr ≠ []) (hturn : ∀ id, turn.1 ≠ .read (Group.idPath id)) :
    ReadsLast (turn :: tr) := by
  obtain ⟨next, rest, rfl⟩ := List.exists_cons_of_ne_nil hne
  intro id reply hmem
  rw [List.getLast?_cons_cons]
  rcases List.mem_cons.1 hmem with rfl | hmem
  · exact absurd rfl (hturn id)
  · exact h id reply hmem

theorem Reading.readsLast {res : Except Error Outcome} (h : Reading id g tr res s') : ReadsLast tr := by
  cases h <;> exact readsLast_singleton _

theorem Updating.readsLast {res : Except Error Outcome} (h : Updating id g tr res s') : ReadsLast tr := by
  cases h with
  | rejected => exact readsLast_singleton _
  | sent h => exact h.readsLast.cons h.ne_nil nofun

theorem Creating.readsLast {res : Except Error String} (h : Creating s tr res s') : ReadsLast tr := by
  cases h with
  | rejected => exact readsLast_singleton _
  | answered hid h => exact h.readsLast.cons h.ne_nil nofun
  | unfound | lost => exact (readsLast_singleton _).cons (by simp) nofun
  | lookedUp hid hf h => exact (h.readsLast.cons h.ne_nil (read_namePath_ne _)).cons (by simp) nofun

theorem Claiming.readsLast {replaced : Option String} {res : Except Error Report}
    (h : Claiming replaced s tr res s') : ReadsLast tr := by
  cases h with
  | failed => exact readsLast_singleton _
  | adopted hf h => exact h.readsLast.cons h.ne_nil (read_namePath_ne _)
  | created hf h => exact h.readsLast.cons h.ne_nil (read_namePath_ne _)

/-- A pass reads a group by its id at its end only. -/
theorem Passing.readsLast {tracked : Option Tracked} {specChanged : Bool} {res : Except Error Report}
    (h : Passing g tracked specChanged tr res s') : ReadsLast tr := by
  cases h with
  | claimed h => exact h.readsLast
  | undeleted => exact readsLast_singleton _
  | replaced ht h => exact h.readsLast.cons h.ne_nil nofun
  | updated ht h => exact h.readsLast
  | refreshed ht h => exact h.readsLast

theorem Unread.not_mem (h : Unread tr id) (hreads : ReadsLast tr) (response : Option Vault.Secret) :
    (⟨.read (Group.idPath id), .ok response⟩ : Turn) ∉ tr := by
  intro hmem
  obtain ⟨f, hlast, _⟩ := h
  cases reply_eq (hlast.symm.trans (hreads id _ hmem))

theorem Decoded.not_unread {o : Observed} (h : Decoded tr id o) : ¬ Unread tr id := by
  rintro ⟨f, hlast, _⟩
  obtain ⟨secret, hlast', _⟩ := h
  cases reply_eq (hlast.symm.trans hlast')

/-! ## Courses -/

theorem Reading.showing {outcome : Outcome} (h : Reading id g tr (.ok outcome) s') (hg : outcome ≠ .gone) :
    Showing tr (outcome = .refreshed) (outcome = .skipped) g s' := by
  cases h with
  | skipped hf => exact .unread ⟨_, rfl, hf⟩ rfl
  | gone => exact absurd rfl hg
  | refreshed hp hd =>
    obtain ⟨rfl, hpayload⟩ := eq_some_of_payload? hp
    exact .decoded ⟨_, rfl, hpayload, hd⟩ rfl

theorem Updating.showing {outcome : Outcome} (h : Updating id g tr (.ok outcome) s') (hg : outcome ≠ .gone) :
    Showing tr (outcome = .refreshed) (Written tr) g s' := by
  cases h with
  | sent h => exact ((h.showing hg).cons h.ne_nil _).imp (fun h => h) fun _ => written_of_head

/-- A read of a group that was made shows the group if it is still held. -/
theorem Reading.showing_of_held {res : Except Error Outcome} {id' : String} (h : Reading id g tr res s')
    (hres : (res.map fun _ => id) = .ok id') (hs : s'.id.isSome) : Showing tr True True g s' := by
  cases res with
  | error e => cases hres
  | ok outcome =>
    refine (h.showing ?_).imp (fun _ => trivial) fun _ => trivial
    rintro rfl
    rw [h.gone_iff.1 rfl] at hs
    cases hs

theorem Creating.showing {res : Except Error String} (h : Creating s tr res s') (hres : res = .ok id)
    (hs : s'.id.isSome) : Showing tr True (Written tr) s.group s' := by
  cases h with
  | rejected | unfound | lost => cases hres
  | answered hid h =>
    exact ((h.showing_of_held hres hs).cons h.ne_nil _).imp (fun h => h) fun _ => written_of_head
  | lookedUp hid hf h =>
    exact (((h.showing_of_held hres hs).cons h.ne_nil _).cons (by simp) _).imp (fun h => h)
      fun _ => written_of_head

theorem Claiming.showing {replaced : Option String} {res : Except Error Report} {report : Report}
    (h : Claiming replaced s tr res s') (hres : res = .ok report) (hg : report.outcome ≠ .gone) :
    Showing tr (report.outcome = .refreshed) (Written tr) s.group s' := by
  cases h with
  | failed => cases hres
  | @adopted _ _ _ res _ hf h =>
    cases res with
    | error e => cases hres
    | ok outcome =>
      cases hres
      exact ((h.showing hg).cons h.ne_nil _).imp (fun h => h) fun hw => hw.cons _
  | @created _ _ res _ hf h =>
    cases res with
    | error e => cases hres
    | ok id =>
      cases hres
      have hs : s'.id.isSome := by
        by_contra hn
        rw [if_neg hn] at hg
        exact hg rfl
      exact ((h.showing rfl hs).cons h.ne_nil _).imp (fun _ => if_pos hs) fun hw => hw.cons _

/-- A pass that knows its group at the end shows it, unread only after a write or when it skipped all it had
to do. -/
theorem Passing.showing {tracked : Option Tracked} {specChanged : Bool} {res : Except Error Report}
    {report : Report} (h : Passing g tracked specChanged tr res s') (hres : res = .ok report)
    (hg : report.outcome ≠ .gone) :
    Showing tr (report.outcome = .refreshed) (Written tr ∨ report = ⟨.refreshed, .skipped⟩) g s' := by
  cases h with
  | claimed h => exact (h.showing hres hg).imp (fun h => h) .inl
  | undeleted => cases hres
  | replaced ht h =>
    exact ((h.showing hres hg).cons h.ne_nil _).imp (fun h => h) fun hw => .inl (hw.cons _)
  | @updated _ _ res _ ht h =>
    cases res with
    | error e => cases hres
    | ok outcome =>
      cases hres
      exact (h.showing hg).imp (fun h => h) .inl
  | @refreshed _ _ res _ ht h =>
    cases res with
    | error e => cases hres
    | ok outcome =>
      cases hres
      refine (h.showing hg).imp (fun h => h) ?_
      rintro rfl
      exact .inr rfl

end IdentityGroups.Sync
