import Mathlib
import IdentityGroups.Proofs.Sync.Steps

/-! # The courses of a pass

Each operation may go in a few ways only, whoever answers. A course says which requests were sent, what
they were answered, what the operation came to and which state it left; there is one constructor for
each point at which the operation may end.
-/

namespace IdentityGroups.Sync
open Program

abbrev Turn := Program.Turn fun _ : Vault.Request => Vault.Reply

inductive Reading (id : String) (g : Group) :
    List Turn → Except Error Outcome → GroupState → Prop
  | failed {f : Vault.Failure} (hf : f.isExpiredCredential = false) :
      Reading id g [⟨.read (Group.idPath id), .error f⟩] (.error (.read .read id f)) ⟨some id, g⟩
  | skipped {f : Vault.Failure} (hf : f.isExpiredCredential) :
      Reading id g [⟨.read (Group.idPath id), .error f⟩] (.ok .skipped) ⟨some id, g⟩
  | gone {response : Option Vault.Secret} (hp : payload? response = none) :
      Reading id g [⟨.read (Group.idPath id), .ok response⟩] (.ok .gone) ⟨none, g⟩
  | malformed {response : Option Vault.Secret} {secret : Vault.Secret} {m : Json.Mismatch}
      (hp : payload? response = some secret)
      (hd : Observed.decode (secret.data.getD .empty) = .error m) :
      Reading id g [⟨.read (Group.idPath id), .ok response⟩]
        (.error (.malformed (Group.idPath id) (Vault.Failure.decode m.message).message)) ⟨some id, g⟩
  | refreshed {response : Option Vault.Secret} {secret : Vault.Secret} {observed : Observed}
      (hp : payload? response = some secret)
      (hd : Observed.decode (secret.data.getD .empty) = .ok observed) :
      Reading id g [⟨.read (Group.idPath id), .ok response⟩] (.ok .refreshed) ⟨some id, observed.applyTo g⟩

inductive Updating (id : String) (g : Group) :
    List Turn → Except Error Outcome → GroupState → Prop
  | rejected {f : Vault.Failure} :
      Updating id g [⟨.write (Group.idPath id) g.updateBody, .error f⟩] (.error (.write .update id f))
        ⟨some id, g⟩
  | sent {response : Option Vault.Secret} {tr : List Turn} {res : Except Error Outcome} {s' : GroupState}
      (h : Reading id g tr res s') :
      Updating id g (⟨.write (Group.idPath id) g.updateBody, .ok response⟩ :: tr) res s'

/-- Creating the group of `s`, from whose id nothing is taken. -/
inductive Creating (s : GroupState) : List Turn → Except Error String → GroupState → Prop
  | rejected {f : Vault.Failure} :
      Creating s [⟨.write Group.collectionPath s.group.createBody, .error f⟩]
        (.error (.write .create s.group.name f)) s
  | answered {response : Option Vault.Secret} {id : String} {tr : List Turn}
      {res : Except Error Outcome} {s' : GroupState}
      (hid : filled? (response.bind (·.text? "id")) = some id) (h : Reading id s.group tr res s') :
      Creating s (⟨.write Group.collectionPath s.group.createBody, .ok response⟩ :: tr) (res.map fun _ => id) s'
  | unfound {response : Option Vault.Secret} {reply : Vault.Reply} {e : Error}
      (hid : filled? (response.bind (·.text? "id")) = none) (hf : found s.group.name reply = .error e) :
      Creating s [⟨.write Group.collectionPath s.group.createBody, .ok response⟩,
        ⟨.read (Group.namePath s.group.name), reply⟩] (.error e) s
  | lost {response : Option Vault.Secret} {reply : Vault.Reply}
      (hid : filled? (response.bind (·.text? "id")) = none) (hf : found s.group.name reply = .ok none) :
      Creating s [⟨.write Group.collectionPath s.group.createBody, .ok response⟩,
        ⟨.read (Group.namePath s.group.name), reply⟩]
        (.error (.malformed Group.collectionPath "response did not contain a group id")) s
  | lookedUp {response : Option Vault.Secret} {reply : Vault.Reply} {id : String} {tr : List Turn}
      {res : Except Error Outcome} {s' : GroupState}
      (hid : filled? (response.bind (·.text? "id")) = none) (hf : found s.group.name reply = .ok (some id))
      (h : Reading id s.group tr res s') :
      Creating s (⟨.write Group.collectionPath s.group.createBody, .ok response⟩ ::
        ⟨.read (Group.namePath s.group.name), reply⟩ :: tr) (res.map fun _ => id) s'

inductive Claiming (replaced : Option String) (s : GroupState) :
    List Turn → Except Error Report → GroupState → Prop
  | failed {reply : Vault.Reply} {e : Error} (hf : found s.group.name reply = .error e) :
      Claiming replaced s [⟨.read (Group.namePath s.group.name), reply⟩] (.error e) s
  | adopted {reply : Vault.Reply} {id : String} {tr : List Turn} {res : Except Error Outcome}
      {s' : GroupState} (hf : found s.group.name reply = .ok (some id))
      (h : Updating id s.group tr res s') :
      Claiming replaced s (⟨.read (Group.namePath s.group.name), reply⟩ :: tr)
        (res.map (⟨Action.adopted.orReplaced replaced, ·⟩)) s'
  | created {reply : Vault.Reply} {tr : List Turn} {res : Except Error String} {s' : GroupState}
      (hf : found s.group.name reply = .ok none) (h : Creating s tr res s') :
      Claiming replaced s (⟨.read (Group.namePath s.group.name), reply⟩ :: tr)
        (res.map fun _ => ⟨Action.created.orReplaced replaced,
          if s'.id.isSome then .refreshed else .gone⟩) s'

inductive Passing (g : Group) : Option Tracked → Bool →
    List Turn → Except Error Report → GroupState → Prop
  | claimed {specChanged : Bool} {tr : List Turn} {res : Except Error Report} {s' : GroupState}
      (h : Claiming none ⟨none, g⟩ tr res s') : Passing g none specChanged tr res s'
  | undeleted {t : Tracked} {specChanged : Bool} {f : Vault.Failure} (ht : g.mustReplace t) :
      Passing g (some t) specChanged [⟨.delete (Group.idPath t.id), .error f⟩]
        (.error (.delete t.id f)) ⟨none, g⟩
  | replaced {t : Tracked} {specChanged : Bool} {response : Option Vault.Secret} {tr : List Turn}
      {res : Except Error Report} {s' : GroupState} (ht : g.mustReplace t)
      (h : Claiming (some t.id) ⟨none, g⟩ tr res s') :
      Passing g (some t) specChanged (⟨.delete (Group.idPath t.id), .ok response⟩ :: tr) res s'
  | updated {t : Tracked} {tr : List Turn} {res : Except Error Outcome} {s' : GroupState}
      (ht : g.mustReplace t = false) (h : Updating t.id g tr res s') :
      Passing g (some t) true tr (res.map (⟨.updated, ·⟩)) s'
  | refreshed {t : Tracked} {tr : List Turn} {res : Except Error Outcome} {s' : GroupState}
      (ht : g.mustReplace t = false) (h : Reading t.id g tr res s') :
      Passing g (some t) false tr (res.map (⟨.refreshed, ·⟩)) s'

/-! ## There are no other courses -/

theorem reading_of_yields {id : String} {g : Group} {tr : List Turn}
    {res : Except Error Outcome} {s' : GroupState}
    (h : (read.run.run ⟨some id, g⟩).Yields tr (res, s')) : Reading id g tr res s' := by
  rw [run_read rfl] at h
  obtain ⟨reply, tr, rfl, hn⟩ := yields_call_iff.1 h
  obtain ⟨rfl, hn⟩ := yields_done_iff.1 hn
  rcases reply with f | response
  · cases hf : f.isExpiredCredential with
    | false =>
      simp only [afterRead, hf] at hn
      cases hn
      exact .failed hf
    | true =>
      simp only [afterRead, hf] at hn
      cases hn
      exact .skipped hf
  · cases hp : payload? response with
    | none =>
      simp only [afterRead, hp] at hn
      cases hn
      exact .gone hp
    | some secret =>
      cases hd : Observed.decode (secret.data.getD .empty) with
      | error m =>
        simp only [afterRead, hp, hd] at hn
        cases hn
        exact .malformed hp hd
      | ok observed =>
        simp only [afterRead, hp, hd] at hn
        cases hn
        exact .refreshed hp hd

theorem updating_of_yields {id : String} {g : Group} {tr : List Turn}
    {res : Except Error Outcome} {s' : GroupState}
    (h : (update.run.run ⟨some id, g⟩).Yields tr (res, s')) : Updating id g tr res s' := by
  rw [run_update rfl] at h
  obtain ⟨reply, tr, rfl, hn⟩ := yields_call_iff.1 h
  cases reply with
  | error f =>
    obtain ⟨rfl, hn⟩ := yields_done_iff.1 hn
    cases hn
    exact .rejected
  | ok response => exact .sent (reading_of_yields hn)

theorem reading_of_readBack {id : String} {s : GroupState} {tr : List Turn} {res : Except Error String}
    {s' : GroupState} (h : (readBack id s).Yields tr (res, s')) :
    ∃ res', Reading id s.group tr res' s' ∧ res = res'.map fun _ => id := by
  obtain ⟨tr₁, ⟨res', s₁⟩, tr₂, hr, hn, rfl⟩ := yields_bind_iff.1 h
  obtain ⟨rfl, hn⟩ := yields_done_iff.1 hn
  cases hn
  rw [List.append_nil]
  exact ⟨res', reading_of_yields hr, rfl⟩

theorem creating_of_yields {s : GroupState} {tr : List Turn} {res : Except Error String}
    {s' : GroupState} (h : (create.run.run s).Yields tr (res, s')) : Creating s tr res s' := by
  rw [run_create] at h
  obtain ⟨reply, tr, rfl, hn⟩ := yields_call_iff.1 h
  cases reply with
  | error f =>
    obtain ⟨rfl, hn⟩ := yields_done_iff.1 hn
    cases hn
    exact .rejected
  | ok response =>
    cases hid : filled? (response.bind (·.text? "id")) with
    | some id =>
      simp only [hid] at hn
      obtain ⟨res', hr, rfl⟩ := reading_of_readBack hn
      exact .answered hid hr
    | none =>
      simp only [hid] at hn
      obtain ⟨reply, tr, rfl, hl⟩ := yields_call_iff.1 hn
      rcases hf : found s.group.name reply with e | _ | id <;> simp only [hf] at hl
      · obtain ⟨rfl, hl⟩ := yields_done_iff.1 hl
        cases hl
        exact .unfound hid hf
      · obtain ⟨rfl, hl⟩ := yields_done_iff.1 hl
        cases hl
        exact .lost hid hf
      · obtain ⟨res', hr, rfl⟩ := reading_of_readBack hl
        exact .lookedUp hid hf hr

theorem claiming_of_yields {replaced : Option String} {s : GroupState} {tr : List Turn}
    {res : Except Error Report} {s' : GroupState}
    (h : ((claim replaced).run.run s).Yields tr (res, s')) : Claiming replaced s tr res s' := by
  rw [run_claim] at h
  obtain ⟨reply, tr, rfl, hn⟩ := yields_call_iff.1 h
  rcases hf : found s.group.name reply with e | _ | id <;> simp only [hf] at hn
  · obtain ⟨rfl, hn⟩ := yields_done_iff.1 hn
    cases hn
    exact .failed hf
  · obtain ⟨tr₁, ⟨res', s₁⟩, tr₂, hc, hd, rfl⟩ := yields_bind_iff.1 hn
    obtain ⟨rfl, hd⟩ := yields_done_iff.1 hd
    cases hd
    rw [List.append_nil]
    exact .created hf (creating_of_yields hc)
  · obtain ⟨tr₁, ⟨res', s₁⟩, tr₂, hu, hd, rfl⟩ := yields_bind_iff.1 hn
    obtain ⟨rfl, hd⟩ := yields_done_iff.1 hd
    cases hd
    rw [List.append_nil]
    exact .adopted hf (updating_of_yields hu)

theorem passing_of_yields {tracked : Option Tracked} {specChanged : Bool} {s : GroupState}
    {tr : List Turn} {res : Except Error Report} {s' : GroupState}
    (h : ((pass tracked specChanged).run.run s).Yields tr (res, s')) :
    Passing s.group tracked specChanged tr res s' := by
  rw [run_pass] at h
  cases tracked with
  | none => exact .claimed (claiming_of_yields h)
  | some t =>
    simp only at h
    by_cases ht : s.group.mustReplace t
    · rw [if_pos ht] at h
      obtain ⟨reply, tr, rfl, hn⟩ := yields_call_iff.1 h
      cases reply with
      | error f =>
        obtain ⟨rfl, hn⟩ := yields_done_iff.1 hn
        cases hn
        exact .undeleted ht
      | ok response => exact .replaced ht (claiming_of_yields hn)
    · rw [if_neg ht, run_maintain] at h
      have ht : s.group.mustReplace t = false := by simpa using ht
      cases specChanged with
      | true =>
        obtain ⟨tr₁, ⟨res', s₁⟩, tr₂, hu, hn, rfl⟩ := yields_bind_iff.1 h
        obtain ⟨rfl, hn⟩ := yields_done_iff.1 hn
        cases hn
        rw [List.append_nil]
        exact .updated ht (updating_of_yields hu)
      | false =>
        obtain ⟨tr₁, ⟨res', s₁⟩, tr₂, hr, hn, rfl⟩ := yields_bind_iff.1 h
        obtain ⟨rfl, hn⟩ := yields_done_iff.1 hn
        cases hn
        rw [List.append_nil]
        exact .refreshed ht (reading_of_yields hr)

end IdentityGroups.Sync
