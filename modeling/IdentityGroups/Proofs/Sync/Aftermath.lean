import Mathlib
import IdentityGroups.Proofs.Sync.Learning

/-! # What an operation leaves of the state

Callers keep the state whatever an operation came to. The group in it changes only by a read at the very end
whose answer can be decoded, so that a failure or a read that brought nothing leaves it as it was. The id is
the one that was learnt, if any was, even when what followed failed.
-/

namespace IdentityGroups.Sync
open Program
variable {tr : List Turn} {turn : Turn} {g g' : Group} {id : String} {o : Observed} {s s' : GroupState}
  {p q : Prop}

/-- The last turn reads the group under `id`, and the answer holds the attributes `o`. -/
def Decoded (tr : List Turn) (id : String) (o : Observed) : Prop :=
  ∃ secret : Vault.Secret, tr.getLast? = some ⟨.read (Group.idPath id), .ok (some secret)⟩ ∧
    secret.hasPayload ∧ Observed.decode (secret.data.getD .empty) = .ok o

theorem reply_eq {request request' : Vault.Request} {reply reply' : Vault.Reply}
    (h : some (⟨request, reply⟩ : Turn) = some ⟨request', reply'⟩) : reply = reply' := by
  cases h
  rfl

theorem Decoded.unique {id' : String} {o' : Observed} (h : Decoded tr id o) (h' : Decoded tr id' o') :
    o = o' := by
  obtain ⟨secret, hlast, _, hd⟩ := h
  obtain ⟨secret', hlast', _, hd'⟩ := h'
  cases reply_eq (hlast.symm.trans hlast')
  exact Except.ok.inj (hd.symm.trans hd')

theorem decoded_cons_iff (hne : tr ≠ []) : Decoded (turn :: tr) id o ↔ Decoded tr id o := by
  obtain ⟨last, rest, rfl⟩ := List.exists_cons_of_ne_nil hne
  simp only [Decoded, List.getLast?_cons_cons]

theorem not_decoded_of_last (hlast : tr.getLast? = some turn) (hpath : ∀ id, turn.1 ≠ .read (Group.idPath id))
    (id : String) (o : Observed) : ¬ Decoded tr id o := by
  rintro ⟨secret, h, _⟩
  cases hlast.symm.trans h
  exact hpath id rfl

theorem not_decoded_of_error {request : Vault.Request} {f : Vault.Failure} (id : String) (o : Observed) :
    ¬ Decoded [⟨request, .error f⟩] id o := by
  rintro ⟨secret, h, _⟩
  cases h

theorem read_namePath_ne (name id : String) :
    Vault.Request.read (Group.namePath name) ≠ .read (Group.idPath id) := by
  intro h
  exact idPath_ne_namePath id name (Vault.Request.read.inj h).symm

theorem eq_some_of_payload? {response : Option Vault.Secret} {secret : Vault.Secret}
    (h : payload? response = some secret) : response = some secret ∧ secret.hasPayload := by
  simpa [payload?, Option.filter_eq_some_iff] using h

/-! ## The group -/

/-- What becomes of the group `g`: nothing was decoded and it stays, or it takes over what was decoded, and
then the operation came to `p`. -/
inductive Takes (tr : List Turn) (p : Prop) (g : Group) : Group → Prop
  | nothing (h : ∀ id o, ¬ Decoded tr id o) : Takes tr p g g
  | decoded {id : String} {o : Observed} (h : Decoded tr id o) (hp : p) : Takes tr p g (o.applyTo g)

theorem Takes.imp (h : Takes tr p g g') (hpq : p → q) : Takes tr q g g' := by
  cases h with
  | nothing h => exact .nothing h
  | decoded h hp => exact .decoded h (hpq hp)

theorem Takes.cons (h : Takes tr p g g') (hne : tr ≠ []) (turn : Turn) : Takes (turn :: tr) p g g' := by
  cases h with
  | nothing h => exact .nothing fun id o hd => h id o ((decoded_cons_iff hne).1 hd)
  | decoded h hp => exact .decoded ((decoded_cons_iff hne).2 h) hp

theorem Reading.takes {res : Except Error Outcome} (h : Reading id g tr res s') :
    Takes tr (res = .ok .refreshed) g s'.group := by
  cases h with
  | failed hf => exact .nothing not_decoded_of_error
  | skipped hf => exact .nothing not_decoded_of_error
  | gone hp =>
    refine .nothing ?_
    rintro id' o ⟨secret, hlast, hpayload, _⟩
    cases reply_eq hlast
    simp [payload?, hpayload] at hp
  | malformed hp hd =>
    refine .nothing ?_
    rintro id' o ⟨secret, hlast, _, hd'⟩
    cases reply_eq hlast
    cases (eq_some_of_payload? hp).1
    cases hd.symm.trans hd'
  | refreshed hp hd =>
    obtain ⟨rfl, hpayload⟩ := eq_some_of_payload? hp
    exact .decoded ⟨_, rfl, hpayload, hd⟩ rfl

theorem Reading.ne_nil {res : Except Error Outcome} (h : Reading id g tr res s') : tr ≠ [] := by
  cases h <;> simp

theorem Updating.takes {res : Except Error Outcome} (h : Updating id g tr res s') :
    Takes tr (res = .ok .refreshed) g s'.group := by
  cases h with
  | rejected => exact .nothing not_decoded_of_error
  | sent h => exact h.takes.cons h.ne_nil _

theorem Updating.ne_nil {res : Except Error Outcome} (h : Updating id g tr res s') : tr ≠ [] := by
  cases h <;> simp

theorem Reading.isSome_of_refreshed {res : Except Error Outcome} (h : Reading id g tr res s')
    (hres : res = .ok .refreshed) : s'.id.isSome := by
  rw [Option.isSome_iff_ne_none]
  intro hnone
  rw [h.gone_iff.2 hnone] at hres
  cases hres

theorem Creating.takes {res : Except Error String} (h : Creating s tr res s') :
    Takes tr ((∃ id, res = .ok id) ∧ s'.id.isSome) s.group s'.group := by
  cases h with
  | rejected => exact .nothing not_decoded_of_error
  | unfound hid hf | lost hid hf => exact .nothing (not_decoded_of_last rfl (read_namePath_ne _))
  | answered hid h =>
    refine (h.takes.cons h.ne_nil _).imp fun hres => ⟨?_, h.isSome_of_refreshed hres⟩
    exact ⟨_, by rw [hres]; rfl⟩
  | lookedUp hid hf h =>
    refine ((h.takes.cons h.ne_nil _).cons (by simp) _).imp fun hres => ⟨?_, h.isSome_of_refreshed hres⟩
    exact ⟨_, by rw [hres]; rfl⟩

theorem Creating.ne_nil {res : Except Error String} (h : Creating s tr res s') : tr ≠ [] := by
  cases h <;> simp

theorem Claiming.takes {replaced : Option String} {res : Except Error Report}
    (h : Claiming replaced s tr res s') :
    Takes tr (∃ action, res = .ok ⟨action, .refreshed⟩) s.group s'.group := by
  cases h with
  | failed hf => exact .nothing (not_decoded_of_last rfl (read_namePath_ne _))
  | adopted hf h =>
    refine (h.takes.cons h.ne_nil _).imp ?_
    rintro rfl
    exact ⟨_, rfl⟩
  | created hf h =>
    refine (h.takes.cons h.ne_nil _).imp ?_
    rintro ⟨⟨id, rfl⟩, hsome⟩
    refine ⟨Action.created.orReplaced replaced, ?_⟩
    rw [if_pos hsome]
    rfl

theorem Claiming.ne_nil {replaced : Option String} {res : Except Error Report}
    (h : Claiming replaced s tr res s') : tr ≠ [] := by
  cases h <;> simp

theorem Passing.takes {tracked : Option Tracked} {specChanged : Bool} {res : Except Error Report}
    (h : Passing g tracked specChanged tr res s') :
    Takes tr (∃ action, res = .ok ⟨action, .refreshed⟩) g s'.group := by
  cases h with
  | claimed h => exact h.takes
  | undeleted ht => exact .nothing not_decoded_of_error
  | replaced ht h => exact h.takes.cons h.ne_nil _
  | updated ht h | refreshed ht h =>
    refine h.takes.imp ?_
    rintro rfl
    exact ⟨_, rfl⟩

structure GroupAfter (tr : List Turn) (p : Prop) (g g' : Group) : Prop where
  policies : g'.policies = g.policies
  undecoded : (∀ id o, ¬ Decoded tr id o) → g' = g
  decoded : ∀ id o, Decoded tr id o → g' = o.applyTo g
  fruitless : ¬ p → g' = g

theorem Takes.groupAfter (h : Takes tr p g g') : GroupAfter tr p g g' := by
  cases h with
  | nothing h =>
    exact
      { policies := rfl
        undecoded := fun _ => rfl
        decoded := fun id o hd => absurd hd (h id o)
        fruitless := fun _ => rfl }
  | @decoded id o h hp =>
    exact
      { policies := rfl
        undecoded := fun hn => absurd h (hn id o)
        decoded := fun _ o' hd => by rw [h.unique hd]
        fruitless := fun hn => absurd hp hn }

/-! ## The id -/

/-- The id stays unless a read found the group gone. -/
structure KeepsId (tr : List Turn) (s s' : GroupState) : Prop where
  vanished : Vanished tr → s'.id = none
  otherwise : ¬ Vanished tr → s'.id = s.id

/-- The id is the one that was learnt, if there is one, and else `i`. -/
structure KnowsId (tr : List Turn) (i : Option String) (s' : GroupState) : Prop where
  learnt : ∀ id, Learnt tr id → s'.id = some id
  otherwise : (∀ id, ¬ Learnt tr id) → s'.id = i

def keptId? (g : Group) (tracked : Option Tracked) : Option String :=
  (tracked.filter fun t => !g.mustReplace t).map (·.id)

theorem keptId?_of_replaced {t : Tracked} (h : g.mustReplace t) : keptId? g (some t) = none := by
  simp [keptId?, Option.filter, h]

theorem keptId?_of_kept {t : Tracked} (h : g.mustReplace t = false) : keptId? g (some t) = some t.id := by
  simp [keptId?, Option.filter, h]

theorem Settles.knowsId {gone : Prop} {i : Option String} (h : Settles id tr gone s') (hg : ¬ gone)
    (hl : ∀ k, Learnt tr k ↔ k = id) : KnowsId tr i s' where
  learnt k hk := by rw [(hl k).1 hk, h.id_eq hg]
  otherwise hn := absurd ((hl id).2 rfl) (hn id)

theorem KnowsId.of_not_learnt {i : Option String} (h : s'.id = i) (hl : ∀ k, ¬ Learnt tr k) :
    KnowsId tr i s' where
  learnt k hk := absurd hk (hl k)
  otherwise _ := h

theorem Reading.vanished_iff {res : Except Error Outcome} (h : Reading id g tr res s') :
    Vanished tr ↔ res = .ok .gone := by
  constructor
  · rintro ⟨turn, hmem, _, response, hreply, hp⟩
    cases h with
    | failed | skipped =>
      cases List.mem_singleton.1 hmem
      cases hreply
    | gone => rfl
    | malformed hp' | refreshed hp' =>
      cases List.mem_singleton.1 hmem
      cases hreply
      cases hp.symm.trans hp'
  · rintro rfl
    rcases h.settles with ⟨_, hn⟩ | ⟨_, _, hv, _⟩
    · exact absurd rfl hn
    · exact hv

theorem Reading.keepsId {res : Except Error Outcome} (h : Reading id g tr res s') :
    KeepsId tr ⟨some id, g⟩ s' where
  vanished hv := h.gone_iff.1 (h.vanished_iff.1 hv)
  otherwise hv := h.settles.id_eq fun hg => hv (h.vanished_iff.2 hg)

theorem Updating.keepsId {res : Except Error Outcome} (h : Updating id g tr res s') :
    KeepsId tr ⟨some id, g⟩ s' := by
  cases h with
  | rejected =>
    refine ⟨?_, fun _ => rfl⟩
    rintro ⟨turn, hmem, ⟨_, hpath⟩, _⟩
    cases List.mem_singleton.1 hmem
    cases hpath
  | @sent response tr res _ h =>
    have hsame : Vanished (⟨.write (Group.idPath id) g.updateBody, .ok response⟩ :: tr) ↔ Vanished tr := by
      constructor
      · rintro ⟨turn, hmem, ⟨i, hpath⟩, hreply⟩
        rcases List.mem_cons.1 hmem with rfl | hmem
        · cases hpath
        · exact ⟨turn, hmem, ⟨i, hpath⟩, hreply⟩
      · exact vanished_cons
    exact ⟨fun hv => h.keepsId.vanished (hsame.1 hv),
      fun hv => h.keepsId.otherwise fun hv' => hv (hsame.2 hv')⟩

theorem Creating.knowsId {e : Error} (h : Creating s tr (.error e) s') : KnowsId tr s.id s' := by
  cases h.learning with
  | nothing _ hsame hl => exact .of_not_learnt (by rw [hsame]) hl
  | taught hl hset => exact hset.knowsId (by simp) hl

theorem Claiming.knowsId {replaced : Option String} {e : Error}
    (h : Claiming replaced ⟨none, g⟩ tr (.error e) s') : KnowsId tr none s' := by
  cases h.learning rfl with
  | nothing _ hsame hl => exact .of_not_learnt (by rw [hsame]) hl
  | taught hl hset => exact hset.knowsId (by simp) hl

theorem Passing.knowsId {tracked : Option Tracked} {specChanged : Bool} {e : Error}
    (h : Passing g tracked specChanged tr (.error e) s') : KnowsId tr (keptId? g tracked) s' := by
  generalize hres : Except.error e = res at h
  cases h with
  | claimed h =>
    subst hres
    exact h.knowsId
  | @undeleted t _ f ht =>
    rw [keptId?_of_replaced ht]
    refine .of_not_learnt rfl fun i => ?_
    rw [learnt_cons_iff]
    simp [learnt_nil_iff, not_teaches_delete]
  | @replaced t _ response tr _ _ ht h =>
    subst hres
    have hsame : ∀ i, Learnt (⟨.delete (Group.idPath t.id), .ok response⟩ :: tr) i ↔ Learnt tr i := by
      intro i
      rw [learnt_cons_iff]
      simp [not_teaches_delete]
    rw [keptId?_of_replaced ht]
    exact ⟨fun i hi => h.knowsId.learnt i ((hsame i).1 hi),
      fun hn => h.knowsId.otherwise fun i hi => hn i ((hsame i).2 hi)⟩
  | @updated t _ res _ ht h | @refreshed t _ res _ ht h =>
    have hnot : res ≠ .ok .gone := by
      rintro rfl
      cases hres
    rw [keptId?_of_kept ht]
    exact .of_not_learnt (h.settles.id_eq hnot) fun i => h.learnt

/-! ## Any state at all -/

theorem run_read_untracked (h : s.id = none) : read.run.run s = done (.ok .gone, s) := by
  rw [read, update_bind, update_get, done_bind]
  simp only [h]
  rfl

theorem run_update_untracked (h : s.id = none) : update.run.run s = done (.error .untracked, s) := by
  rw [update, update_bind, update_get, done_bind]
  simp only [h]
  rfl

theorem not_decoded_nil (id : String) (o : Observed) : ¬ Decoded [] id o := by
  rintro ⟨_, h, _⟩
  cases h

theorem keepsId_nil (s : GroupState) : KeepsId [] s s where
  vanished := by
    rintro ⟨_, hmem, _⟩
    cases hmem
  otherwise _ := rfl

theorem read_leaves {res : Except Error Outcome} (h : (read.run.run s).Yields tr (res, s')) :
    GroupAfter tr (res = .ok .refreshed) s.group s'.group ∧ KeepsId tr s s' := by
  obtain ⟨_ | id, g⟩ := s
  · rw [run_read_untracked rfl] at h
    obtain ⟨rfl, hres⟩ := yields_done_iff.1 h
    cases hres
    exact ⟨(Takes.nothing not_decoded_nil).groupAfter, keepsId_nil _⟩
  · have hreading := reading_of_yields h
    exact ⟨hreading.takes.groupAfter, hreading.keepsId⟩

theorem update_leaves {res : Except Error Outcome} (h : (update.run.run s).Yields tr (res, s')) :
    GroupAfter tr (res = .ok .refreshed) s.group s'.group ∧ KeepsId tr s s' := by
  obtain ⟨_ | id, g⟩ := s
  · rw [run_update_untracked rfl] at h
    obtain ⟨rfl, hres⟩ := yields_done_iff.1 h
    cases hres
    exact ⟨(Takes.nothing not_decoded_nil).groupAfter, keepsId_nil _⟩
  · have hupdating := updating_of_yields h
    exact ⟨hupdating.takes.groupAfter, hupdating.keepsId⟩

/-- Whoever answers, the group changes only by what a read at the end decodes, and never in its policies. A
read and an update give the id up when the group is gone and leave it otherwise. A create that fails leaves
the id that it learnt, or the one of before, and a pass that fails the id that it learnt, or that of the
tracked group if that was to be kept. -/
theorem state_after_operation (s : GroupState) :
    (∀ tr res s', (read.run.run s).Yields tr (res, s') →
      GroupAfter tr (res = .ok .refreshed) s.group s'.group ∧ KeepsId tr s s') ∧
    (∀ tr res s', (update.run.run s).Yields tr (res, s') →
      GroupAfter tr (res = .ok .refreshed) s.group s'.group ∧ KeepsId tr s s') ∧
    (∀ tr res s', (create.run.run s).Yields tr (res, s') →
      GroupAfter tr ((∃ id, res = .ok id) ∧ s'.id.isSome) s.group s'.group ∧
      ∀ e, res = .error e → KnowsId tr s.id s') ∧
    ∀ tracked specChanged tr res s', ((pass tracked specChanged).run.run s).Yields tr (res, s') →
      GroupAfter tr (∃ action, res = .ok ⟨action, .refreshed⟩) s.group s'.group ∧
      ∀ e, res = .error e → KnowsId tr (keptId? s.group tracked) s' := by
  refine ⟨fun tr res s' => read_leaves, fun tr res s' => update_leaves, ?_, ?_⟩
  · intro tr res s' h
    have hcreating := creating_of_yields h
    refine ⟨hcreating.takes.groupAfter, ?_⟩
    rintro e rfl
    exact hcreating.knowsId
  · intro tracked specChanged tr res s' h
    have hpassing := passing_of_yields h
    refine ⟨hpassing.takes.groupAfter, ?_⟩
    rintro e rfl
    exact hpassing.knowsId

/-! The group `a` is renamed to `b`, which Vault makes under the id `new` and then does not show. -/

def renamed : Group := { name := "b", policies := some ["p"] }

def unshownTurns : List Turn := [
  ⟨.delete (Group.idPath "old"), .ok none⟩, ⟨.read (Group.namePath "b"), .ok none⟩,
  ⟨.write Group.collectionPath renamed.createBody, .ok (some (.withData (.ofList [("id", .str "new")])))⟩,
  ⟨.read (Group.idPath "new"), .error (.api 500 ["internal error"])⟩]

theorem state_after_operation_unshown :
    ((pass (some ⟨"old", some "a", none⟩) true).run.run ⟨some "stale", renamed⟩).Yields unshownTurns
      (.error (.read .read "new" (.api 500 ["internal error"])), ⟨some "new", renamed⟩) ∧
    Learnt unshownTurns "new" ∧ KnowsId unshownTurns none ⟨some "new", renamed⟩ := by
  have hyields : ((pass (some ⟨"old", some "a", none⟩) true).run.run ⟨some "stale", renamed⟩).Yields
      unshownTurns (.error (.read .read "new" (.api 500 ["internal error"])), ⟨some "new", renamed⟩) :=
    .turn (.turn (.turn (.turn (.start _))))
  obtain ⟨_, _, _, hpass⟩ := state_after_operation ⟨some "stale", renamed⟩
  obtain ⟨_, hid⟩ := hpass (some ⟨"old", some "a", none⟩) true _ _ _ hyields
  refine ⟨hyields, ⟨_, .tail _ (.tail _ (.head _)), .inl ⟨_, rfl⟩, _, rfl, rfl, by decide⟩, hid _ rfl⟩

end IdentityGroups.Sync
