import Mathlib
import IdentityGroups.Proofs.Program.Interleaving
import IdentityGroups.Proofs.Sync.OnStore

/-! # Passes that race for a name

Passes that track nothing and ask for one name look it up, and adopt the group that has it or create one.
Several may find the name free before any of them creates. The first create then takes the name, every later
one is answered without an id and looks the name up again, and nothing takes the name from its group. What
fails on the way is answered from the failures laid out and changes no group.
-/

namespace IdentityGroups.Sync
open Program Vault Vault.Store
variable {name id : String} {s t : Store} {g : Group} {α β : Type}

/-- A store that gives the name to one group at most, which it creates when it is asked to. -/
structure Contended (name : String) (s : Store) : Prop where
  indexed : Indexed s
  creates : s.discardsCreates = false
  addressable : s.idForName? name = none → Addressable s.takeId.1

def Keeps (name : String) (s t : Store) : Prop :=
  Contended name s → Contended name t ∧ ∀ id, s.idForName? name = some id → t.idForName? name = some id

theorem keeps_refl (name : String) (s : Store) : Keeps name s s := fun h => ⟨h, fun _ hn => hn⟩

theorem keeps_trans (name : String) (s t u : Store) (hst : Keeps name s t) (htu : Keeps name t u) :
    Keeps name s u := by
  intro h
  obtain ⟨ht, hnt⟩ := hst h
  obtain ⟨hu, hnu⟩ := htu ht
  exact ⟨hu, fun id hn => hnu id (hnt id hn)⟩

/-- Neither the log nor the failures laid out decide what the store holds. -/
theorem Contended.noting (h : Contended name s) (log : List Request) (traps : List Trap) :
    Contended name { s with log, traps } where
  indexed := h.indexed.of_groups rfl
  creates := h.creates
  addressable hn := by
    have ha : Addressable s.takeId.1 := h.addressable hn
    unfold takeId at ha ⊢
    cases hids : s.nextIds <;> simpa [hids] using ha

theorem Contended.put_sent {stored : Stored} (h : Contended name s) (hf : s.groups.find? id = some stored)
    (g : Group) : Contended name (s.put id (sent g stored)) where
  indexed := h.indexed.put_sent hf g
  creates := h.creates
  addressable hn := by
    rw [h.indexed.idForName?_put_sent hf] at hn
    rw [takeId_put]
    exact h.addressable hn

theorem Contended.put_made (h : Contended g.name s) (hn : s.idForName? g.name = none) :
    Contended g.name (s.takeId.2.put s.takeId.1 (made s.takeId.1 g)) ∧
      (s.takeId.2.put s.takeId.1 (made s.takeId.1 g)).idForName? g.name = some s.takeId.1 := by
  have hs : Indexed s.takeId.2 := h.indexed.of_groups (takeId_groups s)
  have hn' : s.takeId.2.idForName? g.name = none := by
    rwa [idForName?, takeId_groups]
  have hput := hs.put_made (h.addressable hn) hn'
  have htaken := hput.idForName?_put (nameOf?_eq_some_iff.2 (find?_name_made s.takeId.1 g))
  refine ⟨⟨hput, ?_, fun hfree => ?_⟩, htaken⟩
  · exact (takeId_discardsCreates s).trans h.creates
  · cases htaken.symm.trans hfree

/-! ## Programs that end with the group that has the name -/

/-- What came to an end without an error has the id of the group that has the name. -/
def Agrees (name : String) (r : Except Error α × GroupState) (s : Store) : Prop :=
  ∀ a, r.1 = .ok a → ∃ id, r.2.id = some id ∧ s.idForName? name = some id

abbrev Agreeing (name : String) (p : Exchange (Except Error α × GroupState)) (s : Store) : Prop :=
  p.Secure Store.answer (Keeps name) (Keeps name) (Agrees name) s

theorem agreeing_failed (name : String) (e : Error) (state : GroupState) (s : Store) :
    Agreeing (α := α) name (done (.error e, state)) s := by
  intro t _ a ha
  cases ha

theorem agreeing_done {r : Except Error α × GroupState} (hs : Contended name s)
    (h : ∃ id, r.2.id = some id ∧ s.idForName? name = some id) : Agreeing name (done r) s := by
  obtain ⟨id, hid, hn⟩ := h
  intro t ht a _
  exact ⟨id, hid, (ht hs).2 id hn⟩

theorem Agreeing.map {p : Exchange (Except Error α × GroupState)} (f : GroupState → α → β)
    (h : Agreeing name p s) : Agreeing name (p >>= fun r => done (r.1.map (f r.2), r.2)) s := by
  refine Secure.map _ h fun r t hr b hb => ?_
  obtain ⟨a, ha, _⟩ := map_eq_ok_iff.1 hb
  exact hr a ha

/-- A request that meets a failure changes no group, one that is served must keep the name. -/
theorem agreeing_call {request : Request} {next : Reply → Exchange (Except Error α × GroupState)}
    (hs : Contended name s)
    (hfail : ∀ f t, Contended name t → (∀ id, s.idForName? name = some id → t.idForName? name = some id) →
      Agreeing name (next (.error f)) t)
    (hserve : ∀ t, Contended name t → (∀ id, s.idForName? name = some id → t.idForName? name = some id) →
      Keeps name t (serve request t).2 ∧ Agreeing name (next (serve request t).1) (serve request t).2) :
    Agreeing name (call request next) s := by
  intro t ht
  obtain ⟨htc, htn⟩ := ht hs
  rcases answer_cases request t with ⟨f, traps, ha⟩ | ha
  · rw [ha]
    have hnoted := htc.noting (t.log ++ [request]) traps
    exact ⟨fun _ => ⟨hnoted, fun _ hn => hn⟩, hfail f _ hnoted htn⟩
  · rw [ha]
    have hnoted := htc.noting (t.log ++ [request]) t.traps
    obtain ⟨hk, hn⟩ := hserve { t with log := t.log ++ [request] } hnoted htn
    exact ⟨fun _ => hk hnoted, hn⟩

theorem agreeing_read (hs : Contended name s) (hn : s.idForName? name = some id) (g : Group) :
    Agreeing name (read.run.run ⟨some id, g⟩) s := by
  rw [run_read rfl]
  refine agreeing_call hs (fun f t ht htn => ?_) fun t ht htn => ?_
  · simp only [afterRead]
    split
    · exact agreeing_done ht ⟨id, rfl, htn id hn⟩
    · exact agreeing_failed _ _ _ _
  · obtain ⟨stored, hf, _⟩ := ht.indexed.idForName?_eq_some_iff.1 (htn id hn)
    rw [serve_read_id (ht.indexed.addressable hf), hf, Option.map_some]
    refine ⟨keeps_refl name t, ?_⟩
    simp only [afterRead, payload?_readView]
    cases Observed.decode ((readView stored).data.getD .empty) with
    | error m => exact agreeing_failed _ _ _ _
    | ok observed => exact agreeing_done ht ⟨id, rfl, htn id hn⟩

theorem agreeing_update (hs : Contended name s) (hn : s.idForName? name = some id) (g : Group) :
    Agreeing name (update.run.run ⟨some id, g⟩) s := by
  rw [run_update rfl]
  refine agreeing_call hs (fun f t ht htn => agreeing_failed _ _ _ _) fun t ht htn => ?_
  obtain ⟨stored, hf, _⟩ := ht.indexed.idForName?_eq_some_iff.1 (htn id hn)
  rw [serve_update (ht.indexed.addressable hf), hf]
  simp only
  have hput := ht.put_sent hf g
  have hkeep : ∀ i, t.idForName? name = some i → (t.put id (sent g stored)).idForName? name = some i := by
    intro i hi
    rwa [ht.indexed.idForName?_put_sent hf]
  exact ⟨fun _ => ⟨hput, hkeep⟩, agreeing_read hput (hkeep id (htn id hn)) g⟩

theorem agreeing_readBack (hs : Contended name s) (hn : s.idForName? name = some id) (state : GroupState) :
    Agreeing name (readBack id state) s :=
  (agreeing_read hs hn state.group).map fun _ _ => id

theorem agreeing_create (hs : Contended g.name s) (hne : g.name ≠ "") :
    Agreeing g.name (create.run.run ⟨none, g⟩) s := by
  rw [run_create]
  refine agreeing_call hs (fun f t ht htn => agreeing_failed _ _ _ _) fun t ht _ => ?_
  cases hn : t.idForName? g.name with
  | none =>
    rw [serve_create hne ht.creates hn]
    simp only [filled?_answered (ht.addressable hn).1]
    obtain ⟨hput, htaken⟩ := ht.put_made hn
    refine ⟨fun _ => ⟨hput, fun i hi => ?_⟩, agreeing_readBack hput htaken _⟩
    cases hn.symm.trans hi
  | some id =>
    -- The name was taken after this pass had looked it up.
    obtain ⟨stored, hf, _⟩ := ht.indexed.idForName?_eq_some_iff.1 hn
    rw [serve_create_held hne ht.creates hn hf]
    have hput := ht.put_sent hf g
    have hkeep : ∀ i, t.idForName? g.name = some i →
        (t.put id (sent g stored)).idForName? g.name = some i := by
      intro i hi
      rwa [ht.indexed.idForName?_put_sent hf]
    refine ⟨fun _ => ⟨hput, hkeep⟩, ?_⟩
    refine agreeing_call hput (fun f u hu hun => agreeing_failed _ _ _ _) fun u hu hun => ?_
    have hheld := hun id (hkeep id hn)
    rw [found_served hu.indexed hne, hheld, serve_read_name hne]
    exact ⟨keeps_refl g.name u, agreeing_readBack hu hheld _⟩

theorem agreeing_claim (hs : Contended g.name s) (hne : g.name ≠ "") :
    Agreeing g.name ((claim none).run.run ⟨none, g⟩) s := by
  rw [run_claim]
  refine agreeing_call hs (fun f t ht htn => agreeing_failed _ _ _ _) fun t ht htn => ?_
  rw [found_served ht.indexed hne, serve_read_name hne]
  refine ⟨keeps_refl g.name t, ?_⟩
  cases hn : t.idForName? g.name with
  | none =>
    have hcreate := agreeing_create ht hne
    exact hcreate.map fun state _ =>
      (⟨Action.created.orReplaced none, if state.id.isSome then .refreshed else .gone⟩ : Report)
  | some id =>
    have hupdate := agreeing_update ht hn g
    exact hupdate.map fun _ outcome => (⟨Action.adopted.orReplaced none, outcome⟩ : Report)

theorem agreeing_pass (hs : Contended g.name s) (hne : g.name ≠ "") (specChanged : Bool) (i : Option String) :
    Agreeing g.name ((pass none specChanged).run.run ⟨i, g⟩) s := by
  rw [run_pass]
  exact agreeing_claim hs hne

/-- Passes that track nothing and ask for one name, however they take turns and whatever fails on the way:
at most one group has the name, and a pass that succeeds ends with the id of that group. -/
theorem racing_passes_agree {ι : Type} [DecidableEq ι] (group : ι → Group) (specChanged : ι → Bool)
    (start : ι → Option String) (hs : Indexed s) (hd : s.discardsCreates = false)
    (hid : Addressable s.takeId.1) (hne : name ≠ "") (hg : ∀ i, (group i).name = name) {order : List ι}
    {c : (ι → Exchange (Except Error Report × GroupState)) × Store}
    (hc : c = takeTurns Store.answer order
      (fun i => (pass none (specChanged i)).run.run ⟨start i, group i⟩, s)) :
    (∀ id id' stored stored', c.2.groups.find? id = some stored → c.2.groups.find? id' = some stored' →
      nameOf? stored = some name → nameOf? stored' = some name → id = id') ∧
    ∀ i report state, (c.1 i).result? = some (.ok report, state) → ∃ id stored, state.id = some id ∧
      c.2.groups.find? id = some stored ∧ nameOf? stored = some name := by
  have hcontended : Contended name s := ⟨hs, hd, fun _ => hid⟩
  have hcompat : Compatible (fun _ : ι => Keeps name) (fun _ => Keeps name) :=
    ⟨fun _ => keeps_refl name, fun _ => keeps_trans name, fun _ _ _ h => h⟩
  have hps : ∀ i, Agreeing name ((pass none (specChanged i)).run.run ⟨start i, group i⟩) s := by
    intro i
    have hci : Contended (group i).name s := (hg i).symm ▸ hcontended
    have hnei : (group i).name ≠ "" := (hg i).symm ▸ hne
    exact hg i ▸ agreeing_pass hci hnei (specChanged i) (start i)
  obtain ⟨ht, hends⟩ := takeTurns_secure hcompat (fun _ t u ht hk => (hk ht).1) hcontended hps order
  rw [← hc] at ht hends
  refine ⟨fun id id' stored stored' hf hf' hn hn' => ?_, fun i report state hi => ?_⟩
  · exact ht.indexed.unique hf hf' (hn.trans hn'.symm)
  · have hend : Agrees name (Except.ok report, state) c.2 := (hends i).of_result? (keeps_refl name) hi
    obtain ⟨id, hid, hn⟩ := hend report rfl
    obtain ⟨stored, hf, hname⟩ := ht.indexed.idForName?_eq_some_iff.1 hn
    exact ⟨id, stored, hid, hf, hname⟩

/-! Two passes, one for an internal and one for an external group, both find the name free. The credential
expires before the group is read back. -/

def racer : Bool → Group
  | false => { name := "g" }
  | true => { name := "g", kind := .external, policies := some ["p"] }

def raceStore : Store where
  nextIds := ["one", "two"]
  traps := [⟨.read, some "identity/group/id/one", .api 403 ["invalid accessor"]⟩]

def afterRace : (Bool → Exchange (Except Error Report × GroupState)) × Store :=
  takeTurns Store.answer [false, true, true, false, true, false, false]
    (fun i => (pass none true).run.run ⟨none, racer i⟩, raceStore)

/-- Both passes say that they created the group, and both have the id of the only one there is. -/
theorem racing_passes_agree_external :
    (afterRace.1 false).result?.map (·.1) = some (.ok ⟨.created, .refreshed⟩) ∧
    (afterRace.1 true).result?.map (·.1) = some (.ok ⟨.created, .refreshed⟩) ∧
    ∀ i report state, (afterRace.1 i).result? = some (.ok report, state) → ∃ id stored,
      state.id = some id ∧ afterRace.2.groups.find? id = some stored ∧ nameOf? stored = some "g" := by
  have hs : Indexed raceStore := (wellFormed_of_empty rfl).indexed
  have hg : ∀ i, (racer i).name = "g" := by
    intro i
    cases i <;> rfl
  have hid : Addressable raceStore.takeId.1 := by
    change Addressable "one"
    decide
  exact ⟨by decide +kernel, by decide +kernel,
    (racing_passes_agree racer (fun _ => true) (fun _ => none) hs rfl hid (by decide) hg
      (c := afterRace) rfl).2⟩

end IdentityGroups.Sync
