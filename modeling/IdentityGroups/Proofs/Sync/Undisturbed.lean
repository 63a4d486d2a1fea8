import Mathlib
import IdentityGroups.Proofs.Sync.Alone
import IdentityGroups.Proofs.Sync.Independence

/-! # Passes that do not disturb each other

Of passes over different groups each goes in the shared store as it would go in a store of its own, which has
what the pass owns and hands out the id that the pass is given. So each ends as it would have ended alone, but
for the id of a group that it makes, and what no pass owns stays as it was.
-/

namespace IdentityGroups.Sync
open Program Vault Vault.Store
variable {α β ι : Type} {s t u f : Store} {id : String} {stored : Stored} {i : ι} {task : ι → Task} {s₀ : Store}

/-- The store `f` has of what the pass `i` owns just what the shared store `s` has. -/
structure Mirrors (task : ι → Task) (s₀ : Store) (i : ι) (f s : Store) : Prop where
  shared : Shared task s₀ s
  wellFormed : WellFormed f
  creates : f.discardsCreates = false
  agree : Agree (task i).Owns f s

/-- The program ends as it does in `f` when the id of a new group is given, and leaves what the pass owns
as it does there. -/
def EndsAs (task : ι → Task) (s₀ : Store) (i : ι) (p : Exchange α) (f : Store) (r : α) (t : Store) : Prop :=
  ∃ a, Addressable a ∧ s₀.groups.find? a = none ∧ (p.run serve (f.handing a)).1 = r ∧
    Agree (task i).Owns (p.run serve (f.handing a)).2 t

abbrev Undisturbed (task : ι → Task) (s₀ : Store) (i : ι) (p : Exchange α) (f s : Store) : Prop :=
  p.Secure serve (Rely task s₀ i) (Guarantee task s₀ i) (EndsAs task s₀ i p f) s

section
variable {p : Exchange α}

theorem Mirrors.rely (h : Mirrors task s₀ i f s) (ht : Rely task s₀ i s t) : Mirrors task s₀ i f t := by
  obtain ⟨hst, ha⟩ := ht h.shared
  exact ⟨hst, h.wellFormed, h.creates, h.agree.trans ha⟩

theorem Mirrors.idForName?_eq (h : Mirrors task s₀ i f s) :
    f.idForName? (task i).group.name = s.idForName? (task i).group.name :=
  h.agree.idForName?_eq h.wellFormed h.shared.wellFormed fun _ _ => .inr

theorem undisturbed_done (hids : Supplied task s₀) (h : Mirrors task s₀ i f s) (r : α) :
    Undisturbed task s₀ i (done r) f s := by
  have hcard := zero_lt_card i
  intro t ht
  exact ⟨s₀.upcoming 0, hids.addressable hcard, hids.unused hcard, rfl, (h.rely ht).agree⟩

theorem Undisturbed.map (F : α → β) (h : Undisturbed task s₀ i p f s) :
    Undisturbed task s₀ i (p >>= fun r => done (F r)) f s := by
  refine Secure.map F h ?_
  rintro r t ⟨a, ha, hunused, hrun, hagree⟩
  refine ⟨a, ha, hunused, ?_, ?_⟩
  · rw [run_bind, run_done, hrun]
  · rw [run_bind, run_done]
    exact hagree

/-- A request that is answered alike in both stores, whatever id is to be given. -/
theorem undisturbed_call {request : Request} {next : Reply → Exchange α} (h : Mirrors task s₀ i f s)
    (hnext : ∀ t, Mirrors task s₀ i f t → ∃ f',
      (∀ a, serve request (f.handing a) = ((serve request t).1, f'.handing a)) ∧
      Guarantee task s₀ i t (serve request t).2 ∧
      Undisturbed task s₀ i (next (serve request t).1) f' (serve request t).2) :
    Undisturbed task s₀ i (call request next) f s := by
  intro t ht
  obtain ⟨f', hserve, hg, hn⟩ := hnext t (h.rely ht)
  refine ⟨hg, hn.imp ?_⟩
  rintro r u ⟨a, ha, hunused, hrun, hagree⟩
  refine ⟨a, ha, hunused, ?_, ?_⟩
  · rw [run_call, hserve a]
    exact hrun
  · rw [run_call, hserve a]
    exact hagree

end

/-! ## The operations of a pass -/

def Known (task : ι → Task) (i : ι) (f : Store) (id : String) : Prop :=
  ∀ t, Agree (task i).Owns f t → t.groups.find? id = f.groups.find? id

theorem known_tracked {x : Tracked} (hx : (task i).tracked = some x) (f : Store) : Known task i f x.id :=
  fun _ h => (h.find?_eq fun _ => .inl ⟨x, hx, rfl⟩).symm

theorem known_owned (hf : f.groups.find? id = some stored) (ho : (task i).Owns id stored) :
    Known task i f id := fun _ h => ((h id stored ho).1 hf).trans hf.symm

theorem undisturbed_read (hids : Supplied task s₀) (h : Mirrors task s₀ i f s) (hid : Addressable id)
    (hk : Known task i f id) (g : Group) : Undisturbed task s₀ i (read.run.run ⟨some id, g⟩) f s := by
  rw [run_read rfl]
  refine undisturbed_call h fun t ht => ⟨f, fun a => ?_, ?_, ?_⟩
  · rw [serve_read_id hid, serve_read_id hid, hk t ht.agree]
    rfl
  · rw [serve_read_id hid]
    exact guarantee_refl task s₀ i t
  · rw [serve_read_id hid]
    exact undisturbed_done hids ht _

theorem undisturbed_update (hids : Supplied task s₀) (h : Mirrors task s₀ i f s) (hid : Addressable id)
    (hk : Known task i f id) (ho : ∀ stored, f.groups.find? id = some stored → (task i).Owns id stored)
    (g : Group) : Undisturbed task s₀ i (update.run.run ⟨some id, g⟩) f s := by
  rw [run_update rfl]
  refine undisturbed_call h fun t ht => ?_
  have hkt := hk t ht.agree
  cases hf : f.groups.find? id with
  | none =>
    have hserve : ∀ u : Store, u.groups.find? id = none →
        serve (.write (Group.idPath id) g.updateBody) u = (.error (.api 400 ["group not found"]), u) := by
      intro u hu
      rw [serve_update hid, hu]
    rw [hserve t (hkt.trans hf)]
    refine ⟨f, fun a => hserve _ hf, guarantee_refl task s₀ i t, undisturbed_done hids ht _⟩
  | some stored =>
    have hserve : ∀ u : Store, u.groups.find? id = some stored →
        serve (.write (Group.idPath id) g.updateBody) u = (.ok none, u.put id (sent g stored)) := by
      intro u hu
      rw [serve_update hid, hu]
    have hft := hkt.trans hf
    have howned := ho stored hf
    rw [hserve t hft]
    refine ⟨f.put id (sent g stored), fun a => hserve _ hf, fun hs => ⟨hs.put_sent hft g, ?_⟩, ?_⟩
    · refine agree_put (fun stored' hf' => ?_) (howned.sent g)
      cases hft.symm.trans hf'
      exact howned
    · have hput : (f.put id (sent g stored)).groups.find? id = some (sent g stored) := by
        rw [find?_put, if_pos rfl]
      refine undisturbed_read hids ?_ hid (known_owned hput (howned.sent g)) g
      exact ⟨ht.shared.put_sent hft g, h.wellFormed.put_sent hf g, h.creates, ht.agree.put id _⟩

/-- A pass that found its name free is given an id. From there the store `f` is one that gave that id. -/
theorem undisturbed_create (hi : Independent task s₀) (hids : Supplied task s₀) (h : Mirrors task s₀ i f s)
    (hfree : f.idForName? (task i).group.name = none) :
    Undisturbed task s₀ i (create.run.run ⟨none, (task i).group⟩) f s := by
  have hne := (hi.valid i).name_ne_empty
  rw [run_create]
  intro t ht
  obtain ⟨hshared, _, _, hagree⟩ := h.rely ht
  have hfree' : t.idForName? (task i).group.name = none := (h.rely ht).idForName?_eq ▸ hfree
  obtain ⟨ha, hunused, hunused₀, _⟩ := hshared.next hids hfree'
  have hmade := hshared.put_made hi hids hfree'
  have hname : nameOf? (made t.takeId.1 (task i).group) = some (task i).group.name :=
    nameOf?_eq_some_iff.2 (find?_name_made _ _)
  obtain ⟨g', hshows⟩ := exists_shows (sound_made ha hne) (task i).group
  have hrun := serve_creating (s := f.handing t.takeId.1) none h.creates hne hfree ha hshows
  rw [run_create] at hrun
  rw [serve_create hne hshared.creates hfree']
  simp only [filled?_answered ha.1]
  refine ⟨fun _ => ⟨hmade, ?_⟩, ?_⟩
  · have hput : Agree (fun id stored => ¬ (task i).Owns id stored) t.takeId.2
        (t.takeId.2.put t.takeId.1 (made t.takeId.1 (task i).group)) := by
      refine agree_put (fun stored hf => ?_) (.inr hname)
      rw [takeId_groups, hunused] at hf
      cases hf
    exact (Agree.of_groups (takeId_groups t).symm).trans hput
  · have hput : (f.put t.takeId.1 (made t.takeId.1 (task i).group)).groups.find? t.takeId.1 =
        some (made t.takeId.1 (task i).group) := by
      rw [find?_put, if_pos rfl]
    have hmirrors : Mirrors task s₀ i (f.put t.takeId.1 (made t.takeId.1 (task i).group))
        (t.takeId.2.put t.takeId.1 (made t.takeId.1 (task i).group)) := by
      refine ⟨hmade, h.wellFormed.put_made ha hne hfree, h.creates, ?_⟩
      exact (hagree.trans (.of_groups (takeId_groups t).symm)).put _ _
    have hread := undisturbed_read hids hmirrors ha (known_owned hput (.inr hname)) (task i).group
    refine Secure.map _ hread ?_
    rintro r u ⟨b, _, _, hr, hu⟩
    rw [serve_reading ha] at hr hu
    have hfound : ((f.put t.takeId.1 (made t.takeId.1 (task i).group)).handing b).groups.find? t.takeId.1 =
        some (made t.takeId.1 (task i).group) := hput
    rw [hfound, Option.map_some, afterRead_readView _ hshows] at hr
    refine ⟨t.takeId.1, ha, hunused₀, ?_, ?_⟩
    · rw [hrun, ← hr]
      rfl
    · rw [hrun]
      exact hu

theorem undisturbed_claim (hi : Independent task s₀) (hids : Supplied task s₀) (h : Mirrors task s₀ i f s)
    (replaced : Option String) :
    Undisturbed task s₀ i ((claim replaced).run.run ⟨none, (task i).group⟩) f s := by
  have hne := (hi.valid i).name_ne_empty
  rw [run_claim]
  refine undisturbed_call h fun t ht => ?_
  have hname := ht.idForName?_eq
  have hheld : ∀ id, f.idForName? (task i).group.name = some id →
      ∃ stored, f.groups.find? id = some stored ∧ (task i).Owns id stored ∧ Known task i f id := by
    intro id hf
    obtain ⟨stored, hstored, hn⟩ := held_of_idForName? hf
    exact ⟨stored, hstored, .inr hn, known_owned hstored (.inr hn)⟩
  have hreply : ∀ a, serve (.read (Group.namePath (task i).group.name)) (f.handing a) =
      ((serve (.read (Group.namePath (task i).group.name)) t).1, f.handing a) := by
    intro a
    rw [serve_read_name hne, serve_read_name hne]
    have hfa : (f.handing a).idForName? (task i).group.name = f.idForName? (task i).group.name := rfl
    rw [hfa, ← hname]
    cases hf : f.idForName? (task i).group.name with
    | none => rfl
    | some id =>
      obtain ⟨stored, hstored, _, hk⟩ := hheld id hf
      rw [Option.bind_some, Option.bind_some, hk t ht.agree]
      rfl
  refine ⟨f, hreply, ?_, ?_⟩
  · rw [serve_read_name hne]
    exact guarantee_refl task s₀ i t
  · rw [found_served ht.shared.wellFormed.indexed hne, ← hname, serve_read_name hne]
    cases hf : f.idForName? (task i).group.name with
    | none => exact (undisturbed_create hi hids ht hf).map _
    | some id =>
      obtain ⟨stored, hstored, howned, hk⟩ := hheld id hf
      refine (undisturbed_update hids ht (h.wellFormed.sound hstored).addressable hk ?_ _).map _
      intro stored' hstored'
      cases hstored.symm.trans hstored'
      exact howned

theorem undisturbed_pass (hi : Independent task s₀) (hids : Supplied task s₀) (h : Mirrors task s₀ i f s) :
    Undisturbed task s₀ i (task i).program f s := by
  rw [Task.program, run_pass]
  cases hx : (task i).tracked with
  | none => exact undisturbed_claim hi hids h none
  | some x =>
    have hid := hi.tracked hx
    simp only
    split
    · refine undisturbed_call h fun t ht => ⟨f.drop x.id, fun a => ?_, ?_, ?_⟩
      · rw [serve_delete hid, serve_delete hid]
        rfl
      · rw [serve_delete hid]
        exact fun hs => ⟨hs.drop hids hx, agree_drop fun _ _ => .inl ⟨x, hx, rfl⟩⟩
      · rw [serve_delete hid]
        refine undisturbed_claim hi hids ?_ (some x.id)
        exact ⟨ht.shared.drop hids hx, h.wellFormed.drop x.id, h.creates, ht.agree.drop x.id⟩
    · rw [run_maintain]
      split
      · exact (undisturbed_update hids h hid (known_tracked hx f) (fun _ _ => .inl ⟨x, hx, rfl⟩) _).map _
      · exact (undisturbed_read hids h hid (known_tracked hx f) _).map _

/-! ## Every pass ends -/

theorem within_read {st : GroupState} (hid : st.id = some id) : (read.run.run st).Within 1 := by
  rw [run_read hid]
  exact fun _ => trivial

theorem within_update {st : GroupState} (hid : st.id = some id) : (update.run.run st).Within 2 := by
  rw [run_update hid]
  intro reply
  cases reply with
  | error f => exact trivial
  | ok response => exact within_read hid

theorem within_readBack (id : String) (st : GroupState) : (readBack id st).Within 1 :=
  (within_read rfl).map _

theorem within_create (st : GroupState) : (create.run.run st).Within 3 := by
  rw [run_create]
  intro reply
  cases reply with
  | error f => exact trivial
  | ok response =>
    simp only
    cases filled? (response.bind (·.text? "id")) with
    | some id => exact (within_readBack id st).mono (by omega)
    | none =>
      intro reply
      simp only
      rcases found st.group.name reply with e | _ | id
      · exact trivial
      · exact trivial
      · exact within_readBack id st

theorem within_claim (replaced : Option String) (st : GroupState) :
    ((claim replaced).run.run st).Within 4 := by
  rw [run_claim]
  intro reply
  simp only
  rcases found st.group.name reply with e | _ | id
  · exact trivial
  · exact (within_create st).map _
  · exact ((within_update rfl).map _).mono (by omega)

theorem within_pass (k : Task) : k.program.Within 5 := by
  rw [Task.program, run_pass]
  cases k.tracked with
  | none => exact (within_claim none _).mono (by omega)
  | some x =>
    simp only
    split
    · intro reply
      cases reply with
      | error f => exact trivial
      | ok response => exact within_claim _ _
    · rw [run_maintain]
      split
      · exact ((within_update rfl).map _).mono (by omega)
      · exact ((within_read rfl).map _).mono (by omega)

/-! ## Passes that take turns -/

theorem Supplied.clearLog (h : Supplied task s) : Supplied task s.clearLog := by
  have hup : ∀ k, s.clearLog.upcoming k = s.upcoming k := upcoming_clearLog s
  refine ⟨fun hk => ?_, fun hk => ?_, fun hk _ _ hx => ?_, fun hk hl he => ?_⟩
  · rw [hup]
    exact h.addressable hk
  · rw [hup]
    exact h.unused hk
  · rw [hup]
    exact h.untracked hk hx
  · rw [hup, hup] at he
    exact h.distinct hk hl he

theorem Independent.clearLog (h : Independent task s) : Independent task s.clearLog :=
  ⟨h.valid, h.names, h.tracked, h.ids, h.apart⟩

theorem Supplied.working (h : Supplied task s) (i : ι) (hs : WellFormed s) (ht : s.traps = [])
    (hd : s.discardsCreates = false) : Working s :=
  ⟨hs, ht, hd, h.addressable (zero_lt_card i), h.unused (zero_lt_card i)⟩

/-- A pass that ended in the shared store has ended as it would have ended alone. -/
theorem EndsAs.corresponds (hi : Independent task s₀) (hs : Working s₀) {r : Except Error Report × GroupState}
    (h : EndsAs task s₀ i (task i).program s₀ r t) :
    Corresponds (task i).Owns s₀.groups (task i).group (r, t) ((task i).program.run serve s₀) := by
  obtain ⟨a, ha, hunused, rfl, hagree⟩ := h
  have hne := (hi.valid i).name_ne_empty
  have hid : ∀ x, (task i).tracked = some x → Addressable x.id := fun x hx => hi.tracked hx
  have hc : Corresponds (task i).Owns s₀.groups (task i).group ((task i).program.run serve (s₀.handing a))
      ((task i).program.run serve s₀) :=
    corresponds_pass (hs.handing ha hunused) hs rfl hne hid (task i).specChanged (task i).start
  refine hc.of_agree (fun id => .inr ?_) hagree rfl
  exact nameOf?_eq_some_iff.2 (find?_name_made id _)

/-- Passes over different groups, in whatever order they take turns: each comes to an end, which is the one
that it would have come to alone but for the id of a group that it makes, and what is no pass's own stays. -/
theorem independent_passes_undisturbed [DecidableEq ι] (hs : WellFormed s) (ht : s.traps = [])
    (hd : s.discardsCreates = false) (hi : Independent task s) (hids : Supplied task s) {order : List ι}
    {c : (ι → Exchange (Except Error Report × GroupState)) × Store}
    (hc : c = takeTurns Store.answer order (fun i => (task i).program, s)) :
    (∀ i, 5 ≤ order.count i → ∃ r, (c.1 i).result? = some r) ∧
    (∀ i r, (c.1 i).result? = some r → Corresponds (task i).Owns s.groups (task i).group (r, c.2)
      ((task i).program.run Store.answer s)) ∧
    ∀ id stored, (∀ i, ¬ (task i).Owns id stored) →
      (s.groups.find? id = some stored ↔ c.2.groups.find? id = some stored) := by
  -- The store without its log, from which the passes go alike.
  have hi₀ := hi.clearLog
  have hids₀ := hids.clearLog
  have hs₀ : WellFormed s.clearLog := hs.of_groups rfl
  have hshared : Shared task s.clearLog s.clearLog := shared_start hs₀ hd hi₀ hids₀
  have hkeep : ∀ i t u, (Shared task s.clearLog t ∧
      Agree (fun id stored => ∀ i, ¬ (task i).Owns id stored) s.clearLog t) →
      Guarantee task s.clearLog i t u → Shared task s.clearLog u ∧
        Agree (fun id stored => ∀ i, ¬ (task i).Owns id stored) s.clearLog u := by
    rintro i t u ⟨hst, hat⟩ hg
    obtain ⟨hsu, hau⟩ := hg hst
    exact ⟨hsu, hat.trans (hau.mono fun _ _ ho => ho i)⟩
  have hstart : ∀ i, Undisturbed task s.clearLog i (task i).program s.clearLog s.clearLog := by
    intro i
    exact undisturbed_pass hi₀ hids₀ ⟨hshared, hs₀, hd, .refl _ _⟩
  obtain ⟨⟨_, hfree⟩, hends⟩ :=
    takeTurns_secure (compatible hi₀) hkeep ⟨hshared, .refl _ _⟩ hstart order
  obtain ⟨hprograms, hquiet⟩ := takeTurns_related quiet_answer order (fun i => (task i).program) ⟨ht, rfl⟩
  rw [← hc] at hprograms hquiet
  refine ⟨fun i hn => ?_, fun i r hr => ?_, fun id stored ho => ?_⟩
  · have hwithin : ((fun i => (task i).program) i).Within 5 := within_pass (task i)
    obtain ⟨r, hdone⟩ : ∃ r, (takeTurns Store.answer order (fun i => (task i).program, s)).1 i = done r :=
      takeTurns_done hwithin hn
    rw [← hc] at hdone
    exact ⟨r, result?_eq_some_iff.2 hdone⟩
  · rw [hprograms] at hr
    have hend := (hends i).of_result? ((compatible hi₀).refl i) hr
    have hworking := hids₀.working i hs₀ ht hd
    obtain ⟨hres, hq⟩ := run_answer (task i).program ht
    have halone : (task i).program.run Store.answer s = (((task i).program.run serve s.clearLog).1,
        ((task i).program.run Store.answer s).2) := by rw [← hres]
    rw [halone]
    refine (hend.corresponds hi₀ hworking).of_agree ?_ (.of_groups hquiet.groups_eq.symm) hq.groups_eq.symm
    exact fun id => .inr (nameOf?_eq_some_iff.2 (find?_name_made id _))
  · rw [hquiet.groups_eq]
    exact hfree id stored ho

/-! One pass renames the group `a` and another makes the group `c`, while a third group is no one's own. -/

def sharing : Bool → Task
  | false => ⟨some ⟨"old", some "a", none⟩, true, none, { name := "b" }⟩
  | true => ⟨none, false, some "old", { name := "c" }⟩

def sharedStore : Store :=
  (Store.put { nextIds := ["one", "two"] } "old" (made "old" { name := "a" })).put "x" (made "x" { name := "x" })

def afterSharing : (Bool → Exchange (Except Error Report × GroupState)) × Store :=
  takeTurns Store.answer [false, true, false, true, false, true, false]
    (fun i => (sharing i).program, sharedStore)

theorem wellFormed_sharedStore : WellFormed sharedStore :=
  ((wellFormed_of_empty rfl).put_made (by decide) (by decide) rfl).put_made (by decide) (by decide)
    (by decide +kernel)

theorem independent_sharing : Independent sharing sharedStore where
  valid i := by cases i <;> decide
  names {i j} h := by
    cases i <;> cases j <;> first | rfl | exact absurd h (by decide)
  tracked {i x} h := by
    cases i with
    | false =>
      cases h
      decide
    | true => cases h
  ids {i j x y} hi hj _ := by
    cases i with
    | false =>
      cases j with
      | false => rfl
      | true => cases hj
    | true => cases hi
  apart {i j x stored} hi hf hn := by
    cases i with
    | false =>
      cases hi
      have hstored : sharedStore.groups.find? "old" = some (made "old" { name := "a" }) := by decide +kernel
      cases hstored.symm.trans hf
      have hname : nameOf? (made "old" { name := "a" }) = some "a" := by decide +kernel
      cases j with
      | false => rfl
      | true => exact absurd (hname.symm.trans hn) (by decide)
    | true => cases hi

theorem supplied_sharing : Supplied sharing sharedStore := by
  have hlt : ∀ {k : Nat}, (k : ℕ∞) < ENat.card Bool → k = 0 ∨ k = 1 := by
    intro k hk
    rw [ENat.card_eq_coe_fintype_card, Fintype.card_bool] at hk
    have : k < 2 := by exact_mod_cast hk
    omega
  refine ⟨fun hk => ?_, fun hk => ?_, fun hk i x hx => ?_, fun hk hl he => ?_⟩
  · rcases hlt hk with rfl | rfl
    · exact (show Addressable "one" by decide)
    · exact (show Addressable "two" by decide)
  · rcases hlt hk with rfl | rfl
    · exact (show sharedStore.groups.find? "one" = none by decide +kernel)
    · exact (show sharedStore.groups.find? "two" = none by decide +kernel)
  · cases i with
    | false =>
      cases hx
      rcases hlt hk with rfl | rfl
      · exact (show "old" ≠ "one" by decide)
      · exact (show "old" ≠ "two" by decide)
    | true => cases hx
  · rcases hlt hk with rfl | rfl <;> rcases hlt hl with rfl | rfl
    · rfl
    · exact absurd he (show "one" ≠ "two" by decide)
    · exact absurd he (show "two" ≠ "one" by decide)
    · rfl

/-- The pass that renames is given the second id, since the other one makes its group first. -/
theorem independent_passes_undisturbed_sharing :
    (afterSharing.1 false).result?.map (·.2.id) = some (some "two") ∧
    ((sharing false).program.run Store.answer sharedStore).1.2.id = some "one" ∧
    (∀ i r, (afterSharing.1 i).result? = some r →
      Corresponds (sharing i).Owns sharedStore.groups (sharing i).group (r, afterSharing.2)
        ((sharing i).program.run Store.answer sharedStore)) ∧
    afterSharing.2.groups.find? "x" = some (made "x" { name := "x" }) := by
  obtain ⟨_, hends, hfree⟩ := independent_passes_undisturbed wellFormed_sharedStore rfl rfl
    independent_sharing supplied_sharing (c := afterSharing) rfl
  refine ⟨by decide +kernel, by decide +kernel, hends, (hfree "x" _ fun i => ?_).1 (by decide +kernel)⟩
  have hname : nameOf? (made "x" { name := "x" }) = some "x" := by decide +kernel
  rintro (⟨x, hx, hid⟩ | hn)
  · cases i with
    | false =>
      cases hx
      exact absurd hid (by decide)
    | true => cases hx
  · cases i with
    | false => exact absurd (hname.symm.trans hn) (by decide)
    | true => exact absurd (hname.symm.trans hn) (by decide)

end IdentityGroups.Sync
