import Mathlib
import IdentityGroups.Proofs.Program.Fault
import IdentityGroups.Proofs.Sync.Claims

/-! # Passes that meet one failure

One request of a pass fails and has no effect. The pass then fails, or it was a read and the credential had
expired. A pass that failed either knows no id, and at most deleted the group it was to replace, or it knows
the id of a group that has the name and the kind asked for. From each of these states the next pass, which
sends the attributes, succeeds.
-/

namespace IdentityGroups.Sync
open Program Vault Vault.Store
variable {α β : Type} {s t u : Store} {g : Group} {id : String} {stored : Stored} {tracked : Option Tracked}
  {P : GroupState → Store → Prop} {f : Failure}

def failing (f : Failure) (_ : Request) (s : Store) : Reply × Store := (.error f, s)

/-- If the program ends in an error, with or without the failure of a request, then in a state and a store
with the property `P`. -/
abbrev Withstands (f : Failure) (P : GroupState → Store → Prop)
    (p : Exchange (Except Error α × GroupState)) (s : Store) : Prop :=
  p.Despite serve (failing f) (fun r t => ∀ e, r.1 = .error e → P r.2 t) s

theorem Withstands.map {p : Exchange (Except Error α × GroupState)} (F : GroupState → α → β)
    (h : Withstands f P p s) : Withstands f P (p >>= fun r => done (r.1.map (F r.2), r.2)) s := by
  refine Despite.map _ h fun r t hr e he => ?_
  obtain ⟨_ | _, state⟩ := r
  · exact hr _ rfl
  · cases he

/-! ## Groups under an id -/

/-- The group stored under the id has the name and the kind of `g`, and nothing else differs from `u`. The id
is that of a group of `u` or the next to be given. -/
structure Assigned (u : Store) (g : Group) (id : String) (t : Store) (stored : Stored) : Prop where
  wellFormed : WellFormed t
  source : (u.groups.find? id).isSome ∨ id = u.takeId.1
  held : t.groups.find? id = some stored
  name : nameOf? stored = some g.name
  kind : stored.find? "type" = some (.str g.kind.word)
  others (other : String) (h : other ≠ id) : t.groups.find? other = u.groups.find? other

theorem assigned_of_held (hu : WellFormed u) (hf : u.groups.find? id = some stored)
    (hn : nameOf? stored = some g.name) (hk : stored.find? "type" = some (.str g.kind.word)) :
    Assigned u g id u stored := ⟨hu, .inl (by rw [hf]; rfl), hf, hn, hk, fun _ _ => rfl⟩

theorem Assigned.put_sent (h : Assigned u g id t stored) :
    Assigned u g id (t.put id (sent g stored)) (sent g stored) where
  wellFormed := h.wellFormed.put_sent h.held g
  source := h.source
  held := by rw [find?_put, if_pos rfl]
  name := by rw [nameOf?_sent, h.name]
  kind := (find?_sent_of_not_mem g (by decide)).trans h.kind
  others other ho := by rw [find?_put, if_neg ho.symm, h.others other ho]

theorem assigned_made (hu : Working u) (hn : g.name ≠ "") (hfree : u.idForName? g.name = none) :
    Assigned u g u.takeId.1 (u.takeId.2.put u.takeId.1 (made u.takeId.1 g)) (made u.takeId.1 g) where
  wellFormed := by
    have hw : WellFormed u.takeId.2 := hu.wellFormed.of_groups (takeId_groups u)
    refine hw.put_made hu.addressable hn ?_
    rwa [Store.idForName?, takeId_groups]
  source := .inr rfl
  held := by rw [find?_put, if_pos rfl]
  name := nameOf?_eq_some_iff.2 (find?_name_made _ g)
  kind := find?_type_made _ g
  others other ho := by rw [find?_put, if_neg ho.symm, takeId_groups]

theorem Assigned.shows (h : Assigned u g id t stored) :
    ∃ g', Shows stored g g' ∧ g'.name = g.name ∧ g'.kind = g.kind := by
  have hsound := h.wellFormed.sound h.held
  obtain ⟨g', hg⟩ := exists_shows hsound g
  exact ⟨g', hg, hg.eq_of_sound hsound (nameOf?_eq_some_iff.1 h.name) h.kind⟩

/-! ## Where an operation may fail -/

theorem withstands_read (h : Assigned u g id t stored) (hP : P ⟨some id, g⟩ t) :
    Withstands f P (read.run.run ⟨some id, g⟩) t := by
  obtain ⟨g', hg, _⟩ := h.shows
  rw [run_read rfl]
  refine ⟨fun _ _ => hP, ?_⟩
  rw [serve_read_id (h.wellFormed.sound h.held).addressable, h.held, Option.map_some]
  simp only [afterRead_readView (some id) hg]
  intro e he
  cases he

theorem withstands_update (h : Assigned u g id t stored) (hP : ∀ t stored, Assigned u g id t stored →
    P ⟨some id, g⟩ t) : Withstands f P (update.run.run ⟨some id, g⟩) t := by
  rw [run_update rfl]
  refine ⟨fun _ _ => hP t stored h, ?_⟩
  rw [serve_update (h.wellFormed.sound h.held).addressable, h.held]
  exact withstands_read h.put_sent (hP _ _ h.put_sent)

theorem withstands_create (hu : Working u) (hn : g.name ≠ "") (hfree : u.idForName? g.name = none)
    (h0 : P ⟨none, g⟩ u) (hP : ∀ id t stored, Assigned u g id t stored → P ⟨some id, g⟩ t) :
    Withstands f P (create.run.run ⟨none, g⟩) u := by
  have hmade := assigned_made hu hn hfree
  rw [run_create]
  refine ⟨fun _ _ => h0, ?_⟩
  rw [serve_create hn hu.creates hfree]
  simp only [filled?_answered hu.addressable.1]
  exact (withstands_read hmade (hP _ _ _ hmade)).map fun _ _ => u.takeId.1

def KindSettled (u : Store) (g : Group) : Prop :=
  ∀ id stored, u.groups.find? id = some stored → nameOf? stored = some g.name →
    stored.find? "type" = some (.str g.kind.word)

theorem withstands_claim (hu : Working u) (hk : KindSettled u g) (hn : g.name ≠ "") (replaced : Option String)
    (h0 : P ⟨none, g⟩ u) (hP : ∀ id t stored, Assigned u g id t stored → P ⟨some id, g⟩ t) :
    Withstands f P ((claim replaced).run.run ⟨none, g⟩) u := by
  rw [run_claim]
  refine ⟨fun _ _ => h0, ?_⟩
  simp only [found_served hu.wellFormed.indexed hn]
  rw [serve_read_name hn]
  cases hf : u.idForName? g.name with
  | none =>
    have hcreate : Withstands f P (create.run.run ⟨none, g⟩) u := withstands_create hu hn hf h0 hP
    exact hcreate.map fun state _ =>
      (⟨Action.created.orReplaced replaced, if state.id.isSome then .refreshed else .gone⟩ : Report)
  | some id =>
    obtain ⟨stored, hstored, hname⟩ := held_of_idForName? hf
    have hheld := assigned_of_held hu.wellFormed hstored hname (hk id stored hstored hname)
    have hupdate : Withstands f P (update.run.run ⟨some id, g⟩) u := withstands_update hheld (hP id)
    exact hupdate.map fun _ outcome => (⟨Action.adopted.orReplaced replaced, outcome⟩ : Report)

/-! ## What a failed pass leaves -/

/-- What is tracked is stored with the name and the kind it was reported with, and no other group has the
desired name and another kind. -/
structure Tracks (s : Store) (tracked : Option Tracked) (g : Group) : Prop where
  reported {x : Tracked} (h : tracked = some x) : ∃ stored name kind, s.groups.find? x.id = some stored ∧
    x.name = some name ∧ nameOf? stored = some name ∧
    x.kind = some kind ∧ stored.find? "type" = some (.str kind.word)
  settled {id : String} {stored : Stored} (hf : s.groups.find? id = some stored)
    (hn : nameOf? stored = some g.name) (ho : ∀ x, tracked = some x → x.id ≠ id) :
    stored.find? "type" = some (.str g.kind.word)

def cleared (tracked : Option Tracked) (g : Group) (s : Store) : Store :=
  match tracked with
  | none => s
  | some x => if g.mustReplace x then s.drop x.id else s

theorem cleared_replacing {x : Tracked} (hr : g.mustReplace x) : cleared (some x) g s = s.drop x.id := if_pos hr

theorem cleared_keeping {x : Tracked} (hr : g.mustReplace x = false) : cleared (some x) g s = s :=
  if_neg (by simp [hr])

theorem Tracks.held {x : Tracked} (h : Tracks s (some x) g) (hs : WellFormed s) (hr : g.mustReplace x = false) :
    ∃ stored, Assigned s g x.id s stored := by
  obtain ⟨stored, name, kind, hf, hxn, hn, hxk, hk⟩ := h.reported rfl
  simp only [Group.mustReplace, hxn, hxk, Option.any_some, Bool.or_eq_false_iff, decide_eq_false_iff_not,
    not_not] at hr
  obtain ⟨rfl, rfl⟩ := hr
  exact ⟨stored, assigned_of_held hs hf hn hk⟩

theorem Tracks.kindSettled (h : Tracks s tracked g) (hr : ∀ x, tracked = some x → g.mustReplace x) :
    KindSettled (cleared tracked g s) g := by
  intro id stored hf hn
  cases tracked with
  | none => exact h.settled hf hn fun x hx => by cases hx
  | some x =>
    rw [cleared_replacing (hr x rfl), find?_drop] at hf
    split at hf
    · cases hf
    · rename_i hne
      refine h.settled hf hn fun y hy => ?_
      cases hy
      exact hne

/-- The group that a pass replaces is gone, for its id is not given again. -/
theorem Tracks.gone {x : Tracked} (h : Tracks s (some x) g) (hs : Working s) (hr : g.mustReplace x)
    (ha : Assigned (cleared (some x) g s) g id t stored) : t.groups.find? x.id = none := by
  obtain ⟨former, _, _, hf, _⟩ := h.reported rfl
  rw [cleared_replacing hr] at ha
  have hne : x.id ≠ id := by
    rintro rfl
    rcases ha.source with hsource | hsource
    · rw [find?_drop, if_pos rfl] at hsource
      cases hsource
    · rw [takeId_drop] at hsource
      rw [hsource, hs.unused] at hf
      cases hf
  rw [ha.others x.id hne, find?_drop, if_pos rfl]

theorem working_cleared (hs : Working s) (tracked : Option Tracked) (g : Group) :
    Working (cleared tracked g s) := by
  unfold cleared
  cases tracked with
  | none => exact hs
  | some x =>
    simp only
    split
    · exact hs.drop x.id
    · exact hs

/-- What a pass over `g` that failed knows of its group, and what it left of the store `s`. -/
inductive Leaves (tracked : Option Tracked) (g : Group) (s : Store) : GroupState → Store → Prop
  /-- At most the group to be replaced was deleted. -/
  | unknown {t : Store} (hr : ∀ x, tracked = some x → g.mustReplace x)
      (ht : t = s ∨ t = cleared tracked g s) : Leaves tracked g s ⟨none, g⟩ t
  | known {id : String} {t : Store} {stored : Stored}
      (hx : ∀ x, tracked = some x → g.mustReplace x = false → x.id = id)
      (h : Assigned (cleared tracked g s) g id t stored) : Leaves tracked g s ⟨some id, g⟩ t

theorem withstands_untracked (hs : Working s) (ht : Tracks s none g) (hn : g.name ≠ "") (f : Failure)
    (specChanged : Bool) (i : Option String) :
    Withstands f (Leaves none g s) ((pass none specChanged).run.run ⟨i, g⟩) s := by
  have hr : ∀ x, (none : Option Tracked) = some x → g.mustReplace x := by
    intro x hx
    cases hx
  rw [run_pass]
  refine withstands_claim (working_cleared hs none g) (ht.kindSettled hr) hn none (.unknown hr (.inl rfl)) ?_
  intro id t stored h
  refine .known ?_ h
  intro x hx
  cases hx

theorem withstands_replacing {x : Tracked} (hs : Working s) (ht : Tracks s (some x) g) (hn : g.name ≠ "")
    (hmust : g.mustReplace x) (f : Failure) (specChanged : Bool) (i : Option String) :
    Withstands f (Leaves (some x) g s) ((pass (some x) specChanged).run.run ⟨i, g⟩) s := by
  obtain ⟨stored, _, _, hf, _⟩ := ht.reported rfl
  have hr : ∀ y, some x = some y → g.mustReplace y := by
    rintro y ⟨⟩
    exact hmust
  have hcleared : cleared (some x) g s = s.drop x.id := cleared_replacing hmust
  rw [run_pass]
  simp only [hmust, if_true]
  refine ⟨fun _ _ => .unknown hr (.inl rfl), ?_⟩
  -- From here on the group is deleted, and a failure leaves the id that was tracked.
  rw [serve_delete (hs.wellFormed.sound hf).addressable, ← hcleared]
  refine withstands_claim (working_cleared hs (some x) g) (ht.kindSettled hr) hn (some x.id)
    (.unknown hr (.inr rfl)) ?_
  intro id t stored h
  refine .known ?_ h
  rintro y ⟨⟩ hfalse
  cases hmust.symm.trans hfalse

theorem withstands_keeping {x : Tracked} (hs : Working s) (ht : Tracks s (some x) g)
    (hmust : g.mustReplace x = false) (f : Failure) (specChanged : Bool) (i : Option String) :
    Withstands f (Leaves (some x) g s) ((pass (some x) specChanged).run.run ⟨i, g⟩) s := by
  obtain ⟨stored, hheld⟩ := ht.held hs.wellFormed hmust
  have hcleared : cleared (some x) g s = s := cleared_keeping hmust
  have hknown : ∀ t stored, Assigned s g x.id t stored → Leaves (some x) g s ⟨some x.id, g⟩ t := by
    intro t stored h
    refine .known ?_ (hcleared.symm ▸ h)
    rintro y ⟨⟩ _
    rfl
  rw [run_pass]
  simp only [hmust, Bool.false_eq_true, if_false]
  rw [run_maintain]
  cases specChanged with
  | true =>
    simp only [if_true]
    have hupdate : Withstands f (Leaves (some x) g s) (update.run.run ⟨some x.id, g⟩) s :=
      withstands_update hheld hknown
    exact hupdate.map fun _ => Report.mk .updated
  | false =>
    simp only [Bool.false_eq_true, if_false]
    have hread : Withstands f (Leaves (some x) g s) (read.run.run ⟨some x.id, g⟩) s :=
      withstands_read hheld (hknown s stored hheld)
    exact hread.map fun _ => Report.mk .refreshed

theorem withstands_pass (hs : Working s) (ht : Tracks s tracked g) (hn : g.name ≠ "") (f : Failure)
    (specChanged : Bool) (i : Option String) :
    Withstands f (Leaves tracked g s) ((pass tracked specChanged).run.run ⟨i, g⟩) s := by
  cases tracked with
  | none => exact withstands_untracked hs ht hn f specChanged i
  | some x =>
    cases hmust : g.mustReplace x with
    | true => exact withstands_replacing hs ht hn hmust f specChanged i
    | false => exact withstands_keeping hs ht hmust f specChanged i

/-! ## The next pass -/

theorem claim_assigns (hu : Working u) (hk : KindSettled u g) (hn : g.name ≠ "") (replaced : Option String) :
    ∃ action id g' stored t, ((claim replaced).run.run ⟨none, g⟩).run serve u =
        ((.ok ⟨action, .refreshed⟩, ⟨some id, g'⟩), t) ∧
      Assigned u g id t (sent g stored) ∧ g'.name = g.name ∧ g'.kind = g.kind := by
  cases hf : u.idForName? g.name with
  | none =>
    have hmade := assigned_made hu hn hf
    obtain ⟨g', hg, heq⟩ := hmade.shows
    have hrun := claiming_creates hu.wellFormed hu.creates hn hf hu.addressable hg replaced
    exact ⟨_, _, g', _, _, hrun, hmade, heq⟩
  | some id =>
    obtain ⟨stored, hstored, hname⟩ := held_of_idForName? hf
    have hheld := (assigned_of_held hu.wellFormed hstored hname (hk id stored hstored hname)).put_sent
    obtain ⟨g', hg, heq⟩ := hheld.shows
    exact ⟨_, id, g', stored, _, claiming_adopts hu.wellFormed hn hf hstored hg replaced, hheld, heq⟩

def retracked (tracked : Option Tracked) (state : GroupState) : Option Tracked :=
  match state.id with
  | none => tracked
  | some id => some ⟨id, some state.group.name, some state.group.kind⟩

/-- A pass over what is then tracked, from the store `t`, succeeds. The group is stored under an id with all
that is asked for, and but for the group that was replaced nothing else of `s` was changed. -/
def Repairs (tracked : Option Tracked) (g : Group) (s : Store) (tracked' : Option Tracked) (t : Store) : Prop :=
  ∃ action id g' stored t', ((pass tracked' true).run.run ⟨none, g⟩).run serve t =
      ((.ok ⟨action, .refreshed⟩, ⟨some id, g'⟩), t') ∧
    Assigned (cleared tracked g s) g id t' (sent g stored) ∧ g'.name = g.name ∧ g'.kind = g.kind ∧
    ∀ x, tracked = some x → g.mustReplace x = false → x.id = id

theorem repairs_untracked (hs : Working s) (ht : Tracks s none g) (hn : g.name ≠ "") :
    Repairs none g s none s := by
  have hk : KindSettled s g := ht.kindSettled (by intro x hx; cases hx)
  obtain ⟨action, id, g', stored, t', hrun, ha, hname, hkind⟩ := claim_assigns hs hk hn none
  refine ⟨action, id, g', stored, t', ?_, ha, hname, hkind, ?_⟩
  · rw [run_pass]
    exact hrun
  · intro x hx
    cases hx

theorem repairs_replacing {x : Tracked} (hs : Working s) (ht : Tracks s (some x) g) (hn : g.name ≠ "")
    (hr : g.mustReplace x) (hstore : t = s ∨ t = cleared (some x) g s) :
    Repairs (some x) g s (some x) t := by
  have hk : KindSettled (cleared (some x) g s) g := by
    refine ht.kindSettled ?_
    rintro y ⟨⟩
    exact hr
  obtain ⟨action, id, g', stored, t', hrun, ha, hname, hkind⟩ :=
    claim_assigns (working_cleared hs (some x) g) hk hn (some x.id)
  obtain ⟨_, _, _, hf, _⟩ := ht.reported rfl
  -- Whether or not the failed pass deleted the group, it is gone after this delete.
  have hdropped : t.drop x.id = cleared (some x) g s := by
    rw [cleared_replacing hr] at hstore ⊢
    rcases hstore with rfl | rfl
    · rfl
    · exact drop_self (by rw [find?_drop, if_pos rfl])
  refine ⟨action, id, g', stored, t', ?_, ha, hname, hkind, ?_⟩
  · rw [run_pass]
    simp only [if_pos hr]
    rw [run_call, serve_delete (hs.wellFormed.sound hf).addressable, hdropped]
    exact hrun
  · rintro y ⟨⟩ hfalse
    cases hr.symm.trans hfalse

theorem repairs_known (hx : ∀ x, tracked = some x → g.mustReplace x = false → x.id = id)
    (ha : Assigned (cleared tracked g s) g id t stored) :
    Repairs tracked g s (some ⟨id, some g.name, some g.kind⟩) t := by
  have hput := ha.put_sent
  obtain ⟨g', hg, hname, hkind⟩ := hput.shows
  have hr : g.mustReplace ⟨id, some g.name, some g.kind⟩ = false := by simp [Group.mustReplace]
  refine ⟨.updated, id, g', stored, _, ?_, hput, hname, hkind, hx⟩
  rw [run_pass]
  simp only [hr, Bool.false_eq_true, if_false]
  rw [run_maintain]
  simp only [if_true]
  rw [run_bind, serve_updating (ha.wellFormed.sound ha.held).addressable ha.held hg]
  rfl

/-- After a pass that failed the next one succeeds. -/
theorem Leaves.repaired {state : GroupState} (h : Leaves tracked g s state t) (hs : Working s)
    (ht : Tracks s tracked g) (hn : g.name ≠ "") : Repairs tracked g s (retracked tracked state) t := by
  cases h with
  | unknown hr hstore =>
    cases tracked with
    | none =>
      obtain rfl : t = s := hstore.elim (fun h => h) fun h => h
      exact repairs_untracked hs ht hn
    | some x => exact repairs_replacing hs ht hn (hr x rfl) hstore
  | known hx ha => exact repairs_known hx ha

end IdentityGroups.Sync
