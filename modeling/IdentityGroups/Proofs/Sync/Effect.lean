import Mathlib
import IdentityGroups.Proofs.Sync.CrashSafety
import IdentityGroups.Proofs.Sync.Faults

/-! # What a pass makes of a store

When nothing fails, a pass deletes the group that is to be replaced, finds the group it works on, by its id
or by its name, or makes one, and sends it the attributes that are set. What it finds and what it sends
decide the whole store after it; all other attributes and all other groups stay.
-/

namespace IdentityGroups.Sync
open Program Vault Vault.Store
variable {s s' t t' u : Store} {g g' : Group} {id : String} {former stored : Stored} {tracked : Option Tracked}
  {specChanged : Bool} {action : Action}

/-! ## What a write changes -/

/-- Optional attributes of `g` that are not set, or empty, and all that a write cannot set are stored as
before. -/
structure Retains (former stored : Stored) (g : Group) : Prop where
  metadata : (∀ d, g.metadata = some d → d.isEmpty) → stored.find? "metadata" = former.find? "metadata"
  policies : (∀ l, g.policies = some l → l.isEmpty) → stored.find? "policies" = former.find? "policies"
  memberGroupIds : (∀ l, g.memberGroupIds = some l → l.isEmpty) →
    stored.find? "member_group_ids" = former.find? "member_group_ids"
  memberEntityIds : (∀ l, g.memberEntityIds = some l → l.isEmpty) →
    stored.find? "member_entity_ids" = former.find? "member_entity_ids"
  others {k : String} (hk : k ∉ mutableNames) : stored.find? k = former.find? k

theorem Retains.refl (former : Stored) (g : Group) : Retains former former g :=
  ⟨fun _ => rfl, fun _ => rfl, fun _ => rfl, fun _ => rfl, fun _ => rfl⟩

theorem find?_sent_of_unsent {k : String} (h : g.updateBody.member? k = none) :
    (sent g former).find? k = former.find? k := by
  rw [sent, find?_mergeBody, h, Option.none_or, ite_self]

theorem retains_sent (former : Stored) (g : Group) : Retains former (sent g former) g := by
  have hunsent (a : Group.Attribute) (h : a.sent? g = none) :
      (sent g former).find? a.name = former.find? a.name :=
    find?_sent_of_unsent ((g.member?_updateBody_name a).trans h)
  exact {
    metadata := fun h => hunsent .metadata (congrArg (Option.map _) (Group.set?_eq_none h))
    policies := fun h => hunsent .policies (congrArg (Option.map _) (Group.set?_eq_none h))
    memberGroupIds := fun h => hunsent .memberGroupIds (congrArg (Option.map _) (Group.set?_eq_none h))
    memberEntityIds := fun h => hunsent .memberEntityIds (congrArg (Option.map _) (Group.set?_eq_none h))
    others := fun hk => find?_sent_of_not_mem g hk }

/-- In `t` the attributes of `g` were sent to the group under the id, of which `former` was stored; nothing
else of `u` changed. -/
structure SentTo (u : Store) (g : Group) (id : String) (former : Stored) (t : Store) : Prop where
  wellFormed : WellFormed t
  held : t.groups.find? id = some (sent g former)
  others {other : String} (ho : other ≠ id) : t.groups.find? other = u.groups.find? other

theorem sentTo_put (hu : WellFormed u) (hf : u.groups.find? id = some former) :
    SentTo u g id former (u.put id (sent g former)) where
  wellFormed := hu.put_sent hf g
  held := by rw [find?_put, if_pos rfl]
  others ho := by rw [find?_put, if_neg ho.symm]

theorem sentTo_made (hu : Working u) (hn : g.name ≠ "") (hfree : u.idForName? g.name = none) :
    SentTo u g u.takeId.1 (named u.takeId.1 g) (u.takeId.2.put u.takeId.1 (made u.takeId.1 g)) := by
  have hmade := assigned_made hu hn hfree
  exact ⟨hmade.wellFormed, hmade.held, hmade.others _⟩

theorem SentTo.exists_shows (h : SentTo u g id former t) : ∃ g', Shows (sent g former) g g' :=
  Sync.exists_shows (h.wellFormed.sound h.held) g

/-! ## The effect of a pass -/

def dueAction (tracked : Option Tracked) (specChanged : Bool) (g : Group) (s : Store) : Action :=
  match tracked with
  | some x => if g.mustReplace x then .replaced x.id else if specChanged then .updated else .refreshed
  | none => if (s.idForName? g.name).isSome then .adopted else .created

/-- The group that a pass over `g` works on and what is stored of it before it is written or read: the
tracked one if it is kept, else one that has the name, else a new one under the next id. -/
inductive WorksOn (tracked : Option Tracked) (g : Group) (s : Store) : String → Stored → Prop
  | kept {x : Tracked} {former : Stored} (hx : tracked = some x) (hr : g.mustReplace x = false)
      (hf : s.groups.find? x.id = some former) : WorksOn tracked g s x.id former
  | found {id : String} {former : Stored} (hr : ∀ x, tracked = some x → g.mustReplace x)
      (hf : (cleared tracked g s).groups.find? id = some former) (hn : nameOf? former = some g.name) :
      WorksOn tracked g s id former
  | new (hr : ∀ x, tracked = some x → g.mustReplace x)
      (hfree : ∀ id stored, (cleared tracked g s).groups.find? id = some stored → nameOf? stored ≠ some g.name) :
      WorksOn tracked g s s.takeId.1 (named s.takeId.1 g)

/-- A pass over `g` leaves `t` of the store `s`: of `former` it made `stored`, which shows `g'`. -/
structure PassEffect (tracked : Option Tracked) (specChanged : Bool) (g : Group) (s : Store) (action : Action)
    (id : String) (g' : Group) (t : Store) (former stored : Stored) : Prop where
  due : action = dueAction tracked specChanged g s
  worksOn : WorksOn tracked g s id former
  held : t.groups.find? id = some stored
  shows : Shows stored g g'
  carries (ha : action ≠ .refreshed) : Group.Carries (.ofDict stored) g
  retains : Retains former stored g
  untouched (ha : action = .refreshed) : t.groups = s.groups
  replaced {x : Tracked} (hx : tracked = some x) (hr : g.mustReplace x) : t.groups.find? x.id = none
  others {other : String} (ho : other ≠ id) (hx : ∀ x, tracked = some x → g.mustReplace x → x.id ≠ other) :
    t.groups.find? other = s.groups.find? other
  wellFormed : WellFormed t

theorem groups_cleared (tracked : Option Tracked) (g : Group) (hs : s.groups = s'.groups) :
    (cleared tracked g s).groups = (cleared tracked g s').groups := by
  cases tracked with
  | none => exact hs
  | some x =>
    simp only [cleared]
    split
    · exact congrArg (·.erase x.id) hs
    · exact hs

/-- Of a store only its groups and its next id matter to the effect. -/
theorem PassEffect.of_groups (h : PassEffect tracked specChanged g s action id g' t former stored)
    (hs : s.groups = s'.groups) (hid : s.takeId.1 = s'.takeId.1) (ht : t.groups = t'.groups) :
    PassEffect tracked specChanged g s' action id g' t' former stored where
  due := by
    have hname : s.idForName? g.name = s'.idForName? g.name := by rw [idForName?, idForName?, hs]
    rw [h.due]
    simp only [dueAction, hname]
  worksOn := by
    cases h.worksOn with
    | kept hx hr hf => exact .kept hx hr (hs ▸ hf)
    | found hr hf hn => exact .found hr (groups_cleared tracked g hs ▸ hf) hn
    | new hr hfree =>
      rw [hid]
      exact .new hr (groups_cleared tracked g hs ▸ hfree)
  held := ht ▸ h.held
  shows := h.shows
  carries := h.carries
  retains := h.retains
  untouched ha := by rw [← ht, ← hs, h.untouched ha]
  replaced hx hr := ht ▸ h.replaced hx hr
  others ho hx := by rw [← ht, ← hs, h.others ho hx]
  wellFormed := h.wellFormed.of_groups ht.symm

/-! ## Passes that claim a group -/

theorem claim_sends (hu : Working u) (hn : g.name ≠ "") (replaced : Option String) :
    (∃ id former g' t, ((claim replaced).run.run ⟨none, g⟩).run serve u =
        ((.ok ⟨Action.adopted.orReplaced replaced, .refreshed⟩, ⟨some id, g'⟩), t) ∧
      u.idForName? g.name = some id ∧ u.groups.find? id = some former ∧ nameOf? former = some g.name ∧
      Shows (sent g former) g g' ∧ SentTo u g id former t) ∨
    ∃ g' t, ((claim replaced).run.run ⟨none, g⟩).run serve u =
        ((.ok ⟨Action.created.orReplaced replaced, .refreshed⟩, ⟨some u.takeId.1, g'⟩), t) ∧
      u.idForName? g.name = none ∧ Shows (made u.takeId.1 g) g g' ∧
      SentTo u g u.takeId.1 (named u.takeId.1 g) t := by
  cases hname : u.idForName? g.name with
  | some id =>
    obtain ⟨former, hf, hformer⟩ := held_of_idForName? hname
    have hw : SentTo u g id former (u.put id (sent g former)) := sentTo_put hu.wellFormed hf
    obtain ⟨g', hg⟩ := hw.exists_shows
    exact .inl ⟨id, former, g', _, claiming_adopts hu.wellFormed hn hname hf hg replaced, rfl, hf, hformer, hg, hw⟩
  | none =>
    have hw := sentTo_made hu hn hname
    obtain ⟨g', hg⟩ := hw.exists_shows
    exact .inr ⟨g', _, claiming_creates hu.wellFormed hu.creates hn hname hu.addressable hg replaced, rfl, hg, hw⟩

/-- The effect of writing to the group that a claim comes to. -/
theorem SentTo.effect (h : SentTo (cleared tracked g s) g id former t)
    (hr : ∀ x, tracked = some x → g.mustReplace x) (hw : WorksOn tracked g s id former)
    (hg : Shows (sent g former) g g') (ha : action = dueAction tracked specChanged g s)
    (hne : ∀ x, tracked = some x → x.id ≠ id) (haction : action ≠ .refreshed) :
    PassEffect tracked specChanged g s action id g' t former (sent g former) where
  due := ha
  worksOn := hw
  held := h.held
  shows := hg
  carries _ := carries_sent g former
  retains := retains_sent former g
  untouched hrefreshed := absurd hrefreshed haction
  replaced {x} hx hmust := by
    rw [h.others (hne x hx), hx, cleared_replacing hmust, find?_drop, if_pos rfl]
  others {other} ho hx := by
    rw [h.others ho]
    cases htracked : tracked with
    | none => rfl
    | some x => rw [cleared_replacing (hr x htracked), find?_drop, if_neg (hx x htracked (hr x htracked))]
  wellFormed := h.wellFormed

theorem cleared_takeId (tracked : Option Tracked) (g : Group) (s : Store) :
    (cleared tracked g s).takeId.1 = s.takeId.1 := by
  cases tracked with
  | none => rfl
  | some x =>
    simp only [cleared]
    split
    · exact takeId_drop s x.id
    · rfl

/-- The pass that claims a group in place of the one it cleared, if it cleared one. -/
theorem effect_claiming (tracked : Option Tracked) (specChanged : Bool) (hs : Working s) (hn : g.name ≠ "")
    (hr : ∀ x, tracked = some x → g.mustReplace x) (hne : ∀ x, tracked = some x → x.id ≠ s.takeId.1) :
    ∃ action id g' t former stored, ((claim (tracked.map (·.id))).run.run ⟨none, g⟩).run serve
        (cleared tracked g s) = ((.ok ⟨action, .refreshed⟩, ⟨some id, g'⟩), t) ∧
      PassEffect tracked specChanged g s action id g' t former stored := by
  have hu := working_cleared hs tracked g
  have hdue : ∀ otherwise, (tracked = none → dueAction tracked specChanged g s = otherwise) →
      Action.orReplaced otherwise (tracked.map (·.id)) = dueAction tracked specChanged g s := by
    intro otherwise h
    cases tracked with
    | none => exact (h rfl).symm
    | some x => simp only [dueAction, hr x rfl, if_true, Option.map_some, Action.orReplaced]
  have hnotRefreshed : ∀ otherwise : Action, otherwise ≠ .refreshed →
      Action.orReplaced otherwise (tracked.map (·.id)) ≠ .refreshed := by
    intro otherwise h
    cases tracked with
    | none => exact h
    | some x => exact fun h => by cases h
  rcases claim_sends hu hn (tracked.map (·.id)) with
    ⟨id, former, g', t, hrun, hname, hf, hformer, hg, hw⟩ | ⟨g', t, hrun, hname, hg, hw⟩
  · refine ⟨_, id, g', t, former, _, hrun, hw.effect hr (.found hr hf hformer) hg (hdue _ ?_) ?_
      (hnotRefreshed _ (by decide))⟩
    · rintro rfl
      have hname' : s.idForName? g.name = some id := hname
      simp only [dueAction, hname', Option.isSome_some, if_true]
    · rintro x rfl rfl
      rw [cleared_replacing (hr x rfl), find?_drop, if_pos rfl] at hf
      cases hf
  · rw [cleared_takeId] at hrun hg hw
    refine ⟨_, _, g', t, _, _, hrun, hw.effect hr (.new hr (idForName?_eq_none_iff.1 hname)) hg (hdue _ ?_) hne
      (hnotRefreshed _ (by decide))⟩
    rintro rfl
    have hname' : s.idForName? g.name = none := hname
    simp only [dueAction, hname', Option.isSome_none, Bool.false_eq_true, if_false]

/-! ## Passes that keep a group -/

def maintained (s : Store) (g : Group) (specChanged : Bool) (id : String) (former : Stored) : Store :=
  if specChanged then s.put id (sent g former) else s

theorem effect_keeping {x : Tracked} (hs : WellFormed s) (hr : g.mustReplace x = false)
    (hf : s.groups.find? x.id = some former) : ∃ action g' stored,
      ((maintain x.id specChanged).run.run ⟨none, g⟩).run serve s =
        ((.ok ⟨action, .refreshed⟩, ⟨some x.id, g'⟩), maintained s g specChanged x.id former) ∧
      PassEffect (some x) specChanged g s action x.id g' (maintained s g specChanged x.id former) former stored := by
  have hid := (hs.sound hf).addressable
  have hworks : WorksOn (some x) g s x.id former := .kept rfl hr hf
  have hkept : ∀ y, some x = some y → ¬ g.mustReplace y := by
    rintro y ⟨⟩
    simp [hr]
  cases specChanged with
  | true =>
    have hw : SentTo s g x.id former (maintained s g true x.id former) := sentTo_put hs hf
    obtain ⟨g', hg⟩ := hw.exists_shows
    refine ⟨.updated, g', sent g former, ?_, ?_⟩
    · rw [run_maintain, if_pos rfl, run_bind, serve_updating hid hf hg]
      rfl
    · exact {
        due := by simp [dueAction, hr]
        worksOn := hworks
        held := hw.held
        shows := hg
        carries := fun _ => carries_sent g former
        retains := retains_sent former g
        untouched := fun h => by cases h
        replaced := fun hx hmust => absurd hmust (hkept _ hx)
        others := fun ho _ => hw.others ho
        wellFormed := hw.wellFormed }
  | false =>
    obtain ⟨g', hg⟩ := exists_shows (hs.sound hf) g
    refine ⟨.refreshed, g', former, ?_, ?_⟩
    · rw [run_maintain, if_neg (by simp), run_bind, serve_reading hid, hf, Option.map_some, afterRead_readView _ hg]
      rfl
    · exact {
        due := by simp [dueAction, hr]
        worksOn := hworks
        held := hf
        shows := hg
        carries := fun h => absurd rfl h
        retains := .refl former g
        untouched := fun _ => rfl
        replaced := fun hx hmust => absurd hmust (hkept _ hx)
        others := fun _ _ => rfl
        wellFormed := hs }

/-- What a pass may be asked of a store: the tracked group can be addressed, its id is not the next one, and
it is held unless it is to be replaced. -/
structure Askable (s : Store) (tracked : Option Tracked) (g : Group) : Prop where
  addressable {x : Tracked} (hx : tracked = some x) : Addressable x.id
  notNext {x : Tracked} (hx : tracked = some x) : x.id ≠ s.takeId.1
  held {x : Tracked} (hx : tracked = some x) (hr : g.mustReplace x = false) : (s.groups.find? x.id).isSome

theorem serve_effect (hs : Working s) (hn : g.name ≠ "") (ht : Askable s tracked g) (specChanged : Bool)
    (i : Option String) : ∃ action id g' t former stored,
      ((pass tracked specChanged).run.run ⟨i, g⟩).run serve s =
        ((.ok ⟨action, .refreshed⟩, ⟨some id, g'⟩), t) ∧
      PassEffect tracked specChanged g s action id g' t former stored := by
  rw [run_pass]
  cases tracked with
  | none =>
    refine effect_claiming none specChanged hs hn ?_ ?_
    · intro x hx
      cases hx
    · intro x hx
      cases hx
  | some x =>
    cases hr : g.mustReplace x with
    | true =>
      simp only [hr, if_true]
      rw [run_call, serve_delete (ht.addressable rfl), ← cleared_replacing hr]
      refine effect_claiming (some x) specChanged hs hn ?_ ?_
      · rintro y ⟨⟩
        exact hr
      · rintro y ⟨⟩
        exact ht.notNext rfl
    | false =>
      simp only [hr, Bool.false_eq_true, if_false]
      obtain ⟨former, hf⟩ := Option.isSome_iff_exists.1 (ht.held rfl hr)
      obtain ⟨action, g', stored, hrun, heffect⟩ := effect_keeping hs.wellFormed hr hf
      exact ⟨action, x.id, g', _, former, stored, hrun, heffect⟩

/-- A pass over a store that is well formed and meets no failure succeeds, with this effect. -/
theorem pass_effect (hs : Working s) (hg : g.Valid) (ht : Askable s tracked g) (specChanged : Bool)
    (i : Option String) : ∃ action id g' t former stored,
      ((pass tracked specChanged).run.run ⟨i, g⟩).run answer s =
        ((.ok ⟨action, .refreshed⟩, ⟨some id, g'⟩), t) ∧
      PassEffect tracked specChanged g s action id g' t former stored := by
  have hnext : s.clearLog.takeId.1 = s.takeId.1 := by rw [takeId_clearLog]
  have ht' : Askable s.clearLog tracked g := by
    refine ⟨ht.addressable, fun hx => ?_, ht.held⟩
    rw [hnext]
    exact ht.notNext hx
  obtain ⟨action, id, g', t, former, stored, hserve, heffect⟩ :=
    serve_effect hs.clearLog hg.name_ne_empty ht' specChanged i
  obtain ⟨hres, hquiet⟩ := run_answer ((pass tracked specChanged).run.run ⟨i, g⟩) hs.traps
  rcases hrun : ((pass tracked specChanged).run.run ⟨i, g⟩).run answer s with ⟨res, after⟩
  rw [hserve, hrun] at hres hquiet
  obtain rfl : res = _ := hres
  exact ⟨action, id, g', after, former, stored, rfl, heffect.of_groups rfl hnext hquiet.groups_eq.symm⟩

/-! ### A rename to a name in use -/

def beforeTakeover : Store := beforeRename.put "pre" (made "pre" { name := "b", policies := some ["p"] })

theorem working_beforeTakeover : Working beforeTakeover where
  wellFormed := working_beforeRename.wellFormed.put_made (by decide) (by decide) (by decide)
  traps := rfl
  creates := rfl
  addressable := by decide
  unused := by decide

/-- The group `a` is deleted and the one that has the name `b` is taken over. -/
theorem pass_effect_takeover : ∃ action id g' t former stored,
    ((pass (some ⟨"old", some "a", none⟩) true).run.run ⟨none, { name := "b" }⟩).run answer beforeTakeover =
      ((.ok ⟨action, .refreshed⟩, ⟨some id, g'⟩), t) ∧
    PassEffect (some ⟨"old", some "a", none⟩) true { name := "b" } beforeTakeover action id g' t former stored ∧
    action = .replaced "old" ∧ t.groups.find? "old" = none := by
  have ht : Askable beforeTakeover (some ⟨"old", some "a", none⟩) { name := "b" } := by
    constructor
    · rintro x ⟨⟩
      decide
    · rintro x ⟨⟩
      decide
    · rintro x ⟨⟩ hr
      cases hr
  obtain ⟨action, id, g', t, former, stored, hrun, heffect⟩ :=
    pass_effect working_beforeTakeover (by decide) ht true none
  exact ⟨action, id, g', t, former, stored, hrun, heffect, heffect.due, heffect.replaced rfl rfl⟩

end IdentityGroups.Sync
