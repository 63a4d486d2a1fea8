import Mathlib
import IdentityGroups.Proofs.Sync.OnStore
import IdentityGroups.Proofs.Vault.Sharing

/-! # Passes that differ in the ids they are given

What a pass comes to depends on the groups of the store, but for the id of a group that it makes. From two
stores with the same groups a pass comes to the same end, or makes a group under an id of its own in each.
-/

namespace IdentityGroups.Sync
open Program Vault Vault.Store Json Json.Decode
variable {own : String → Stored → Prop} {s t f u u' : Store} {g g' : Group} {i j id : String}
  {groups : Dict Stored}

/-! ## What a group shows -/

theorem decode_congr {d d' : Dict Json} (h : ∀ k, k ≠ "id" → d.find? k = d'.find? k) :
    Observed.decode d = Observed.decode d' := by
  have hm : ∀ {α : Type} (k : String) (item : Decoder α), k ≠ "id" →
      optionalMember d.entries k item = optionalMember d'.entries k item := by
    intro α k item hk
    have hf : Entries.find? k d.entries = Entries.find? k d'.entries := h k hk
    rw [optionalMember_eq, optionalMember_eq, hf]
  simp only [Observed.decode, hm "member_entity_ids" _ (by decide), hm "member_group_ids" _ (by decide),
    hm "metadata" _ (by decide), hm "name" _ (by decide), hm "type" _ (by decide)]

theorem find?_made_of_ne {k : String} (hk : k ≠ "id") (i j : String) (g : Group) :
    (made i g).find? k = (made j g).find? k := by
  have hnamed : (named i g).find? k = (named j g).find? k := by
    rw [find?_named, find?_named]
    simp only [Entries.find?, if_neg hk.symm]
  unfold made sent
  rw [find?_mergeBody, find?_mergeBody, hnamed]

/-- What a group that was made shows does not depend on its id. -/
theorem shows_made_iff : Shows (made i g) g g' ↔ Shows (made j g) g g' := by
  have hd : Observed.decode ((readView (made i g)).data.getD .empty) =
      Observed.decode ((readView (made j g)).data.getD .empty) := by
    refine decode_congr fun k hk => ?_
    rw [find?_readView, find?_readView, find?_made_of_ne hk i j]
  rw [Shows, Shows, hd]

/-! ## Ends that correspond -/

/-- Two ends of a pass over `g` that found the same groups, each with the store that is left: they are the
same, also in what is owned, or a group was made in each under an id that was not in use. -/
inductive Corresponds (own : String → Stored → Prop) (groups : Dict Stored) (g : Group) :
    (Except Error Report × GroupState) × Store → (Except Error Report × GroupState) × Store → Prop
  | same {r : Except Error Report × GroupState} {t u : Store} (h : Agree own t u) :
      Corresponds own groups g (r, t) (r, u)
  | created {res : Except Error Report} {g' : Group} {i j : String} {t u : Store}
      (hi : groups.find? i = none) (hj : groups.find? j = none)
      (hti : t.groups.find? i = some (made i g)) (huj : u.groups.find? j = some (made j g))
      (h : Agree (fun id stored => own id stored ∧ id ≠ i ∧ id ≠ j) t u) :
      Corresponds own groups g ((res, ⟨some i, g'⟩), t) ((res, ⟨some j, g'⟩), u)

/-- Only what is owned of the one store and the groups of the other matter. -/
theorem Corresponds.of_agree {r r' : Except Error Report × GroupState} (hown : ∀ i, own i (made i g))
    (h : Corresponds own groups g (r, f) (r', u)) (ht : Agree own f t) (hu : u.groups = u'.groups) :
    Corresponds own groups g (r, t) (r', u') := by
  cases h with
  | same h => exact .same ((ht.symm.trans h).trans (.of_groups hu))
  | @created res g' i j _ _ hi hj hti huj h =>
    refine .created hi hj ((ht i _ (hown i)).1 hti) (hu ▸ huj) ?_
    exact ((ht.mono fun _ _ ho => ho.1).symm.trans h).trans (.of_groups hu)

theorem corresponds_claiming (hs : Working s) (ht : Working t) (hg : s.groups = t.groups) (hn : g.name ≠ "")
    (hi : groups.find? s.takeId.1 = none) (hj : groups.find? t.takeId.1 = none) (replaced : Option String) :
    Corresponds own groups g (((claim replaced).run.run ⟨none, g⟩).run serve s)
      (((claim replaced).run.run ⟨none, g⟩).run serve t) := by
  have hname : t.idForName? g.name = s.idForName? g.name := by
    rw [Store.idForName?, ← hg, Store.idForName?]
  cases h : s.idForName? g.name with
  | some id =>
    obtain ⟨stored, hf, _⟩ := held_of_idForName? h
    obtain ⟨g', hshows⟩ := exists_shows ((hs.wellFormed.sound hf).sent g) g
    rw [claiming_adopts hs.wellFormed hn h hf hshows,
      claiming_adopts ht.wellFormed hn (hname.trans h) (hg ▸ hf) hshows]
    exact .same ((Agree.of_groups hg).put id _)
  | none =>
    obtain ⟨g', hshows⟩ := exists_shows (sound_made hs.addressable hn) g
    rw [claiming_creates hs.wellFormed hs.creates hn h hs.addressable hshows,
      claiming_creates ht.wellFormed ht.creates hn (hname.trans h) ht.addressable (shows_made_iff.1 hshows)]
    refine .created hi hj ?_ ?_ fun id stored ho => ?_
    · rw [find?_put, if_pos rfl]
    · rw [find?_put, if_pos rfl]
    · rw [find?_put, find?_put, if_neg ho.2.1.symm, if_neg ho.2.2.symm, takeId_groups, takeId_groups, hg]

theorem corresponds_maintaining (hs : WellFormed s) (hg : s.groups = t.groups) (hid : Addressable id)
    (specChanged : Bool) : Corresponds own groups g (((maintain id specChanged).run.run ⟨none, g⟩).run serve s)
      (((maintain id specChanged).run.run ⟨none, g⟩).run serve t) := by
  rw [run_maintain]
  cases specChanged with
  | false =>
    simp only [Bool.false_eq_true, if_false]
    rw [run_bind, run_bind, serve_reading hid, serve_reading hid, hg]
    exact .same (.of_groups hg)
  | true =>
    simp only [if_true]
    rw [run_bind, run_bind]
    cases hf : s.groups.find? id with
    | none =>
      rw [serve_updating_lost hid hf, serve_updating_lost hid (hg ▸ hf)]
      exact .same (.of_groups hg)
    | some stored =>
      obtain ⟨g', hshows⟩ := exists_shows ((hs.sound hf).sent g) g
      rw [serve_updating hid hf hshows, serve_updating hid (hg ▸ hf) hshows]
      exact .same ((Agree.of_groups hg).put id _)

theorem corresponds_pass (hs : Working s) (ht : Working t) (hg : s.groups = t.groups) (hn : g.name ≠ "")
    {tracked : Option Tracked} (hid : ∀ x, tracked = some x → Addressable x.id) (specChanged : Bool)
    (start : Option String) :
    Corresponds own s.groups g (((pass tracked specChanged).run.run ⟨start, g⟩).run serve s)
      (((pass tracked specChanged).run.run ⟨start, g⟩).run serve t) := by
  have hj : s.groups.find? t.takeId.1 = none := by
    rw [hg]
    exact ht.unused
  rw [run_pass]
  cases tracked with
  | none => exact corresponds_claiming hs ht hg hn hs.unused hj none
  | some x =>
    have hx := hid x rfl
    simp only
    split
    · rw [run_call, run_call, serve_delete hx, serve_delete hx]
      have hg' : (s.drop x.id).groups = (t.drop x.id).groups := congrArg (Dict.erase · x.id) hg
      refine corresponds_claiming (hs.drop x.id) (ht.drop x.id) hg' hn ?_ ?_ (some x.id)
      · rw [takeId_drop]
        exact hs.unused
      · rw [takeId_drop]
        exact hj
    · exact corresponds_maintaining hs.wellFormed hg hx specChanged

end IdentityGroups.Sync
