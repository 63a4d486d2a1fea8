import Mathlib
import IdentityGroups.Group.Validity
import IdentityGroups.Proofs.Sync.OnStore

/-! # Claiming a group, and claiming it again

A claim writes once. Of a group that has the name and the attributes already, made or adopted by an earlier
claim, another claim makes nothing new.
-/

namespace IdentityGroups

theorem Group.Valid.name_ne_empty {g : Group} (h : g.Valid) : g.name ≠ "" := by
  intro hn
  have ho : g.objection? = some .blankName := by
    rw [Group.objection?, hn]
    rfl
  cases ho.symm.trans h

namespace Sync
open Program Vault Vault.Store
variable {s f : Store} {g g' : Group} {id : String} {stored : Stored} {replaced : Option String}

/-- The group under the id has the name and the attributes of `g` and shows `g'`. -/
structure Settled (f : Store) (g : Group) (id : String) (g' : Group) : Prop where
  wellFormed : WellFormed f
  held : ∃ stored, f.groups.find? id = some stored ∧ nameOf? stored = some g.name ∧
    sent g stored = stored ∧ Shows stored g g'

theorem Settled.attributes (h : Settled f g id g') : ∃ stored, f.groups.find? id = some stored ∧
    stored.find? "name" = some (.str g.name) ∧ stored.find? "type" = some (.str g'.kind.word) ∧
    g'.name = g.name := by
  obtain ⟨hf, stored, hfind, hname, _, hg⟩ := h
  have hn := nameOf?_eq_some_iff.1 hname
  obtain ⟨kind, hk⟩ := (hf.sound hfind).kind
  obtain ⟨hname', rfl⟩ := hg.eq_of_sound (hf.sound hfind) hn hk
  exact ⟨stored, hfind, hn, hk, hname'⟩

theorem Settled.claim (h : Settled f g id g') (hn : g.name ≠ "") (replaced : Option String) :
    ((claim replaced).run.run ⟨none, g⟩).run serve f =
      ((.ok ⟨Action.adopted.orReplaced replaced, .refreshed⟩, ⟨some id, g'⟩), f) := by
  obtain ⟨hf, stored, hfind, hname, hsent, hg⟩ := h
  have hg' : Shows (sent g stored) g g' := by rwa [hsent]
  rw [claiming_adopts hf hn (hf.idForName? hfind hname) hfind hg' replaced, hsent, put_self hfind]

structure Claims (s : Store) (g : Group) (id : String) (g' : Group) (f : Store) : Prop where
  run : ∀ replaced, ∃ action, ((claim replaced).run.run ⟨none, g⟩).run serve s =
    ((.ok ⟨action, .refreshed⟩, ⟨some id, g'⟩), f)
  course : ∀ replaced, ((claim replaced).run.run ⟨none, g⟩).Throughout serve (fun t => t = s ∨ t = f) s
  settled : Settled f g id g'
  /-- No id is taken but the next one. -/
  fresh : ∀ other, s.groups.find? other = none → other ≠ s.takeId.1 → f.groups.find? other = none

theorem throughout_reading (hid : Addressable id) (g : Group) (s : Store) :
    (read.run.run ⟨some id, g⟩).Throughout serve (fun t => t = s) s := by
  rw [run_read rfl]
  refine ⟨rfl, ?_⟩
  rw [serve_read_id hid]
  exact rfl

theorem throughout_updating_lost (hid : Addressable id) (g : Group) (hf : s.groups.find? id = none) :
    (update.run.run ⟨some id, g⟩).Throughout serve (fun t => t = s) s := by
  rw [Sync.run_update rfl]
  refine ⟨rfl, ?_⟩
  rw [serve_update hid, hf]
  exact rfl

theorem throughout_updating (hid : Addressable id) (hf : s.groups.find? id = some stored) :
    (update.run.run ⟨some id, g⟩).Throughout serve (fun t => t = s ∨ t = s.put id (sent g stored)) s := by
  rw [Sync.run_update rfl]
  refine ⟨.inl rfl, ?_⟩
  rw [serve_update hid, hf]
  exact (throughout_reading hid g _).imp fun _ => .inr

theorem throughout_creating (hd : s.discardsCreates = false) (hn : g.name ≠ "")
    (h : s.idForName? g.name = none) (hid : Addressable s.takeId.1) :
    (create.run.run ⟨none, g⟩).Throughout serve
      (fun t => t = s ∨ t = s.takeId.2.put s.takeId.1 (made s.takeId.1 g)) s := by
  rw [run_create]
  refine ⟨.inl rfl, ?_⟩
  rw [serve_create hn hd h]
  simp only [filled?_answered hid.1]
  exact ((throughout_reading hid g _).map _).imp fun _ => .inr

theorem throughout_claiming {P : Store → Prop} (hs : WellFormed s) (hn : g.name ≠ "") (hP : P s)
    (hheld : ∀ id, s.idForName? g.name = some id → (update.run.run ⟨some id, g⟩).Throughout serve P s)
    (hnew : s.idForName? g.name = none → (create.run.run ⟨none, g⟩).Throughout serve P s) :
    ((claim replaced).run.run ⟨none, g⟩).Throughout serve P s := by
  have hl := serve_lookup hs hn
  rw [run_lookup, run_call, run_done] at hl
  obtain ⟨hfound, hstore⟩ := Prod.mk.inj hl
  rw [run_claim]
  refine ⟨hP, ?_⟩
  simp only [hfound, hstore]
  cases h : s.idForName? g.name with
  | none => exact (hnew h).map _
  | some id => exact (hheld id h).map _

theorem claims_held (hs : WellFormed s) (hn : g.name ≠ "") (h : s.idForName? g.name = some id)
    (hf : s.groups.find? id = some stored) (hname : nameOf? stored = some g.name) :
    ∃ g', Claims s g id g' (s.put id (sent g stored)) := by
  have hid := (hs.sound hf).addressable
  obtain ⟨g', hg⟩ := exists_shows ((hs.sound hf).sent g) g
  refine ⟨g', fun replaced => ⟨_, claiming_adopts hs hn h hf hg replaced⟩, fun replaced => ?_, ?_, ?_⟩
  · refine throughout_claiming hs hn (.inl rfl) (fun id' h' => ?_) fun h' => ?_
    · cases h.symm.trans h'
      exact throughout_updating hid hf
    · cases h.symm.trans h'
  · refine ⟨hs.put_sent hf g, sent g stored, ?_, ?_, sent_sent g stored, hg⟩
    · rw [find?_put, if_pos rfl]
    · rw [nameOf?_sent, hname]
  · intro other ho _
    have hne : id ≠ other := by
      rintro rfl
      cases ho.symm.trans hf
    rw [find?_put, if_neg hne, ho]

theorem claims_new (hs : Working s) (hn : g.name ≠ "") (h : s.idForName? g.name = none) :
    ∃ g' f, Claims s g s.takeId.1 g' f ∧ g'.kind = g.kind := by
  have hsound := sound_made hs.addressable hn
  obtain ⟨g', hg⟩ := exists_shows hsound g
  have hkind := (hg.eq_of_sound hsound (find?_name_made _ g) (find?_type_made _ g)).2
  have hs' : WellFormed s.takeId.2 := hs.wellFormed.of_groups (takeId_groups s)
  have h' : s.takeId.2.idForName? g.name = none := by
    rwa [idForName?, takeId_groups]
  have hrun := claiming_creates hs.wellFormed hs.creates hn h hs.addressable hg
  refine ⟨g', _, ⟨fun replaced => ⟨_, hrun replaced⟩, fun replaced => ?_, ?_, ?_⟩, hkind⟩
  · refine throughout_claiming hs.wellFormed hn (.inl rfl) (fun id' h' => ?_) fun _ =>
      throughout_creating hs.creates hn h hs.addressable
    cases h.symm.trans h'
  · refine ⟨hs'.put_made hs.addressable hn h', _, ?_, nameOf?_eq_some_iff.2 (find?_name_made _ g),
      sent_sent g _, hg⟩
    rw [find?_put, if_pos rfl]
  · intro other ho hne
    rw [find?_put, if_neg hne.symm, takeId_groups, ho]

/-- A group can always be claimed. One of another kind, which had the name before, takes no new id. -/
theorem exists_claims (hs : Working s) (hn : g.name ≠ "") :
    ∃ id g' f, Claims s g id g' f ∧ (g'.kind = g.kind ∨ Working f) := by
  cases h : s.idForName? g.name with
  | some id =>
    obtain ⟨stored, hf, hname⟩ := held_of_idForName? h
    obtain ⟨g', hc⟩ := claims_held hs.wellFormed hn h hf hname
    exact ⟨id, g', _, hc, .inr (hs.put_sent hf g)⟩
  | none =>
    obtain ⟨g', f, hc, hkind⟩ := claims_new hs hn h
    exact ⟨_, g', f, hc, .inl hkind⟩

end Sync

end IdentityGroups
