import Mathlib
import IdentityGroups.Proofs.Sync.Learning
import IdentityGroups.Proofs.Sync.Steps
import IdentityGroups.Proofs.Vault.Naming

/-! # Operations on a well-formed store

A store that is well formed and has no failures laid out answers each operation as it is meant to, so what
an operation comes to and what it leaves in the store are given outright.
-/

namespace IdentityGroups.Sync
open Program Vault Vault.Store
variable {s : Store} {g g' : Group} {id name : String} {stored : Stored}

/-- What is stored, read over the group `g`, gives `g'`. -/
def Shows (stored : Stored) (g g' : Group) : Prop :=
  ∃ o, Observed.decode ((readView stored).data.getD .empty) = .ok o ∧ g' = o.applyTo g

theorem Shows.eq_of_sound (h : Shows stored g g') (hs : Sound id stored) {kind : GroupKind}
    (hn : stored.find? "name" = some (.str name)) (hk : stored.find? "type" = some (.str kind.word)) :
    g'.name = name ∧ g'.kind = kind := by
  obtain ⟨o, ho, hon, hok⟩ := hs.observed hn hk
  obtain ⟨o', ho', rfl⟩ := h
  cases ho.symm.trans ho'
  exact ⟨by simp [Observed.applyTo, hon], by simp [Observed.applyTo, hok]⟩

theorem Shows.unique {g₁ g₂ : Group} (h₁ : Shows stored g g₁) (h₂ : Shows stored g g₂) : g₁ = g₂ := by
  obtain ⟨o₁, ho₁, rfl⟩ := h₁
  obtain ⟨o₂, ho₂, rfl⟩ := h₂
  cases ho₁.symm.trans ho₂
  rfl

theorem exists_shows (h : Sound id stored) (g : Group) : ∃ g', Shows stored g g' := by
  obtain ⟨name, _, hn⟩ := h.name
  obtain ⟨kind, hk⟩ := h.kind
  obtain ⟨o, ho, _⟩ := h.observed hn hk
  exact ⟨_, o, ho, rfl⟩

/-! ## Replies -/

theorem payload?_readView (stored : Stored) : payload? (some (readView stored)) = some (readView stored) := by
  simp [payload?, Option.filter, hasPayload_readView]

theorem found_readView (hid : id ≠ "") (h : stored.find? "id" = some (.str id)) (name : String) :
    found name (.ok (some (readView stored))) = .ok (some id) := by
  have hfilled : filled? (some id) = some id := filled?_eq_some_iff.2 ⟨rfl, hid⟩
  simp only [found, payload?_readView, text?_readView h, hfilled]

/-- What a look-up finds in a store that gives each name to one group at most. -/
theorem found_served (hs : Indexed s) (hn : name ≠ "") :
    found name (serve (.read (Group.namePath name)) s).1 = .ok (s.idForName? name) := by
  rw [serve_read_name hn]
  cases h : s.idForName? name with
  | none => rfl
  | some id =>
    obtain ⟨stored, hf, _⟩ := held_of_idForName? h
    rw [Option.bind_some, hf]
    exact found_readView (hs.addressable hf).1 (hs.id hf) name

theorem afterRead_readView (i : Option String) (h : Shows stored g g') :
    afterRead ⟨i, g⟩ id (.ok (some (readView stored))) = (.ok .refreshed, ⟨i, g'⟩) := by
  obtain ⟨o, ho, rfl⟩ := h
  simp only [afterRead, payload?_readView, ho]

theorem filled?_answered (hid : id ≠ "") (name : String) :
    filled? ((some (Secret.withData (.ofList [("id", .str id), ("name", .str name)]))).bind (·.text? "id")) =
      some id := by
  rw [Option.bind_some, text?_answered]
  exact filled?_eq_some_iff.2 ⟨rfl, hid⟩

/-! ## Operations -/

theorem serve_lookup (hs : WellFormed s) (hn : name ≠ "") :
    (lookup name).run.run serve s = (.ok (s.idForName? name), s) := by
  rw [run_lookup, run_call, run_done, found_served hs.indexed hn, serve_read_name hn]

theorem serve_reading (hid : Addressable id) (g : Group) : (read.run.run ⟨some id, g⟩).run serve s =
    (afterRead ⟨some id, g⟩ id (.ok ((s.groups.find? id).map readView)), s) := by
  rw [run_read rfl, run_call, serve_read_id hid, run_done]

theorem serve_updating (hid : Addressable id) (hf : s.groups.find? id = some stored)
    (hg : Shows (sent g stored) g g') : (update.run.run ⟨some id, g⟩).run serve s =
      ((.ok .refreshed, ⟨some id, g'⟩), s.put id (sent g stored)) := by
  rw [Sync.run_update rfl, run_call, serve_update hid, hf]
  simp only
  rw [serve_reading hid, find?_put, if_pos rfl, Option.map_some, afterRead_readView _ hg]

theorem serve_updating_lost (hid : Addressable id) (hf : s.groups.find? id = none) :
    (update.run.run ⟨some id, g⟩).run serve s =
      ((.error (.write .update id (.api 400 ["group not found"])), ⟨some id, g⟩), s) := by
  rw [Sync.run_update rfl, run_call, serve_update hid, hf]
  rfl

theorem serve_creating (i : Option String) (hd : s.discardsCreates = false) (hn : g.name ≠ "")
    (h : s.idForName? g.name = none) (hid : Addressable s.takeId.1) (hg : Shows (made s.takeId.1 g) g g') :
    (create.run.run ⟨i, g⟩).run serve s = ((.ok s.takeId.1, ⟨some s.takeId.1, g'⟩),
      s.takeId.2.put s.takeId.1 (made s.takeId.1 g)) := by
  rw [run_create, run_call, serve_create hn hd h]
  simp only [filled?_answered hid.1]
  rw [readBack, run_bind, serve_reading hid, find?_put, if_pos rfl, Option.map_some,
    afterRead_readView _ hg]
  rfl

theorem serve_claiming (hs : WellFormed s) (hn : g.name ≠ "") (replaced : Option String) :
    ((claim replaced).run.run ⟨none, g⟩).run serve s =
      match s.idForName? g.name with
      | some id => (update.run.run ⟨some id, g⟩ >>= fun r =>
          done (r.1.map (⟨Action.adopted.orReplaced replaced, ·⟩), r.2)).run serve s
      | none => (create.run.run ⟨none, g⟩ >>= fun r => done (r.1.map fun _ =>
          ⟨Action.created.orReplaced replaced, if r.2.id.isSome then .refreshed else .gone⟩, r.2)).run
            serve s := by
  have hl := serve_lookup hs hn
  rw [run_lookup, run_call, run_done] at hl
  obtain ⟨hfound, hstore⟩ := Prod.mk.inj hl
  rw [run_claim, run_call, hfound, hstore]
  cases s.idForName? g.name <;> rfl

theorem claiming_adopts (hs : WellFormed s) (hn : g.name ≠ "") (h : s.idForName? g.name = some id)
    (hf : s.groups.find? id = some stored) (hg : Shows (sent g stored) g g') (replaced : Option String) :
    ((claim replaced).run.run ⟨none, g⟩).run serve s =
      ((.ok ⟨Action.adopted.orReplaced replaced, .refreshed⟩, ⟨some id, g'⟩), s.put id (sent g stored)) := by
  rw [serve_claiming hs hn, h]
  simp only
  rw [run_bind, serve_updating (hs.sound hf).addressable hf hg]
  rfl

theorem claiming_creates (hs : WellFormed s) (hd : s.discardsCreates = false) (hn : g.name ≠ "")
    (h : s.idForName? g.name = none) (hid : Addressable s.takeId.1) (hg : Shows (made s.takeId.1 g) g g')
    (replaced : Option String) : ((claim replaced).run.run ⟨none, g⟩).run serve s =
      ((.ok ⟨Action.created.orReplaced replaced, .refreshed⟩, ⟨some s.takeId.1, g'⟩),
        s.takeId.2.put s.takeId.1 (made s.takeId.1 g)) := by
  rw [serve_claiming hs hn, h]
  simp only
  rw [run_bind, serve_creating none hd hn h hid hg]
  rfl

end IdentityGroups.Sync
