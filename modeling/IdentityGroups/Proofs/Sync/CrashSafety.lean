import Mathlib
import IdentityGroups.Proofs.Sync.Claims

/-! # Passes that are cut off

A pass changes a store by at most a deletion and one write, and what it has changed it finds changed when
it is run again: a group that was made is adopted, attributes that were sent are sent once more, and what
was deleted stays so. A pass cut off anywhere and then run in full ends as if it had not been cut off.
-/

namespace IdentityGroups.Sync
open Program Vault Vault.Store
variable {s f : Store} {g g' : Group} {id : String} {stored : Stored} {replaced : Option String}

/-- What a pass comes to, the action apart: its outcome or error, the group at hand, and the groups. -/
def Alike (a b : (Except Error Report × GroupState) × Store) : Prop :=
  a.1.1.map Report.outcome = b.1.1.map Report.outcome ∧ a.1.2 = b.1.2 ∧ a.2.groups = b.2.groups

theorem Alike.refl (a : (Except Error Report × GroupState) × Store) : Alike a a := ⟨rfl, rfl, rfl⟩

/-- From each store on the way the pass comes to what it comes to from `s`. -/
def Resumes (tracked : Option Tracked) (specChanged : Bool) (g : Group) (s : Store) : Prop :=
  ((pass tracked specChanged).run.run ⟨none, g⟩).Throughout serve (fun t =>
    Alike (((pass tracked specChanged).run.run ⟨none, g⟩).run serve t)
      (((pass tracked specChanged).run.run ⟨none, g⟩).run serve s)) s

theorem Claims.alike (h : Claims s g id g' f) (hn : g.name ≠ "") (replaced : Option String) :
    Alike (((claim replaced).run.run ⟨none, g⟩).run serve f)
      (((claim replaced).run.run ⟨none, g⟩).run serve s) := by
  obtain ⟨action, hrun⟩ := h.run replaced
  rw [hrun, h.settled.claim hn replaced]
  exact ⟨rfl, rfl, rfl⟩

theorem resumes_untracked (hs : Working s) (hn : g.name ≠ "") (specChanged : Bool) :
    Resumes none specChanged g s := by
  obtain ⟨id, g', f, hc, _⟩ := exists_claims hs hn
  unfold Resumes
  rw [run_pass]
  refine (hc.course none).imp ?_
  rintro t (rfl | rfl)
  · exact .refl _
  · exact hc.alike hn none

theorem resumes_replaced {t : Tracked} (hs : Working s) (hn : g.name ≠ "") (ht : Addressable t.id)
    (hne : t.id ≠ s.takeId.1) (hr : g.mustReplace t) (specChanged : Bool) :
    Resumes (some t) specChanged g s := by
  obtain ⟨id, g', f, hc, _⟩ := exists_claims (hs.drop t.id) hn
  have hrun : ∀ store, ((pass (some t) specChanged).run.run ⟨none, g⟩).run serve store =
      ((claim (some t.id)).run.run ⟨none, g⟩).run serve (store.drop t.id) := by
    intro store
    rw [run_pass]
    simp only [if_pos hr, run_call, serve_delete ht]
  have hdropped : (s.drop t.id).groups.find? t.id = none := by
    rw [find?_drop, if_pos rfl]
  unfold Resumes
  simp only [hrun]
  rw [run_pass]
  simp only [if_pos hr]
  refine ⟨.refl _, ?_⟩
  rw [serve_delete ht]
  refine (hc.course (some t.id)).imp ?_
  rintro store (rfl | rfl)
  -- Run again, the pass deletes once more what is no longer there, also when a group was made since.
  · rw [drop_self hdropped]
    exact .refl _
  · rw [drop_self (hc.fresh t.id hdropped (by rwa [takeId_drop]))]
    exact hc.alike hn (some t.id)

theorem resumes_kept {t : Tracked} (hs : WellFormed s) (ht : Addressable t.id)
    (hr : g.mustReplace t = false) (specChanged : Bool) : Resumes (some t) specChanged g s := by
  unfold Resumes
  rw [run_pass]
  simp only [hr, Bool.false_eq_true, if_false]
  rw [run_maintain]
  cases specChanged with
  | false =>
    simp only [Bool.false_eq_true, if_false]
    refine ((throughout_reading ht g s).map _).imp ?_
    rintro store rfl
    exact .refl _
  | true =>
    simp only [if_true]
    cases hf : s.groups.find? t.id with
    | none =>
      refine ((throughout_updating_lost ht g hf).map _).imp ?_
      rintro store rfl
      exact .refl _
    | some stored =>
      obtain ⟨g', hg⟩ := exists_shows ((hs.sound hf).sent g) g
      have hput : (s.put t.id (sent g stored)).groups.find? t.id = some (sent g stored) := by
        rw [find?_put, if_pos rfl]
      have hg' : Shows (sent g (sent g stored)) g g' := by rwa [sent_sent]
      refine ((throughout_updating ht hf).map _).imp ?_
      rintro store (rfl | rfl)
      · exact .refl _
      · rw [run_bind, run_bind, serve_updating ht hf hg, serve_updating ht hput hg', sent_sent, put_self hput]
        exact .refl _

theorem resumes (hs : Working s) (hn : g.name ≠ "") {tracked : Option Tracked}
    (ht : ∀ t, tracked = some t → Addressable t.id ∧ t.id ≠ s.takeId.1) (specChanged : Bool) :
    Resumes tracked specChanged g s := by
  cases tracked with
  | none => exact resumes_untracked hs hn specChanged
  | some t =>
    obtain ⟨hta, hne⟩ := ht t rfl
    cases hr : g.mustReplace t with
    | true => exact resumes_replaced hs hn hta hne hr specChanged
    | false => exact resumes_kept hs.wellFormed hta hr specChanged

theorem pass_id_irrelevant (tracked : Option Tracked) (specChanged : Bool) (i : Option String) :
    (pass tracked specChanged).run.run ⟨i, g⟩ = (pass tracked specChanged).run.run ⟨none, g⟩ := by
  rw [run_pass, run_pass]

/-- A pass that is cut off after `k` requests and then run in full ends as it would have ended. -/
theorem pass_crash_safe {tracked : Option Tracked} {specChanged : Bool} {i j : Option String}
    {report : Report} {state : GroupState} {after : Store} (hs : Working s) (hg : g.Valid)
    (ht : ∀ t, tracked = some t → Addressable t.id ∧ t.id ≠ s.takeId.1)
    (h : ((pass tracked specChanged).run.run ⟨i, g⟩).run answer s = ((.ok report, state), after)) (k : Nat) :
    ∃ report' after', ((pass tracked specChanged).run.run ⟨j, g⟩).run answer
        (((pass tracked specChanged).run.run ⟨i, g⟩).runFor answer k s) = ((.ok report', state), after') ∧
      report'.outcome = report.outcome ∧ after'.groups = after.groups := by
  rw [pass_id_irrelevant _ _ i] at h
  rw [pass_id_irrelevant _ _ i, pass_id_irrelevant _ _ j]
  have ht' : ∀ t, tracked = some t → Addressable t.id ∧ t.id ≠ s.clearLog.takeId.1 := by
    rw [takeId_clearLog]
    exact ht
  have hresume := (resumes hs.clearLog hg.name_ne_empty ht' specChanged).runFor k
  obtain ⟨hcut, hlog⟩ := runFor_answer k ((pass tracked specChanged).run.run ⟨none, g⟩) hs.traps
  obtain ⟨hfull, hq⟩ := run_answer ((pass tracked specChanged).run.run ⟨none, g⟩) hs.traps
  obtain ⟨hagain, hq'⟩ := run_answer ((pass tracked specChanged).run.run ⟨none, g⟩) hcut
  -- The cut store and the one that `hresume` is about differ by their logs.
  rw [← hlog] at hresume
  obtain ⟨houtcome, hstate, hgroups⟩ := hresume
  rw [← hagain, ← hfull, h] at houtcome hstate
  rw [← hq'.groups_eq, ← hq.groups_eq, h] at hgroups
  generalize ((pass tracked specChanged).run.run ⟨none, g⟩).run answer
    (((pass tracked specChanged).run.run ⟨none, g⟩).runFor answer k s) = again at houtcome hstate hgroups
  obtain ⟨⟨res, state'⟩, after'⟩ := again
  obtain ⟨report', hres, hout⟩ := map_eq_ok_iff.1 houtcome
  simp only at hres hstate
  subst hres hstate
  exact ⟨report', after', rfl, hout, hgroups⟩

/-! ### A rename that is cut off -/

def beforeRename : Store := Store.put { nextIds := ["new"] } "old" (made "old" { name := "a" })

theorem working_beforeRename : Working beforeRename where
  wellFormed := (wellFormed_of_empty rfl).put_made (by decide) (by decide) rfl
  traps := rfl
  creates := rfl
  addressable := by decide
  unused := by decide

theorem run_rename : (((pass (some ⟨"old", some "a", none⟩) true).run.run ⟨none, { name := "b" }⟩).run answer
    beforeRename).1 = (.ok ⟨.replaced "old", .refreshed⟩,
      ⟨some "new", { name := "b", memberGroupIds := some [], memberEntityIds := some [] }⟩) := by
  decide +kernel

/-- Cut off after three requests, the new group is made and only the store knows its id. -/
theorem rename_crash_safe : ∃ report' after',
    ((pass (some ⟨"old", some "a", none⟩) true).run.run ⟨none, { name := "b" }⟩).run answer
      (((pass (some ⟨"old", some "a", none⟩) true).run.run ⟨none, { name := "b" }⟩).runFor answer 3
        beforeRename) =
      ((.ok report', ⟨some "new", { name := "b", memberGroupIds := some [], memberEntityIds := some [] }⟩),
        after') ∧
    report'.outcome = .refreshed ∧
    after'.groups = (((pass (some ⟨"old", some "a", none⟩) true).run.run ⟨none, { name := "b" }⟩).run answer
      beforeRename).2.groups := by
  have hg : Group.Valid { name := "b" } := by decide
  have ht : ∀ t, some (⟨"old", some "a", none⟩ : Tracked) = some t →
      Addressable t.id ∧ t.id ≠ beforeRename.takeId.1 := by
    rintro t ⟨⟩
    exact ⟨by decide, by decide⟩
  have heta : ∀ (x : (Except Error Report × GroupState) × Store) a, x.1 = a → x = (a, x.2) := by
    rintro x _ rfl
    rfl
  exact pass_crash_safe working_beforeRename hg ht (heta _ _ run_rename) 3

end IdentityGroups.Sync
