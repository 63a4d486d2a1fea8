import Mathlib
import IdentityGroups.Group.Path
import IdentityGroups.Proofs.Text.Percent
import IdentityGroups.Vault.Store

/-! # What the paths of groups address

Trimming takes no slash off a path that ends otherwise, so the path of an id that does not end in one
addresses that id, and the path of a name addresses its percent-encoded form, which has no slash.
-/

namespace IdentityGroups

namespace Text

theorem dropEndWhile_eq_self {α : Type} {p : α → Bool} {l : List α} (h : ∀ a ∈ l.getLast?, p a = false) :
    dropEndWhile p l = l := by
  induction l with
  | nil => rfl
  | cons a as ih =>
    cases as with
    | nil =>
      have ha : p a = false := h a rfl
      simp [dropEndWhile, ha]
    | cons b bs =>
      have hrest := ih fun c hc => h c (by rwa [List.getLast?_cons_cons])
      rw [dropEndWhile, hrest]

theorem dropEndWhile_eq_nil {α : Type} {p : α → Bool} {l : List α} (h : ∀ a ∈ l, p a) :
    dropEndWhile p l = [] := by
  induction l with
  | nil => rfl
  | cons a l ih =>
    rw [dropEndWhile, ih fun b hb => h b (List.mem_cons_of_mem _ hb)]
    simp [h a List.mem_cons_self]

theorem dropEndWhile_append_cons {α : Type} {p : α → Bool} {a : α} (h : p a = false) (l l' : List α) :
    dropEndWhile p (l ++ a :: l') = l ++ a :: dropEndWhile p l' := by
  induction l with
  | nil =>
    rw [List.nil_append, dropEndWhile]
    cases hl : dropEndWhile p l' with
    | nil => simp [h]
    | cons b bs => rfl
  | cons b l ih =>
    rw [List.cons_append, dropEndWhile, ih]
    cases l <;> rfl

end Text

namespace Vault

theorem normalPath_eq {path : String} {l : List Char} (hp : path.toList = '/' :: l)
    (hhead : l.head? ≠ some '/') (hlast : l.getLast? ≠ some '/') : normalPath path = String.ofList l := by
  have hdrop : ('/' :: l).dropWhile (fun c => decide (c = '/')) = l := by
    rw [List.dropWhile_cons_of_pos (by simp)]
    cases l with
    | nil => rfl
    | cons c l =>
      rw [List.dropWhile_cons_of_neg]
      simpa using hhead
  have hkeep : Text.dropEndWhile (fun c => decide (c = '/')) l = l := by
    refine Text.dropEndWhile_eq_self fun c hc => ?_
    have hne : c ≠ '/' := fun h => hlast (h ▸ hc)
    simpa using hne
  rw [normalPath, Text.trimBy, hp, hdrop, hkeep]

/-- An id that is told from its path. -/
def Addressable (id : String) : Prop := id ≠ "" ∧ id.toList.getLast? ≠ some '/'

instance (id : String) : Decidable (Addressable id) := by unfold Addressable; infer_instance

theorem addressable_encode {name : String} (h : name ≠ "") : Addressable (Text.Percent.encode name) := by
  refine ⟨Text.Percent.encode_ne_empty h, fun hlast => ?_⟩
  exact Text.Percent.slash_not_mem_encode name (List.mem_of_getLast? hlast)

theorem getLast?_append_addressable {lead : List Char} {id : String} (h : Addressable id) :
    (lead ++ id.toList).getLast? ≠ some '/' := by
  have hne : id.toList ≠ [] := by simpa using h.1
  rw [List.getLast?_append_of_ne_nil _ hne]
  exact h.2

namespace Store

theorem target_byId {path id : String} (h : path.toList = "identity/group/id/".toList ++ id.toList) :
    target path = .byId id := by
  have hne : path ≠ "identity/group" := by
    rintro rfl
    have hlen := congrArg List.length h
    simp at hlen
  unfold target
  rw [if_neg hne, Text.afterLead?_eq_some_iff.2 h]
  exact congrArg Target.byId String.ofList_toList

theorem target_byName {path encoded : String}
    (h : path.toList = "identity/group/name/".toList ++ encoded.toList) : target path = .byName encoded := by
  have hne : path ≠ "identity/group" := by
    rintro rfl
    have hlen := congrArg List.length h
    simp at hlen
  have hid : Text.afterLead? "identity/group/id/".toList path.toList = none := by
    rw [h]
    rfl
  unfold target
  rw [if_neg hne, hid, Text.afterLead?_eq_some_iff.2 h]
  exact congrArg Target.byName String.ofList_toList

theorem target_idPath {id : String} (h : Addressable id) :
    target (normalPath (Group.idPath id)) = .byId id := by
  have hpath : (Group.idPath id).toList = '/' :: ("identity/group/id/".toList ++ id.toList) := by
    simp [Group.idPath, Group.collectionPath]
  rw [normalPath_eq hpath (by simp) (getLast?_append_addressable h)]
  exact target_byId String.toList_ofList

theorem target_namePath {name : String} (h : name ≠ "") :
    target (normalPath (Group.namePath name)) = .byName (Text.Percent.encode name) := by
  have hpath : (Group.namePath name).toList =
      '/' :: ("identity/group/name/".toList ++ (Text.Percent.encode name).toList) := by
    simp [Group.namePath, Group.collectionPath]
  rw [normalPath_eq hpath (by simp) (getLast?_append_addressable (addressable_encode h))]
  exact target_byName String.toList_ofList

theorem target_ne_collection {path : String} (h : path ≠ "identity/group") : target path ≠ .collection := by
  unfold target
  rw [if_neg h]
  split
  · simp
  · split <;> simp

/-- Slashes at the end of an id are trimmed off its path, and with an id of slashes the one before it. -/
theorem toList_normalPath_idPath (id : String) : (normalPath (Group.idPath id)).toList =
    "identity/group/i".toList ++ 'd' :: Text.dropEndWhile (fun c => decide (c = '/')) ('/' :: id.toList) := by
  have hpath : (Group.idPath id).toList = '/' :: ("identity/group/i".toList ++ 'd' :: '/' :: id.toList) := by
    simp [Group.idPath, Group.collectionPath]
  rw [normalPath, Text.trimBy, hpath, String.toList_ofList, List.dropWhile_cons_of_pos (by simp),
    ← Text.dropEndWhile_append_cons (by simp)]
  rfl

/-- Whatever the id, its path does not address the collection. -/
theorem target_idPath_ne_collection (id : String) :
    target (normalPath (Group.idPath id)) ≠ .collection := by
  refine target_ne_collection fun he => ?_
  have hlen := congrArg (List.length ∘ String.toList) he
  simp only [Function.comp_apply, toList_normalPath_idPath] at hlen
  simp at hlen

/-- Whatever the id, its path addresses an id, unless nothing is left of it. -/
theorem target_idPath_byId_or (id : String) : (∃ k, target (normalPath (Group.idPath id)) = .byId k) ∨
    normalPath (Group.idPath id) = "identity/group/id" := by
  have hkept := toList_normalPath_idPath id
  rw [Text.dropEndWhile] at hkept
  cases hrest : Text.dropEndWhile (fun c => decide (c = '/')) id.toList with
  | nil =>
    rw [hrest] at hkept
    exact .inr (String.toList_inj.1 hkept)
  | cons c cs =>
    rw [hrest] at hkept
    exact .inl ⟨String.ofList (c :: cs), target_byId (by simpa using hkept)⟩

theorem target_collectionPath : target (normalPath Group.collectionPath) = .collection := by
  decide

end Store

end Vault

end IdentityGroups
