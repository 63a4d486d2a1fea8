import Mathlib
import IdentityGroups.Proofs.Time.ReadBack
import IdentityGroups.Proofs.Vault.History

/-! # Groups keep their identity

While no arrangement gives ids, a store numbers them and never gives a number twice. So a create overwrites
nothing, no two groups share a name, and what is found under an id at two times is one group, with the id, the
name and the kind that it was made with.
-/

namespace IdentityGroups.Vault.Store
variable {s t u : Store} {id name kind : String} {stored stored' : Stored} {body : Json} {given : Option String}

/-! ## Numbered ids -/

def numberedId (n : Nat) : String := "group-" ++ fourDigits n

theorem toList_numberedId (n : Nat) : (numberedId n).toList = "group-".toList ++ Time.padded 4 n := by
  rw [numberedId, String.toList_append]
  exact congrArg ("group-".toList ++ ·) String.toList_ofList

theorem numberedId_injective : Function.Injective numberedId := by
  intro m n h
  have hlists := congrArg String.toList h
  rw [toList_numberedId, toList_numberedId] at hlists
  have hdigits := List.append_cancel_left hlists
  calc m = Nat.ofDigitChars 10 (Time.padded 4 m) 0 := (Time.ofDigitChars_padded 4 m).symm
    _ = Nat.ofDigitChars 10 (Time.padded 4 n) 0 := by rw [hdigits]
    _ = n := Time.ofDigitChars_padded 4 n

theorem addressable_numberedId (n : Nat) : Addressable (numberedId n) := by
  constructor
  · intro h
    have hlists := congrArg String.toList h
    rw [toList_numberedId] at hlists
    cases hlists
  · intro hlast
    rw [toList_numberedId, List.getLast?_append_of_ne_nil _ (Time.padded_ne_nil 4 n)] at hlast
    have hdigit := Time.isDigit_of_mem_padded (List.mem_of_getLast? hlast)
    exact absurd hdigit (by decide)

/-! ## What is kept -/

/-- Ids are numbered. Every group is stored under a number given before, which it carries, and has a name that
no other group has, and a kind. -/
structure Registered (s : Store) : Prop where
  numbers : s.nextIds = []
  given {id : String} {stored : Stored} (h : s.groups.find? id = some stored) :
    ∃ n ≤ s.generated, id = numberedId n
  id : CarriesIds s
  name {id : String} {stored : Stored} (h : s.groups.find? id = some stored) :
    ∃ name, name ≠ "" ∧ stored.find? "name" = some (.str name)
  kind {id : String} {stored : Stored} (h : s.groups.find? id = some stored) :
    ∃ kind : GroupKind, stored.find? "type" = some (.str kind.word)
  unique {id id' : String} {stored stored' : Stored} (h : s.groups.find? id = some stored)
    (h' : s.groups.find? id' = some stored') (hn : nameOf? stored = nameOf? stored') : id = id'

theorem registered_empty : Registered {} where
  numbers := rfl
  given h := by cases h
  id _ _ h := by cases h
  name h := by cases h
  kind h := by cases h
  unique h := by cases h

theorem createTarget_eq_ok (h : createTarget body = .ok (name, kind)) :
    (body.member? "name").bind Json.text? = some name ∧ name ≠ "" ∧ ∃ k : GroupKind, kind = k.word := by
  unfold createTarget at h
  split at h
  · cases h
  · rename_i asked hname
    split at h
    · cases h
    · rename_i hne
      simp only at h
      split at h
      · rename_i hkind
        cases h
        refine ⟨hname, hne, ?_⟩
        rcases hkind with hkind | hkind
        · exact ⟨.internal, hkind⟩
        · exact ⟨.external, hkind⟩
      · cases h

theorem Registered.takeId (h : Registered s) :
    s.takeId = (numberedId (s.generated + 1), { s with generated := s.generated + 1 }) := by
  unfold Store.takeId
  rw [h.numbers]
  rfl

/-- The next number was not given before. -/
theorem Registered.unused (h : Registered s) : s.groups.find? (numberedId (s.generated + 1)) = none := by
  cases hf : s.groups.find? (numberedId (s.generated + 1)) with
  | none => rfl
  | some stored =>
    obtain ⟨n, hn, hid⟩ := h.given hf
    have := numberedId_injective hid
    omega

/-- The next number is taken when an id is given, and only then. -/
theorem Registered.generated (h : Registered s) (hc : Change s t given) :
    (given = none ∧ t.generated = s.generated) ∨
      (given = some (numberedId (s.generated + 1)) ∧ t.generated = s.generated + 1) := by
  cases hc with
  | kept _ _ hgen => exact .inl ⟨rfl, hgen⟩
  | removed _ _ _ hgen => exact .inl ⟨rfl, hgen⟩
  | set _ _ _ _ hgen => exact .inl ⟨rfl, hgen⟩
  | added _ _ _ _ hgen =>
    rw [h.takeId] at hgen ⊢
    exact .inr ⟨rfl, hgen⟩

theorem Registered.nextIds (h : Registered s) (hc : Change s t given) : t.nextIds = [] := by
  cases hc with
  | kept _ hn => exact hn.trans h.numbers
  | removed _ _ hn => exact hn.trans h.numbers
  | set _ _ _ hn => exact hn.trans h.numbers
  | added _ _ _ hn =>
    rw [h.takeId] at hn
    exact hn.trans h.numbers

/-- Groups that are kept, taken out, or stored with what a group is to have. -/
theorem Registered.of_find? (h : Registered s) (hnumbers : t.nextIds = []) (hgen : s.generated ≤ t.generated)
    (hf : ∀ {id stored}, t.groups.find? id = some stored → s.groups.find? id = some stored) : Registered t where
  numbers := hnumbers
  given hstored := by
    obtain ⟨n, hn, hid⟩ := h.given (hf hstored)
    exact ⟨n, hn.trans hgen, hid⟩
  id _ _ hstored := h.id _ _ (hf hstored)
  name hstored := h.name (hf hstored)
  kind hstored := h.kind (hf hstored)
  unique hstored hstored' := h.unique (hf hstored) (hf hstored')

theorem Registered.put {n : Nat} (h : Registered s) (hn : n ≤ s.generated) (hid : id = numberedId n)
    (hcarries : stored.find? "id" = some (.str id))
    (hname : ∃ name, name ≠ "" ∧ stored.find? "name" = some (.str name))
    (hkind : ∃ kind : GroupKind, stored.find? "type" = some (.str kind.word))
    (hunique : ∀ id' stored', s.groups.find? id' = some stored' → nameOf? stored' = nameOf? stored → id' = id) :
    Registered (s.put id stored) where
  numbers := h.numbers
  given {id' stored'} hf := by
    rw [find?_put] at hf
    split at hf
    · rename_i he
      exact ⟨n, hn, he ▸ hid⟩
    · exact h.given hf
  id := h.id.put hcarries
  name {id' stored'} hf := by
    rw [find?_put] at hf
    split at hf
    · cases hf
      exact hname
    · exact h.name hf
  kind {id' stored'} hf := by
    rw [find?_put] at hf
    split at hf
    · cases hf
      exact hkind
    · exact h.kind hf
  unique := unique_put h.unique hunique

theorem Registered.set (h : Registered s) (hf : s.groups.find? id = some stored) (body : Json) :
    Registered (s.put id (mergeBody stored body)) := by
  obtain ⟨n, hn, hid⟩ := h.given hf
  refine h.put hn hid ?_ ?_ ?_ fun id' stored' hf' he => ?_
  · rw [find?_mergeBody_of_not_mem body (by decide)]
    exact h.id _ _ hf
  · rw [find?_mergeBody_of_not_mem body (by decide)]
    exact h.name hf
  · rw [find?_mergeBody_of_not_mem body (by decide)]
    exact h.kind hf
  · rw [nameOf?_mergeBody] at he
    exact h.unique hf' hf he

theorem find?_name_begun (id name kind : String) (body : Json) :
    (mergeBody (begun id name kind) body).find? "name" = some (.str name) :=
  (find?_mergeBody_of_not_mem body (by decide)).trans (find?_begun id name kind "name")

theorem find?_type_begun (id name kind : String) (body : Json) :
    (mergeBody (begun id name kind) body).find? "type" = some (.str kind) :=
  (find?_mergeBody_of_not_mem body (by decide)).trans (find?_begun id name kind "type")

theorem Registered.added (h : Registered s) (ht : createTarget body = .ok (name, kind))
    (hname : s.idForName? name = none) : Registered (s.takeId.2.put s.takeId.1
      (mergeBody (begun s.takeId.1 name kind) body)) := by
  obtain ⟨-, hne, k, rfl⟩ := createTarget_eq_ok ht
  rw [h.takeId]
  have hnumbered : Registered { s with generated := s.generated + 1 } :=
    h.of_find? h.numbers (Nat.le_succ _) fun hf => hf
  refine hnumbered.put (Nat.le_refl _) rfl (find?_id_begun _ _ _ _) ⟨name, hne, find?_name_begun _ _ _ _⟩
    ⟨k, find?_type_begun _ _ _ _⟩ fun id' stored' hf he => ?_
  rw [nameOf?_eq_some_iff.2 (find?_name_begun _ _ _ _)] at he
  exact absurd he (idForName?_eq_none_iff.1 hname id' stored' hf)

theorem Registered.change (h : Registered s) (hc : Change s t given) : Registered t := by
  have hnumbers := h.nextIds hc
  cases hc with
  | kept hg _ hgen => exact h.of_find? hnumbers hgen.ge fun hf => hg ▸ hf
  | removed id hg _ hgen =>
    refine h.of_find? hnumbers hgen.ge fun {id' stored} hf => ?_
    rw [hg, find?_drop] at hf
    split at hf
    · cases hf
    · exact hf
  | set body hstored hg _ hgen =>
    exact (h.set hstored body).of_find? hnumbers hgen.ge fun hf => hg ▸ hf
  | added ht hname hg _ hgen =>
    refine (h.added ht hname).of_find? hnumbers hgen.ge fun hf => ?_
    rw [hg] at hf
    rw [Store.put, takeId_groups]
    exact hf

/-! ## One group under one id -/

def SameIdentity (stored stored' : Stored) : Prop := ∀ k, k ∉ mutableNames → stored'.find? k = stored.find? k

/-- What `t` holds under a number that was given in `s` already, `s` held as the same group. -/
def Continues (s t : Store) : Prop :=
  s.generated ≤ t.generated ∧ ∀ n ≤ s.generated, ∀ stored', t.groups.find? (numberedId n) = some stored' →
    ∃ stored, s.groups.find? (numberedId n) = some stored ∧ SameIdentity stored stored'

theorem continues_refl (s : Store) : Continues s s :=
  ⟨Nat.le_refl _, fun _ _ stored' hf => ⟨stored', hf, fun _ _ => rfl⟩⟩

theorem Continues.trans (h : Continues s t) (h' : Continues t u) : Continues s u := by
  refine ⟨h.1.trans h'.1, fun n hn stored₂ hf₂ => ?_⟩
  obtain ⟨stored₁, hf₁, h₁⟩ := h'.2 n (hn.trans h.1) stored₂ hf₂
  obtain ⟨stored, hf, h₀⟩ := h.2 n hn stored₁ hf₁
  exact ⟨stored, hf, fun k hk => (h₁ k hk).trans (h₀ k hk)⟩

theorem Registered.continues (h : Registered s) (hc : Change s t given) : Continues s t := by
  have hgen : s.generated ≤ t.generated := by
    rcases h.generated hc with ⟨-, hgen⟩ | ⟨-, hgen⟩ <;> omega
  refine ⟨hgen, fun n hn stored' hf' => ?_⟩
  cases hc with
  | kept hg => exact ⟨stored', hg ▸ hf', fun _ _ => rfl⟩
  | removed id hg =>
    rw [hg, find?_drop] at hf'
    split at hf'
    · cases hf'
    · exact ⟨stored', hf', fun _ _ => rfl⟩
  | @set id stored body hf hg =>
    rw [hg, find?_put] at hf'
    split at hf'
    · rename_i he
      cases hf'
      exact ⟨stored, he ▸ hf, fun k hk => find?_mergeBody_of_not_mem body hk⟩
    · exact ⟨stored', hf', fun _ _ => rfl⟩
  | added _ _ hg =>
    rw [hg, find?_put, h.takeId] at hf'
    split at hf'
    · rename_i he
      have := numberedId_injective he
      omega
    · exact ⟨stored', hf', fun _ _ => rfl⟩

/-! ## Runs -/

def LeavesIds (acts : List Act) : Prop := ∀ a ∈ acts, a.givesIds = false

instance (acts : List Act) : Decidable (LeavesIds acts) := by unfold LeavesIds; infer_instance

theorem Registered.after {acts : List Act} (h : Registered s) (ha : LeavesIds acts) :
    Registered (after acts s) ∧ Continues s (after acts s) := by
  induction acts generalizing s with
  | nil => exact ⟨h, continues_refl s⟩
  | cons a acts ih =>
    obtain ⟨ha, hacts⟩ := List.forall_mem_cons.1 ha
    have hc := a.change ha s
    obtain ⟨hregistered, hcontinues⟩ := ih (h.change hc) hacts
    exact ⟨hregistered, (h.continues hc).trans hcontinues⟩

/-- The ids that creates answer are the numbers that follow, in their order. -/
theorem Registered.createdIds_eq {acts : List Act} (h : Registered s) (ha : LeavesIds acts) :
    createdIds acts s = (List.range' (s.generated + 1) ((Store.after acts s).generated - s.generated)).map
      numberedId := by
  induction acts generalizing s with
  | nil => simp [createdIds, Store.after]
  | cons a acts ih =>
    obtain ⟨ha, hacts⟩ := List.forall_mem_cons.1 ha
    have hc := a.change ha s
    have hrest := ih (h.change hc) hacts
    have hgrows := ((h.change hc).after hacts).2.1
    change (a.created? s).toList ++ createdIds acts (a.on s) = (List.range' (s.generated + 1)
      ((Store.after acts (a.on s)).generated - s.generated)).map numberedId
    rw [hrest]
    rcases h.generated hc with ⟨hnone, hgen⟩ | ⟨hsome, hgen⟩
    · rw [hnone, hgen]
      rfl
    · obtain ⟨k, hk⟩ := Nat.exists_eq_add_of_le hgrows
      have hlater : (Store.after acts (a.on s)).generated - (a.on s).generated = k := by omega
      have hall : (Store.after acts (a.on s)).generated - s.generated = k + 1 := by omega
      rw [hsome, hlater, hall, hgen, List.range'_succ]
      rfl

theorem Registered.nodup_createdIds {acts : List Act} (h : Registered s) (ha : LeavesIds acts) :
    (createdIds acts s).Nodup := by
  rw [h.createdIds_eq ha]
  exact (List.nodup_range' 1).map numberedId_injective

/-! ## Creates and reads -/

/-- A create adds one group under an id not in use, with the name, the kind and the attributes asked for, and
answers the id; or it sets attributes of the one group of the name; or it leaves the groups alone. -/
inductive CreateOutcome (s : Store) (body : Json) : Reply × Store → Prop
  | adds {id name kind : String} {stored : Stored} {t : Store} (ht : createTarget body = .ok (name, kind))
      (hunused : s.groups.find? id = none)
      (hunnamed : ∀ id' stored', s.groups.find? id' = some stored' → nameOf? stored' ≠ some name)
      (hstored : ∀ k, stored.find? k = if k ∈ mutableNames then body.member? k else
        Entries.find? k [("id", Json.str id), ("name", .str name), ("type", .str kind)])
      (hg : t.groups = s.groups.insert id stored) :
      CreateOutcome s body (.ok (some (createAnswer id name)), t)
  | sets {id name kind : String} {stored stored' : Stored} {t : Store}
      (ht : createTarget body = .ok (name, kind)) (hheld : s.groups.find? id = some stored)
      (hnamed : ∀ id' other, s.groups.find? id' = some other → (nameOf? other = some name ↔ id' = id))
      (hstored : ∀ k, stored'.find? k =
        if k ∈ mutableNames then (body.member? k).or (stored.find? k) else stored.find? k)
      (hg : t.groups = s.groups.insert id stored') : CreateOutcome s body (.ok none, t)
  | nothing {reply : Reply} {t : Store} (h : ∀ secret, reply ≠ .ok (some secret)) (hg : t.groups = s.groups) :
      CreateOutcome s body (reply, t)

theorem find?_mergeBody_begun (id name kind : String) (body : Json) (k : String) :
    (mergeBody (begun id name kind) body).find? k = if k ∈ mutableNames then body.member? k else
      Entries.find? k [("id", Json.str id), ("name", .str name), ("type", .str kind)] := by
  rw [find?_mergeBody, find?_begun]
  by_cases hk : k ∈ mutableNames
  · have hnone : Entries.find? k [("id", Json.str id), ("name", .str name), ("type", .str kind)] = none := by
      rw [Entries.find?_eq_none_iff]
      intro hmem
      simp only [List.map_cons, List.map_nil, List.mem_cons, List.not_mem_nil, or_false] at hmem
      rcases hmem with rfl | rfl | rfl <;> simp [mutableNames] at hk
    rw [if_pos hk, if_pos hk, hnone, Option.or_none]
  · rw [if_neg hk, if_neg hk]

theorem Registered.create_outcome (h : Registered s) {path : String}
    (ht : target (normalPath path) = .collection) (body : Json) :
    CreateOutcome s body (answer (.write path body) s) := by
  rcases answer_cases (.write path body) s with ⟨f, traps, ha⟩ | ha
  · rw [ha]
    exact .nothing (by simp) rfl
  · have hcreate : serve (.write path body) { s with log := s.log ++ [.write path body] } =
        create { s with log := s.log ++ [.write path body] } body := by
      simp only [serve, perform, Request.path, ht]
    rw [ha, hcreate]
    -- The log decides nothing, so the cases are those of the store as it was.
    have hs : Registered { s with log := s.log ++ [.write path body] } :=
      h.of_find? h.numbers (Nat.le_refl _) fun hf => hf
    have hcases := create_cases { s with log := s.log ++ [.write path body] } body
    generalize create { s with log := s.log ++ [.write path body] } body = result at hcases
    cases hcases with
    | nothing hreply => exact .nothing hreply rfl
    | @sets name kind id stored hasked hn hf =>
      obtain ⟨stored', hf', hname⟩ := held_of_idForName? hn
      cases hf.symm.trans hf'
      refine .sets hasked hf (fun id' other hother => ⟨fun he => ?_, ?_⟩) (find?_mergeBody stored body) rfl
      · exact h.unique hother hf (he.trans hname.symm)
      · rintro rfl
        cases hother.symm.trans hf
        exact hname
    | adds hasked hn =>
      rw [hs.takeId]
      exact .adds hasked h.unused (idForName?_eq_none_iff.1 hn) (find?_mergeBody_begun _ _ _ body) rfl

/-- The path is that of the id, or of the name, or another that comes to the same. -/
def LeadsTo (path id name : String) : Prop :=
  target (normalPath path) = .byId id ∨
    ∃ encoded, target (normalPath path) = .byName encoded ∧ Text.Percent.decode encoded = .ok name

theorem leadsTo_idPath (hid : Addressable id) (name : String) : LeadsTo (Group.idPath id) id name :=
  .inl (target_idPath hid)

theorem leadsTo_namePath (hn : name ≠ "") (id : String) : LeadsTo (Group.namePath name) id name :=
  .inr ⟨_, target_namePath hn, Text.Percent.decode_encode name⟩

theorem Registered.indexed (h : Registered s) : Indexed s where
  addressable hf := by
    obtain ⟨n, -, rfl⟩ := h.given hf
    exact addressable_numberedId n
  id := h.id _ _
  unique := h.unique

/-- A group reads the same whichever way its path leads to it. -/
theorem Registered.answer_read (h : Registered s) (hf : s.groups.find? id = some stored)
    (hn : nameOf? stored = some name) {path : String} (hp : LeadsTo path id name)
    (hu : Unhindered s (.read path)) : (answer (.read path) s).1 = .ok (some (readView stored)) := by
  rcases hp with ht | ⟨encoded, ht, hd⟩
  · rw [answer_read_byId hu ht, hf, Option.map_some]
  · have hfound := h.indexed.idForName?_eq_some_iff.2 ⟨stored, hf, hn⟩
    rw [answer_read_byName hu ht hd, hfound, Option.bind_some, hf, Option.map_some]

/-- In a store that numbers its ids every group carries its id, a name of its own and a kind, and keeps them as
long as it is there; creates never give an id twice, and so each of them adds one group, sets attributes of the
one that has the name, or leaves all as it is; and a group reads the same by its id and by its name. -/
theorem groups_keep_identity {acts : List Act} (h : LeavesIds acts) :
    Registered (after acts {}) ∧
    (∀ more, LeavesIds more → ∀ id stored stored', (after acts {}).groups.find? id = some stored →
      (after (acts ++ more) {}).groups.find? id = some stored' → SameIdentity stored stored') ∧
    (createdIds acts {}).Nodup ∧
    (∀ path body, target (normalPath path) = .collection →
      CreateOutcome (after acts {}) body (answer (.write path body) (after acts {}))) ∧
    ∀ id stored name, (after acts {}).groups.find? id = some stored → nameOf? stored = some name →
      LeadsTo (Group.idPath id) id name ∧ LeadsTo (Group.namePath name) id name ∧
      ∀ path, LeadsTo path id name → Unhindered (after acts {}) (.read path) →
        (answer (.read path) (after acts {})).1 = .ok (some (readView stored)) := by
  obtain ⟨hs, -⟩ := registered_empty.after h
  refine ⟨hs, ?kept, registered_empty.nodup_createdIds h, fun path body ht => hs.create_outcome ht body, ?read⟩
  case kept =>
    intro more hmore id stored stored' hf hf'
    obtain ⟨n, hn, rfl⟩ := hs.given hf
    rw [after_append] at hf'
    obtain ⟨before, hbefore, hsame⟩ := (hs.after hmore).2.2 n hn stored' hf'
    cases hf.symm.trans hbefore
    exact hsame
  case read =>
    intro id stored name hf hn
    obtain ⟨name', hne, hname⟩ := hs.name hf
    cases hn.symm.trans (nameOf?_eq_some_iff.2 hname)
    exact ⟨leadsTo_idPath (hs.indexed.addressable hf) name, leadsTo_namePath hne id,
      fun path hp => hs.answer_read hf hn hp⟩

/-! A group is deleted and made anew with its name, as a group of the other kind. -/

def remade : List Act := [
  .ask (.write "/identity/group" (.object [("name", .str "g")])),
  .failNext .read (.transport "timeout"),
  .ask (.delete "identity/group/id/group-0001/"),
  .ask (.write "/identity/group/" (.object [("name", .str "g"), ("type", .str "external")]))]

theorem groups_keep_identity_remade : LeavesIds remade ∧ createdIds remade {} = ["group-0001", "group-0002"] ∧
    (createdIds remade {}).Nodup ∧ Registered (after remade {}) ∧
    (after remade {}).groups.keys = ["group-0002"] := by
  have hleaves : LeavesIds remade := by decide
  obtain ⟨hregistered, -, hnodup, -⟩ := groups_keep_identity hleaves
  exact ⟨hleaves, by decide +kernel, hnodup, hregistered, by decide +kernel⟩

end IdentityGroups.Vault.Store
