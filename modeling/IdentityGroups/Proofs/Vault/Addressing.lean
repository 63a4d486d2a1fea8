import Mathlib
import IdentityGroups.Proofs.Sync.OnStore
import IdentityGroups.Proofs.Vault.History

/-! # Groups addressed by their names

The path of a name is escaped in one segment and read back by the store as that name, whatever characters it
has, so a look-up finds a group of just that name, of several the one with the smallest id, and nothing when no
group has the name.
-/

namespace IdentityGroups

namespace Group

theorem namePath_injective : Function.Injective namePath := by
  intro name name' h
  have hlists := congrArg String.toList h
  simp only [namePath, String.toList_append] at hlists
  exact Text.Percent.encode_injective (String.toList_inj.1 (List.append_cancel_left hlists))

/-- The name is escaped in the last segment of its path. -/
theorem namePath_segment (name : String) : ∃ segment, (namePath name).toList =
    "/identity/group/name".toList ++ '/' :: segment ∧ '/' ∉ segment ∧ Text.Percent.Escaped segment :=
  ⟨(Text.Percent.encode name).toList, by simp [namePath, collectionPath],
    Text.Percent.slash_not_mem_encode name, Text.Percent.escaped_encode name⟩

end Group

namespace Vault.Store
open Program
variable {s : Store} {id name : String} {stored : Stored}

/-! ## The first group of a name -/

/-- Of the groups with just this name, the one under `id` has the smallest id. -/
structure FirstNamed (s : Store) (name id : String) (stored : Stored) : Prop where
  held : s.groups.find? id = some stored
  named : stored.find? "name" = some (.str name)
  first (id' : String) (stored' : Stored) (h : s.groups.find? id' = some stored')
    (hn : stored'.find? "name" = some (.str name)) : id ≤ id'

def Unnamed (s : Store) (name : String) : Prop :=
  ∀ id stored, s.groups.find? id = some stored → stored.find? "name" ≠ some (.str name)

theorem idForName?_eq_none_iff_unnamed : s.idForName? name = none ↔ Unnamed s name := by
  rw [idForName?_eq_none_iff]
  refine forall_congr' fun id => forall_congr' fun stored => imp_congr_right fun _ => ?_
  rw [Ne, nameOf?_eq_some_iff]

/-- Ids ascend in a store, so the first group of a name that is come upon has the smallest id. -/
theorem firstNamed_of_idForName? (h : s.idForName? name = some id) :
    ∃ stored, FirstNamed s name id stored := by
  obtain ⟨e, he, rfl⟩ := Option.map_eq_some_iff.1 h
  obtain ⟨hname, before, rest, hentries, hbefore⟩ := List.find?_eq_some_iff_append.1 he
  have hascending := s.groups.ascending
  rw [hentries] at hascending
  have hlater := (List.pairwise_cons.1 (List.pairwise_append.1 hascending).2.1).1
  refine ⟨e.2, mem_groups_iff.1 (by simp [hentries]), nameOf?_eq_some_iff.1 (by simpa using hname), ?_⟩
  intro id' stored' hf hn
  have hmem := mem_groups_iff.2 hf
  rw [hentries] at hmem
  rcases List.mem_append.1 hmem with hmem | hmem
  · have hne := hbefore _ hmem
    rw [nameOf?_eq_some_iff.2 hn] at hne
    simp at hne
  · rcases List.mem_cons.1 hmem with rfl | hmem
    · exact le_refl _
    · exact le_of_lt (hlater _ hmem)

/-! ## Reads by name and by id -/

theorem answer_read_namePath (hn : name ≠ "") (hu : Unhindered s (.read (Group.namePath name))) :
    (answer (.read (Group.namePath name)) s).1 =
      .ok (((s.idForName? name).bind s.groups.find?).map readView) :=
  answer_read_byName hu (target_namePath hn) (Text.Percent.decode_encode name)

theorem lookup_answered (s : Store) (name : String) : ((Sync.lookup name).run.run answer s).1 =
    Sync.found name (answer (.read (Group.namePath name)) s).1 := by
  rw [Sync.run_lookup, run_call, run_done]

theorem isHeld_byName_answered {response : Option Secret}
    (h : (answer (.read (Group.namePath name)) s).1 = .ok response) :
    ((Sync.isHeld "" name).run.run answer s).1 = .ok (Sync.payload? response).isSome := by
  rw [Sync.run_isHeld_byName, run_call, run_done, h]
  rfl

theorem isHeld_answered (hid : Addressable id) (hu : Unhindered s (.read (Group.idPath id))) (other : String) :
    ((Sync.isHeld id other).run.run answer s).1 = .ok (s.groups.contains id) := by
  rw [Sync.run_isHeld hid.1, run_call, run_done, answer_read_byId hu (target_idPath hid), Dict.contains]
  cases s.groups.find? id with
  | none => rfl
  | some stored =>
    rw [Option.map_some, Except.mapError, Except.map, Sync.payload?_readView]
    rfl

/-- What comes of a name: `reply` to a read of its path, `found` by a look-up, `held` when asked for existence
without an id. -/
inductive Addresses (s : Store) (name : String) :
    Reply → Except Sync.Error (Option String) → Except Sync.Error Bool → Prop
  | named {id : String} {stored : Stored} {found : Except Sync.Error (Option String)}
      (h : FirstNamed s name id stored) (hfound : s.groups.find? "" = none → found = .ok (some id)) :
      Addresses s name (.ok (some (readView stored))) found (.ok true)
  | unnamed (h : Unnamed s name) : Addresses s name (.ok none) (.ok none) (.ok false)

theorem CarriesIds.addresses (hs : CarriesIds s) (hn : name ≠ "")
    (hu : Unhindered s (.read (Group.namePath name))) :
    Addresses s name (answer (.read (Group.namePath name)) s).1 ((Sync.lookup name).run.run answer s).1
      ((Sync.isHeld "" name).run.run answer s).1 := by
  have hreply := answer_read_namePath hn hu
  rw [isHeld_byName_answered hreply, lookup_answered, hreply]
  cases h : s.idForName? name with
  | none => exact .unnamed (idForName?_eq_none_iff_unnamed.1 h)
  | some id =>
    obtain ⟨stored, hfirst⟩ := firstNamed_of_idForName? h
    rw [Option.bind_some, hfirst.held, Option.map_some, Sync.payload?_readView]
    refine .named hfirst fun hempty => ?_
    have hid : id ≠ "" := by
      rintro rfl
      cases hempty.symm.trans hfirst.held
    exact Sync.found_readView hid (hs id stored hfirst.held) name

/-- Every name is escaped in a segment of its own. In a store, however it came about, a read of the path reads
the first group of just that name and nothing if there is none, a look-up finds its id, and the name is held just
when a look-up finds an id; an id is held just when a group is stored under it. -/
theorem names_addressed_exactly (acts : List Act) :
    Function.Injective Group.namePath ∧
    (∀ name, ∃ segment, (Group.namePath name).toList = "/identity/group/name".toList ++ '/' :: segment ∧
      '/' ∉ segment ∧ Text.Percent.Escaped segment) ∧
    (∀ name, name ≠ "" → Unhindered (after acts {}) (.read (Group.namePath name)) →
      Addresses (after acts {}) name (answer (.read (Group.namePath name)) (after acts {})).1
        ((Sync.lookup name).run.run answer (after acts {})).1
        ((Sync.isHeld "" name).run.run answer (after acts {})).1 ∧
      ((after acts {}).groups.find? "" = none →
        (((Sync.isHeld "" name).run.run answer (after acts {})).1 = .ok true ↔
          ∃ id, ((Sync.lookup name).run.run answer (after acts {})).1 = .ok (some id)))) ∧
    ∀ id, Addressable id → Unhindered (after acts {}) (.read (Group.idPath id)) → ∀ other,
      ((Sync.isHeld id other).run.run answer (after acts {})).1 = .ok ((after acts {}).groups.contains id) := by
  refine ⟨Group.namePath_injective, Group.namePath_segment, fun name hn hu => ?_,
    fun id hid hu other => isHeld_answered hid hu other⟩
  have haddresses := (carriesIds_after acts).addresses hn hu
  refine ⟨haddresses, fun hempty => ?_⟩
  generalize (answer (.read (Group.namePath name)) (after acts {})).1 = reply at haddresses
  generalize ((Sync.lookup name).run.run answer (after acts {})).1 = found at haddresses ⊢
  generalize ((Sync.isHeld "" name).run.run answer (after acts {})).1 = held at haddresses ⊢
  cases haddresses with
  | named h hfound => exact iff_of_true rfl ⟨_, hfound hempty⟩
  | unnamed h => simp

/-! Two groups have a name of marks that end segments, and a failure is laid out for another read. -/

def namesakesStored : List Act := [
  .insertGroup "9" (.object [("name", .str "a/b?%2f é")]),
  .insertGroup "10" (.object [("name", .str "a/b?%2f é"), ("type", .str "external")]),
  .failPath .read "identity/group/id/9" (.transport "timeout")]

theorem names_addressed_exactly_marked :
    ((Sync.lookup "a/b?%2f é").run.run answer (after namesakesStored {})).1 = .ok (some "10") ∧
      ((Sync.isHeld "" "a/b?%2f é").run.run answer (after namesakesStored {})).1 = .ok true := by
  obtain ⟨-, -, hname, -⟩ := names_addressed_exactly namesakesStored
  obtain ⟨haddresses, hheld⟩ := hname "a/b?%2f é" (by decide) (by decide +kernel)
  have hfound : ((Sync.lookup "a/b?%2f é").run.run answer (after namesakesStored {})).1 = .ok (some "10") := by
    decide +kernel
  exact ⟨hfound, (hheld (by decide +kernel)).2 ⟨"10", hfound⟩⟩

end Vault.Store

end IdentityGroups
