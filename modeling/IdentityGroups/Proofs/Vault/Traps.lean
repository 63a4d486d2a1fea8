import Mathlib
import IdentityGroups.Proofs.Vault.History

/-! # Failures that wait for requests

A request is logged whatever comes of it. Of the failures that wait for it the first is its answer and is taken
out, and a request that is refused does no more than that. So over a run what was laid out is what was met and
what still waits, and failures that no request tells apart are met in the order in which they were laid out.
-/

namespace IdentityGroups

namespace Text
variable {p : Char → Bool}

theorem dropEndWhile_append {α : Type} {p : α → Bool} (l : List α) {r : List α} (h : ∀ a ∈ r, p a) :
    dropEndWhile p (l ++ r) = dropEndWhile p l := by
  induction l with
  | nil => exact dropEndWhile_eq_nil h
  | cons a l ih => rw [List.cons_append, dropEndWhile, ih, dropEndWhile]

theorem exists_dropEndWhile {α : Type} (p : α → Bool) (l : List α) :
    ∃ r, l = dropEndWhile p l ++ r ∧ ∀ a ∈ r, p a := by
  induction l with
  | nil => exact ⟨[], rfl, by simp⟩
  | cons a l ih =>
    obtain ⟨r, hl, hr⟩ := ih
    rw [dropEndWhile]
    cases hd : dropEndWhile p l with
    | cons b bs => exact ⟨r, by rw [List.cons_append, ← hd, ← hl], hr⟩
    | nil =>
      rw [hd, List.nil_append] at hl
      by_cases ha : p a = true
      · refine ⟨a :: l, by simp [ha], ?_⟩
        rw [List.forall_mem_cons, hl]
        exact ⟨ha, hr⟩
      · exact ⟨l, by simp [ha], hl ▸ hr⟩

/-- What stands between characters that are trimmed decides what is left. -/
theorem trimBy_of_append {s : String} {lead core trail : List Char} (hs : s.toList = lead ++ core ++ trail)
    (hlead : ∀ c ∈ lead, p c) (htrail : ∀ c ∈ trail, p c) : trimBy p s = trimBy p (String.ofList core) := by
  have hnone : trail.dropWhile p = [] := List.dropWhile_eq_nil_iff.2 htrail
  rw [trimBy, trimBy, hs, String.toList_ofList, List.append_assoc, List.dropWhile_append_of_pos hlead,
    List.dropWhile_append]
  congr 1
  split
  · rename_i hcore
    rw [hnone, List.isEmpty_iff.1 hcore]
  · exact dropEndWhile_append _ htrail

/-- A text is what is left of it between characters that are trimmed. -/
theorem exists_trimBy (p : Char → Bool) (s : String) : ∃ lead trail,
    s.toList = lead ++ (trimBy p s).toList ++ trail ∧ (∀ c ∈ lead, p c) ∧ ∀ c ∈ trail, p c := by
  obtain ⟨trail, hdrop, htrail⟩ := exists_dropEndWhile p (s.toList.dropWhile p)
  refine ⟨s.toList.takeWhile p, trail, ?_, fun c hc => List.mem_takeWhile_imp hc, htrail⟩
  rw [trimBy, String.toList_ofList, List.append_assoc, ← hdrop, List.takeWhile_append_dropWhile]

end Text

namespace Vault

def SamePath (p q : String) : Prop :=
  ∃ core lead trail lead' trail' : List Char, p.toList = lead ++ core ++ trail ∧
    q.toList = lead' ++ core ++ trail' ∧ ∀ c ∈ lead ++ trail ++ lead' ++ trail', c = '/'

theorem normalPath_eq_iff {p q : String} : normalPath p = normalPath q ↔ SamePath p q := by
  constructor
  · intro he
    obtain ⟨lead, trail, hp, hlead, htrail⟩ := Text.exists_trimBy (fun c => decide (c = '/')) p
    obtain ⟨lead', trail', hq, hlead', htrail'⟩ := Text.exists_trimBy (fun c => decide (c = '/')) q
    have hcore : (Text.trimBy (fun c => decide (c = '/')) q).toList = (normalPath p).toList := by rw [he]; rfl
    refine ⟨_, lead, trail, lead', trail', hp, hcore ▸ hq, fun c hc => ?_⟩
    simp only [List.mem_append] at hc
    rcases hc with ((hc | hc) | hc) | hc
    · simpa using hlead c hc
    · simpa using htrail c hc
    · simpa using hlead' c hc
    · simpa using htrail' c hc
  · rintro ⟨core, lead, trail, lead', trail', hp, hq, hslash⟩
    have hall : ∀ c ∈ lead ++ trail ++ lead' ++ trail', decide (c = '/') = true := by simpa using hslash
    simp only [List.forall_mem_append] at hall
    obtain ⟨⟨⟨hlead, htrail⟩, hlead'⟩, htrail'⟩ := hall
    rw [normalPath, normalPath, Text.trimBy_of_append hp hlead htrail, Text.trimBy_of_append hq hlead' htrail']

theorem samePath_normalPath (p : String) : SamePath (normalPath p) p := by
  obtain ⟨lead, trail, hp, hlead, htrail⟩ := Text.exists_trimBy (fun c => decide (c = '/')) p
  refine ⟨_, [], [], lead, trail, by simp; rfl, hp, fun c hc => ?_⟩
  rcases List.mem_append.1 hc with hc | hc
  · simpa using hlead c (by simpa using hc)
  · simpa using htrail c hc

/-- The failure is laid out for such requests: those of its method, and of its path but for slashes at the ends, if
it has one. -/
def Trap.Awaits (t : Trap) (r : Request) : Prop :=
  t.method = r.method ∧ ∀ path, t.path = some path → SamePath path r.path

theorem Trap.meets_iff {t : Trap} (ht : ∀ path, t.path = some path → normalPath path = path) {r : Request} :
    t.meets r = true ↔ t.Awaits r := by
  obtain ⟨method, path, failure⟩ := t
  cases path with
  | none => simp [Trap.meets, Trap.Awaits]
  | some path =>
    have hpath : path = normalPath r.path ↔ SamePath path r.path := by
      rw [← normalPath_eq_iff, ht path rfl]
    simp [Trap.meets, Trap.Awaits, hpath]

namespace Store
variable {s t : Store} {r : Request} {f : Failure}

/-! ## The failure that is met -/

theorem spring_eq (r : Request) (traps : List Trap) : Trap.spring r traps =
    (traps.find? (·.meets r)).map fun t => (t.failure, traps.eraseP (·.meets r)) := by
  induction traps with
  | nil => rfl
  | cons t traps ih =>
    rw [Trap.spring, ih]
    cases ht : t.meets r with
    | true => simp [ht]
    | false =>
      simp only [ht, Bool.false_eq_true, if_false, List.find?_cons, List.eraseP_cons, cond_false, Option.map_map]
      rfl

theorem answer_eq (r : Request) (s : Store) : answer r s =
    match s.traps.find? (·.meets r) with
    | some x => (.error x.failure, { s with log := s.log ++ [r], traps := s.traps.eraseP (·.meets r) })
    | none => serve r { s with log := s.log ++ [r] } := by
  simp only [answer, spring_eq]
  cases s.traps.find? (·.meets r) <;> rfl

theorem answer_log (r : Request) (s : Store) : (answer r s).2.log = s.log ++ [r] := by
  rw [answer_eq]
  cases s.traps.find? (·.meets r) with
  | none => exact serve_log r _
  | some x => rfl

theorem answer_traps (r : Request) (s : Store) : (answer r s).2.traps = s.traps.eraseP (·.meets r) := by
  rw [answer_eq]
  cases hx : s.traps.find? (·.meets r) with
  | none =>
    refine (serve_traps r _).trans (List.eraseP_of_forall_not ?_).symm
    simpa using hx
  | some x => rfl

theorem create_error {body : Json} (h : (s.create body).1 = .error f) : (s.create body).2 = s := by
  have hcases := create_cases s body
  generalize s.create body = result at h hcases
  cases hcases with
  | nothing _ => rfl
  | sets _ _ _ => cases h
  | adds _ _ => cases h

theorem serve_error (h : (serve r s).1 = .error f) : (serve r s).2 = s := by
  unfold serve perform at h ⊢
  simp only at h ⊢
  split
  · rfl
  · split <;> rfl
  · rename_i ht
    simp only [ht] at h
    exact create_error h
  · rename_i ht
    simp only [ht] at h
    split
    · rfl
    · rename_i hf
      simp only [hf] at h
      cases h
  · rename_i ht
    simp only [ht] at h
    cases h
  · rfl

/-- A request that is refused is logged, and takes out the failure that it met, if it met one. -/
theorem answer_error (h : (answer r s).1 = .error f) : (answer r s).2 =
    { s with log := s.log ++ [r], traps := s.traps.eraseP (·.meets r) } := by
  have htraps := answer_traps r s
  rw [answer_eq] at h htraps ⊢
  cases hx : s.traps.find? (·.meets r) with
  | some x => rfl
  | none =>
    simp only [hx] at h htraps ⊢
    rw [← htraps, serve_error h]

/-- The failure that is met stands behind others that wait for other requests, and it alone is taken out. -/
theorem append_of_first {traps : List Trap} {x : Trap} (h : traps.find? (·.meets r) = some x) :
    x.meets r = true ∧ ∃ before later, traps = before ++ x :: later ∧ (∀ y ∈ before, y.meets r = false) ∧
      traps.eraseP (·.meets r) = before ++ later := by
  obtain ⟨hx, before, later, rfl, hb⟩ := List.find?_eq_some_iff_append.1 h
  refine ⟨hx, before, later, rfl, by simpa using hb, ?_⟩
  rw [List.eraseP_append_right _ (by simpa using hb), List.eraseP_cons, hx, cond_true]

/-! ## Failures laid out and met over a run -/

namespace Act

def lays? : Act → Option Trap
  | failNext method failure => some ⟨method, none, failure⟩
  | failPath method path failure => some ⟨method, some (normalPath path), failure⟩
  | _ => none

def meets? : Act → Store → Option Trap
  | ask r, s => s.traps.find? (·.meets r)
  | _, _ => none

end Act

def laidOut (acts : List Act) : List Trap := acts.filterMap Act.lays?

def met : List Act → Store → List Trap
  | [], _ => []
  | a :: acts, s => (a.meets? s).toList ++ met acts (a.on s)

theorem after_cons (a : Act) (acts : List Act) (s : Store) : after (a :: acts) s = after acts (a.on s) := rfl

theorem laidOut_cons (a : Act) (acts : List Act) : laidOut (a :: acts) = a.lays?.toList ++ laidOut acts := by
  rw [laidOut, laidOut, List.filterMap_cons]
  cases a.lays? <;> rfl

theorem Act.traps_on (a : Act) (s : Store) : (a.on s).traps =
    match a with
    | .ask r => s.traps.eraseP (·.meets r)
    | _ => s.traps ++ a.lays?.toList := by
  cases a with
  | ask r => exact answer_traps r s
  | failNext method failure => rfl
  | failPath method path failure => rfl
  | _ => exact (List.append_nil _).symm

/-- No request tells the failures of a class apart: they have one method, and one path or none. -/
def inClass (method : Method) (path : Option String) (t : Trap) : Bool := t.method = method && t.path = path

theorem inClass_meets {method : Method} {path : Option String} {x y : Trap} (hx : inClass method path x = true)
    (hy : inClass method path y = true) (r : Request) : x.meets r = y.meets r := by
  simp only [inClass, Bool.and_eq_true, decide_eq_true_eq] at hx hy
  simp only [Trap.meets, hx, hy]

theorem Act.perm_meets (a : Act) (s : Store) :
    ((a.meets? s).toList ++ (a.on s).traps).Perm (s.traps ++ a.lays?.toList) := by
  cases a with
  | ask r =>
    rw [Act.traps_on]
    simp only [meets?, lays?, Option.toList_none, List.append_nil]
    cases hx : s.traps.find? (·.meets r) with
    | none =>
      rw [List.eraseP_of_forall_not (by simpa using hx)]
      exact .refl _
    | some x =>
      obtain ⟨-, before, later, htraps, -, herase⟩ := append_of_first hx
      rw [herase, htraps, Option.toList_some, List.singleton_append]
      exact List.perm_middle.symm
  | _ =>
    rw [Act.traps_on]
    exact .refl _

/-- The failure of a class that is met is the first of it that waits. -/
theorem Act.filter_meets (a : Act) (s : Store) (method : Method) (path : Option String) :
    ((a.meets? s).toList ++ (a.on s).traps).filter (inClass method path) =
      (s.traps ++ a.lays?.toList).filter (inClass method path) := by
  cases a with
  | ask r =>
    rw [Act.traps_on]
    simp only [meets?, lays?, Option.toList_none, List.append_nil]
    cases hx : s.traps.find? (·.meets r) with
    | none =>
      rw [List.eraseP_of_forall_not (by simpa using hx)]
      rfl
    | some x =>
      obtain ⟨hmeets, before, later, htraps, hb, herase⟩ := append_of_first hx
      rw [herase, htraps, Option.toList_some, List.singleton_append]
      cases hc : inClass method path x with
      | false => simp [hc]
      | true =>
        -- Before it none of its class waits: the request would have met it.
        have hnone : before.filter (inClass method path) = [] := by
          rw [List.filter_eq_nil_iff]
          intro y hy hyc
          have hmet := inClass_meets hyc hc r
          rw [hb y hy, hmeets] at hmet
          cases hmet
        simp [hc, hnone]
  | _ =>
    rw [Act.traps_on]
    rfl

/-- What was met and what still waits is what waited and what was laid out. -/
theorem perm_met (acts : List Act) (s : Store) :
    (met acts s ++ (after acts s).traps).Perm (s.traps ++ laidOut acts) := by
  induction acts generalizing s with
  | nil => exact .of_eq (List.append_nil s.traps).symm
  | cons a acts ih =>
    calc met (a :: acts) s ++ (after (a :: acts) s).traps
      _ = (a.meets? s).toList ++ (met acts (a.on s) ++ (after acts (a.on s)).traps) := by
        rw [met, after_cons, List.append_assoc]
      List.Perm _ ((a.meets? s).toList ++ ((a.on s).traps ++ laidOut acts)) := (ih (a.on s)).append_left _
      _ = (a.meets? s).toList ++ (a.on s).traps ++ laidOut acts := (List.append_assoc _ _ _).symm
      List.Perm _ (s.traps ++ a.lays?.toList ++ laidOut acts) := (a.perm_meets s).append_right _
      _ = s.traps ++ laidOut (a :: acts) := by rw [laidOut_cons, List.append_assoc]

theorem filter_met (acts : List Act) (s : Store) (method : Method) (path : Option String) :
    (met acts s ++ (after acts s).traps).filter (inClass method path) =
      (s.traps ++ laidOut acts).filter (inClass method path) := by
  induction acts generalizing s with
  | nil => exact congrArg _ (List.append_nil s.traps).symm
  | cons a acts ih =>
    calc (met (a :: acts) s ++ (after (a :: acts) s).traps).filter (inClass method path)
      _ = (a.meets? s).toList.filter (inClass method path) ++
          (met acts (a.on s) ++ (after acts (a.on s)).traps).filter (inClass method path) := by
        rw [met, after_cons, List.append_assoc, List.filter_append]
      _ = ((a.meets? s).toList ++ (a.on s).traps).filter (inClass method path) ++
          (laidOut acts).filter (inClass method path) := by
        rw [ih, List.filter_append, List.filter_append, List.append_assoc]
      _ = (s.traps ++ laidOut (a :: acts)).filter (inClass method path) := by
        rw [a.filter_meets, ← List.filter_append, laidOut_cons, List.append_assoc]

/-- Failures wait under paths without slashes at their ends. -/
theorem normalPath_of_mem_traps {acts : List Act} {x : Trap} (hx : x ∈ (after acts {}).traps) :
    ∀ path, x.path = some path → normalPath path = path := by
  have hlaid : x ∈ laidOut acts := (perm_met acts {}).mem_iff.1 (List.mem_append_right _ hx)
  obtain ⟨a, -, ha⟩ := List.mem_filterMap.1 hlaid
  intro path hpath
  cases a with
  | failNext method failure =>
    cases ha
    cases hpath
  | failPath method path' failure =>
    cases ha
    cases hpath
    exact normalPath_eq_iff.2 (samePath_normalPath path')
  | _ => cases ha

/-- What a request comes to as far as failures go: it is logged; the first failure that waits for it, if there is
one, is its answer and alone is taken out; and if it is refused, for whatever reason, nothing else changes. -/
structure Accounts (r : Request) (s : Store) (reply : Reply) (t : Store) : Prop where
  log : t.log = s.log ++ [r]
  first : (∃ x ∈ s.traps, x.Awaits r) → ∃ before x later, s.traps = before ++ x :: later ∧
    (∀ y ∈ before, ¬ y.Awaits r) ∧ x.Awaits r ∧
    (Act.ask r).meets? s = some x ∧ reply = .error x.failure ∧ t.traps = before ++ later
  none : (∀ x ∈ s.traps, ¬ x.Awaits r) → (Act.ask r).meets? s = none ∧ t.traps = s.traps
  refused : ∀ f, reply = .error f → t.groups = s.groups ∧ t.nextIds = s.nextIds ∧
    t.generated = s.generated ∧ t.discardsCreates = s.discardsCreates

theorem accounts_answer (r : Request) {s : Store}
    (hs : ∀ x ∈ s.traps, ∀ path, x.path = some path → normalPath path = path) :
    Accounts r s (answer r s).1 (answer r s).2 where
  log := answer_log r s
  first hsome := by
    have hmeets (y : Trap) (hy : y ∈ s.traps) : y.meets r = true ↔ y.Awaits r := Trap.meets_iff (hs y hy)
    cases hfind : s.traps.find? (·.meets r) with
    | none =>
      obtain ⟨y, hy, hawaits⟩ := hsome
      exact absurd ((hmeets y hy).2 hawaits) (List.find?_eq_none.1 hfind y hy)
    | some x =>
      obtain ⟨hx, before, later, htraps, hb, herase⟩ := append_of_first hfind
      refine ⟨before, x, later, htraps, fun y hy hawaits => ?_, ?_, hfind, ?_, (answer_traps r s).trans herase⟩
      · have hmet := (hmeets y (htraps ▸ List.mem_append_left _ hy)).2 hawaits
        rw [hb y hy] at hmet
        cases hmet
      · exact (hmeets x (htraps ▸ by simp)).1 hx
      · rw [answer_eq, hfind]
  none hnone := by
    have hmeets : ∀ x ∈ s.traps, ¬ x.meets r = true := by
      intro x hx
      rw [Trap.meets_iff (hs x hx)]
      exact hnone x hx
    refine ⟨List.find?_eq_none.2 hmeets, ?_⟩
    rw [answer_traps, List.eraseP_of_forall_not hmeets]
  refused f hf := by
    rw [answer_error hf]
    exact ⟨rfl, rfl, rfl, rfl⟩

/-- However a store came about, it accounts for every request; over the run the failures that were met and those
that still wait are those that were laid out, each once, and in their order as far as no request tells them apart:
if they have one method, and one path or none. -/
theorem failures_met_once (acts : List Act) :
    (∀ r, Accounts r (after acts {}) (answer r (after acts {})).1 (answer r (after acts {})).2) ∧
    (met acts {} ++ (after acts {}).traps).Perm (laidOut acts) ∧
    ∀ method path, (met acts {} ++ (after acts {}).traps).filter (inClass method path) =
      (laidOut acts).filter (inClass method path) :=
  ⟨fun r => accounts_answer r fun _ hx => normalPath_of_mem_traps hx, perm_met acts {}, filter_met acts {}⟩

/-! Two failures wait for any read and one for the reads of one group, under a path with a slash at its end. -/

def mixed : List Act := [
  .failPath .read "/identity/group/id/abc/" (.api 500 ["boom"]),
  .failNext .read (.transport "timeout"),
  .failNext .read (.api 403 ["denied"]),
  .ask (.read "/identity/group/name/g"),
  .ask (.write "/identity/group" (.object [("name", .str "g")])),
  .ask (.read "identity/group/id/abc")]

theorem failures_met_once_mixed :
    (met mixed {}).map (·.failure) = [.transport "timeout", .api 500 ["boom"]] ∧
    (met mixed {} ++ (after mixed {}).traps).Perm (laidOut mixed) ∧
    (answer (.read "/identity/group/id/abc") (after mixed {})).2.log.length = 4 ∧
    (answer (.read "/identity/group/id/abc") (after mixed {})).1 = .error (.api 403 ["denied"]) := by
  obtain ⟨haccounts, hperm, -⟩ := failures_met_once mixed
  refine ⟨by decide +kernel, hperm, ?_, by decide +kernel⟩
  rw [(haccounts _).log]
  decide +kernel

end Store

end Vault

end IdentityGroups
