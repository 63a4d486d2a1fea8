import Mathlib
import IdentityGroups.Proofs.Sync.Steps
import IdentityGroups.Vault.Response

/-! # When a reply says that nothing is stored

A read to which Vault answers that nothing is stored makes the operator give up the id of a group, so it
matters which statuses and bodies become that answer, and that what else is said reaches the failure. All of
them are heeded but one kind: under status 404, a page that no Vault wrote is taken for a body without error
messages, its text is lost, and the group is taken to be gone.
-/

namespace IdentityGroups

namespace Json
open Document

theorem digit?_blank {c : Char} (h : Text.isBlank c) : digit? c = none := by
  rw [digit?, if_neg]
  rintro ⟨hlow, hhigh⟩
  have hlow : 48 ≤ c.toNat := hlow
  have hhigh : c.toNat ≤ 57 := hhigh
  have hne (d : Char) (hd : d.toNat < 48 ∨ 57 < d.toNat) : c ≠ d := by
    rintro rfl
    omega
  have hrange (low high : Char) (hd : high.toNat < 48 ∨ 57 < low.toNat) : ¬ (low ≤ c ∧ c ≤ high) := by
    rintro ⟨hlo, hhi⟩
    have hlo : low.toNat ≤ c.toNat := hlo
    have hhi : c.toNat ≤ high.toNat := hhi
    omega
  simp [Text.isBlank, hne, hrange] at h

theorem readNumeral?_blank {cs : List Char} (h : ∀ c ∈ cs, Text.isBlank c) : readNumeral? cs = none := by
  cases cs with
  | nil => rfl
  | cons c cs =>
    have hc := h c List.mem_cons_self
    have hsign : c ≠ '-' := by
      rintro rfl
      exact absurd hc (by decide)
    have hwhole : readWhole? (c :: cs) = none := by
      rw [readWhole?, readDigits, digit?_blank hc]
    unfold readNumeral?
    split
    rename_i cs' heq
    split at heq
    · rename_i hcons
      exact absurd (List.cons.inj hcons).1 hsign
    · cases heq
      rw [hwhole]
      rfl

/-- A blank text holds no document. -/
theorem readDocument_blank {cs : List Char} (h : ∀ c ∈ cs, Text.isBlank c) (fuel : Nat) :
    readDocument fuel cs = none := by
  cases fuel with
  | zero => rw [readDocument]
  | succ fuel =>
    have hrest : ∀ c ∈ skipSpace cs, Text.isBlank c := fun c hc => h c ((List.dropWhile_sublist _).subset hc)
    rw [readDocument]
    generalize skipSpace cs = rest at hrest
    split
    case h_7 => rw [readNumeral?_blank hrest, Option.map_none]
    all_goals exact absurd (hrest _ List.mem_cons_self) (by decide)

end Json

namespace Vault
open Program
variable {status : UInt16} {body : String} {isRead : Bool}

theorem messages?_eq_none_of_blank (h : Text.allBlank body) : messages? body = none := by
  have hread := Json.readDocument_blank (List.all_eq_true.1 h) (2 * body.toList.length + 2)
  rw [messages?, Json.Document.parse?]
  simp only [hread]
  rfl

/-! ## What an answer says -/

def IsSuccess (status : UInt16) : Prop := 200 ≤ status ∧ status < 300

instance (status : UInt16) : Decidable (IsSuccess status) := inferInstanceAs (Decidable (_ ∧ _))

inductive SaysNothing : (status : UInt16) → (body : String) → (isRead : Bool) → Prop
  | noContent {body : String} {isRead : Bool} : SaysNothing 204 body isRead
  | success {status : UInt16} {body : String} {isRead : Bool} (hstatus : IsSuccess status)
      (hbody : Text.allBlank body) : SaysNothing status body isRead
  | notFound {body : String} (hbody : Text.allBlank body ∨ messages? body = some []) :
      SaysNothing 404 body true

/-- The account that a body gives of a failure: its messages, or else its text. -/
def accountOf (body : String) : List String :=
  match messages? body with
  | some (m :: ms) => m :: ms
  | _ => if Text.allBlank body then [] else [Text.trim body]

structure Heeds (status : UInt16) (body : String) (isRead : Bool) (reply : Reply) : Prop where
  nothing : reply = .ok none ↔ SaysNothing status body isRead
  failure : ¬ IsSuccess status → ¬ SaysNothing status body isRead →
    reply = .error (.api status (accountOf body))

/-- The answer to a read, under status 404, whose body no Vault wrote. -/
structure IsForeign (status : UInt16) (body : String) (isRead : Bool) : Prop where
  status_eq : status = 404
  isRead_eq : isRead = true
  notBlank : Text.allBlank body = false
  unreadable : messages? body = none

theorem saysNothing_success_iff (h : IsSuccess status) :
    SaysNothing status body isRead ↔ status = 204 ∨ Text.allBlank body := by
  constructor
  · rintro (_ | ⟨-, hbody⟩ | _)
    · exact .inl rfl
    · exact .inr hbody
    · exact absurd h (by decide)
  · rintro (rfl | hbody)
    · exact .noContent
    · exact .success h hbody

theorem saysNothing_failure_iff (h : ¬ IsSuccess status) : SaysNothing status body isRead ↔
    status = 404 ∧ isRead ∧ (Text.allBlank body ∨ messages? body = some []) := by
  constructor
  · rintro (_ | ⟨hstatus, -⟩ | hbody)
    · exact absurd (by decide) h
    · exact absurd hstatus h
    · exact ⟨rfl, rfl, hbody⟩
  · rintro ⟨rfl, hread, hbody⟩
    cases isRead with
    | false => exact absurd hread (by decide)
    | true => exact .notFound hbody

/-! ## What becomes of it -/

theorem interpret_success (h : IsSuccess status) :
    interpret status body isRead = .ok none ↔ SaysNothing status body isRead := by
  rw [saysNothing_success_iff h, interpret]
  by_cases h204 : status = 204
  · simp [h204]
  · have hrange : 200 ≤ status ∧ status < 300 := h
    rw [if_neg h204, if_pos hrange]
    by_cases hblank : Text.allBlank body
    · simp [hblank]
    · rw [if_neg hblank]
      cases Secret.read? body <;> simp [h204, hblank]

/-- A failure with an account of it, unless a read finds nothing and no message is decoded. -/
theorem interpret_failure (h : ¬ IsSuccess status) : interpret status body isRead =
    if status = 404 ∧ isRead ∧ (messages? body).getD [] = [] then .ok none
    else .error (.api status (accountOf body)) := by
  have h204 : status ≠ 204 := by
    rintro rfl
    exact h (by decide)
  rw [interpret, if_neg h204, if_neg (show ¬ (200 ≤ status ∧ status < 300) from h), accountOf]
  rcases messages? body with _ | _ | ⟨m, ms⟩ <;> cases Text.allBlank body <;> simp

theorem IsForeign.not_success (h : IsForeign status body isRead) : ¬ IsSuccess status := by
  rw [h.status_eq]
  decide

theorem interpret_foreign (h : IsForeign status body isRead) : interpret status body isRead = .ok none := by
  rw [interpret_failure h.not_success, if_pos ⟨h.status_eq, h.isRead_eq, by rw [h.unreadable]; rfl⟩]

/-- Every answer is heeded, save a foreign one. -/
theorem heeds_of_not_foreign (h : ¬ IsForeign status body isRead) :
    Heeds status body isRead (interpret status body isRead) := by
  by_cases hstatus : IsSuccess status
  · exact ⟨interpret_success hstatus, fun hfailure => absurd hstatus hfailure⟩
  · have hnothing : (status = 404 ∧ isRead ∧ (messages? body).getD [] = []) ↔
        SaysNothing status body isRead := by
      rw [saysNothing_failure_iff hstatus]
      refine and_congr_right fun h404 => and_congr_right fun hread => ?_
      cases hblank : Text.allBlank body with
      | true => simp [messages?_eq_none_of_blank hblank]
      | false =>
        have hread? : messages? body ≠ none := fun hnone => h ⟨h404, hread, hblank, hnone⟩
        obtain ⟨messages, hmessages⟩ := Option.ne_none_iff_exists'.1 hread?
        simp [hmessages]
    rw [interpret_failure hstatus]
    by_cases hsays : SaysNothing status body isRead
    · rw [if_pos (hnothing.2 hsays)]
      exact ⟨iff_of_true rfl hsays, fun _ hnot => absurd hsays hnot⟩
    · rw [if_neg (mt hnothing.1 hsays)]
      exact ⟨iff_of_false (by simp) hsays, fun _ _ => rfl⟩

theorem not_heeds_of_foreign (h : IsForeign status body isRead) :
    ¬ Heeds status body isRead (interpret status body isRead) := by
  intro hheeds
  have hsays := (saysNothing_failure_iff h.not_success).1 (hheeds.nothing.1 (interpret_foreign h))
  rcases hsays.2.2 with hblank | hempty
  · exact absurd hblank (by simp [h.notBlank])
  · exact absurd hempty (by simp [h.unreadable])

def alwaysAnswer (status : UInt16) (body : String) (r : Request) (s : Unit) : Reply × Unit :=
  (interpret status body (r.method = .read), s)

/-- An answer is heeded just when it is not foreign. A foreign one says nothing of what Vault holds, and yet
a read of a group takes the group for gone and gives up its id. -/
theorem interpret_heeds_iff (status : UInt16) (body : String) (isRead : Bool) :
    (Heeds status body isRead (interpret status body isRead) ↔ ¬ IsForeign status body isRead) ∧
    (IsForeign status body isRead → interpret status body isRead = .ok none ∧
      ∀ id group, (Sync.read.run.run ⟨some id, group⟩).run (alwaysAnswer status body) () =
        ((.ok .gone, ⟨none, group⟩), ())) := by
  refine ⟨⟨fun hheeds hforeign => not_heeds_of_foreign hforeign hheeds, heeds_of_not_foreign⟩, ?_⟩
  intro hforeign
  refine ⟨interpret_foreign hforeign, fun id group => ?_⟩
  have hanswer : interpret status body true = .ok none := by
    have hnone := interpret_foreign hforeign
    rwa [hforeign.isRead_eq] at hnone
  rw [Sync.run_read rfl]
  simp only [run_call, run_done, alwaysAnswer, Request.method, decide_true, hanswer]
  rfl

def missingPage : String := "<html><h1>404 Not Found</h1></html>"

theorem missingPage_foreign : IsForeign 404 missingPage true := ⟨rfl, rfl, by decide, by decide⟩

/-- The page reaches the failure under status 502, and clears the id of a group under status 404. -/
theorem interpret_missingPage : Heeds 502 missingPage true (interpret 502 missingPage true) ∧
    ∀ id group, (Sync.read.run.run ⟨some id, group⟩).run (alwaysAnswer 404 missingPage) () =
      ((.ok .gone, ⟨none, group⟩), ()) := by
  have hheeded : ¬ IsForeign 502 missingPage true := fun h => absurd h.status_eq (by decide)
  exact ⟨(interpret_heeds_iff 502 missingPage true).1.2 hheeded,
    ((interpret_heeds_iff 404 missingPage true).2 missingPage_foreign).2⟩

theorem missingPage_not_heeded : ¬ Heeds 404 missingPage true (interpret 404 missingPage true) :=
  not_heeds_of_foreign missingPage_foreign

end Vault

end IdentityGroups
