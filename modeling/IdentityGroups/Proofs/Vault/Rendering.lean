import Mathlib
import IdentityGroups.Proofs.Json.ReadBack
import IdentityGroups.Vault.Response

/-! # Replies read as they were rendered

Vault renders what it has to say as a status and a body, whose fields it writes in the order of their
declaration. What is read of that is what was to be said: the whole envelope, or every message in order.
-/

namespace IdentityGroups

namespace Json.Document
open Entries

theorem mapM_documentMembers (members : List (String × Json)) :
    (documentMembers members).mapM (fun p => p.1.map (·, p.2)) =
      some (members.map fun p => (p.1, p.2.document)) := by
  induction members with
  | nil => rfl
  | cons p members ih =>
    rw [documentMembers, List.mapM_cons]
    simp only [ih]
    rfl

/-- A printed object that has known members only, and none twice, is taken apart into them. -/
theorem fields?_documentMembers {known : List String} {members : List (String × Json)} (hd : Distinct members)
    (hknown : ∀ p ∈ members, p.1 ∈ known) : fields? known (.object (documentMembers members)) =
      some (members.map fun p => (p.1, p.2.document)) := by
  have hfilter : (members.map fun p => (p.1, p.2.document)).filter (fun f => decide (f.1 ∈ known)) =
      members.map fun p => (p.1, p.2.document) := by
    refine List.filter_eq_self.2 fun f hf => ?_
    obtain ⟨p, hp, rfl⟩ := List.mem_map.1 hf
    simpa using hknown p hp
  have hnodup : ((members.map fun p => (p.1, p.2.document)).map (·.1)).Nodup := by
    rw [List.map_map]
    exact hd
  rw [fields?]
  simp only [mapM_documentMembers, bind, Option.bind]
  rw [hfilter, if_pos hnodup]
  rfl

theorem natural?_document (n : UInt64) : natural? (Json.ofUInt64 n).document = some n := by
  simp [Json.ofUInt64, document, natural?]

theorem texts?_document (l : List String) : texts? (Json.ofTexts l).document = some l := by
  have hitems : ∀ l : List String, (documentItems (l.map .str)).mapM text? = some l := by
    intro l
    induction l with
    | nil => rfl
    | cons s l ih =>
      rw [List.map_cons, documentItems, List.mapM_cons, ih]
      rfl
  exact hitems l

theorem dict?_document {d : Dict Json} {levels : Nat} (hc : (Json.ofDict d).Canonical)
    (hd : (Json.ofDict d).depth ≤ levels) : dict? levels (Json.ofDict d).document = some d := by
  have hself : Dict.ofList d.entries = d := by
    obtain ⟨entries, ascending⟩ := d
    simp only [Dict.ofList, ofList_self ascending]
  rw [dict?, value?_document hc hd]
  exact congrArg some hself

end Json.Document

namespace Vault
open Json Entries

def Secret.members (s : Secret) : List (String × Json) := [
  ("request_id", .str s.requestId), ("lease_id", .str s.leaseId),
  ("lease_duration", .ofUInt64 s.leaseDuration), ("renewable", .bool s.renewable),
  ("data", .ofOption .ofDict s.data), ("warnings", .ofOption .ofTexts s.warnings)]

def Secret.body (s : Secret) : String := (Json.obj s.members).render

/-- The data have no floating-point numbers and leave the envelope a level of nesting. -/
def Secret.Plain (s : Secret) : Prop :=
  ∀ d ∈ s.data, (Json.ofDict d).Canonical ∧ (Json.ofDict d).Integral ∧ (Json.ofDict d).depth < deepest

def messageBody (messages : List String) : String := (Json.obj [("errors", .ofTexts messages)]).render

inductive Rendered : Reply → (isRead : Bool) → (status : UInt16) → (body : String) → Prop
  | secret {s : Secret} {isRead : Bool} (h : s.Plain) : Rendered (.ok (some s)) isRead 200 s.body
  | noContent {isRead : Bool} : Rendered (.ok none) isRead 204 ""
  | notFound : Rendered (.ok none) true 404 (messageBody [])
  | failure {status : UInt16} {messages : List String} {isRead : Bool} (hs : ¬ (200 ≤ status ∧ status < 300))
      (hm : messages ≠ []) : Rendered (.error (.api status messages)) isRead status (messageBody messages)

theorem not_allBlank_render (members : List (String × Json)) :
    Text.allBlank (Json.obj members).render = false := by
  simp only [Text.allBlank, render, String.toList_ofList, print, List.cons_append, List.all_cons]
  have hbrace : Text.isBlank '\x7b' = false := by decide
  rw [hbrace, Bool.false_and]

theorem Secret.Plain.integral {s : Secret} (h : s.Plain) : (Json.obj s.members).Integral := by
  have hdata : (Json.ofOption .ofDict s.data).Integral := by
    cases hd : s.data with
    | none => trivial
    | some d => exact (h d hd).2.1
  have hwarnings : (Json.ofOption .ofTexts s.warnings).Integral := by
    cases s.warnings with
    | none => trivial
    | some l => exact (storable_ofTexts 0 l).integral
  exact ⟨trivial, trivial, trivial, trivial, hdata, hwarnings, trivial⟩

theorem Secret.Plain.data {s : Secret} (h : s.Plain) : Document.optional? (Document.dict? (deepest - 1))
    (Json.ofOption .ofDict s.data).document = some s.data := by
  cases hd : s.data with
  | none => rfl
  | some d =>
    obtain ⟨hc, _, hdepth⟩ := h d hd
    exact congrArg (Option.map some) (Document.dict?_document hc (Nat.le_sub_one_of_lt hdepth))

theorem optional?_texts (o : Option (List String)) :
    Document.optional? Document.texts? (Json.ofOption .ofTexts o).document = some o := by
  cases o with
  | none => rfl
  | some l => exact congrArg (Option.map some) (Document.texts?_document l)

def Secret.fields (s : Secret) : List (String × Document) := s.members.map fun p => (p.1, p.2.document)

/-- A secret that is sent is read with all its fields. -/
theorem Secret.read?_body {s : Secret} (h : s.Plain) : Secret.read? s.body = some s := by
  have hfields : Document.fields?
      ["request_id", "lease_id", "lease_duration", "renewable", "data", "warnings"]
      (.object (documentMembers s.members)) = some s.fields :=
    Document.fields?_documentMembers (by simp [Distinct, members]) (by simp [members])
  have hid : Document.field? "" "request_id" Document.text? s.fields = some s.requestId := rfl
  have hlease : Document.field? "" "lease_id" Document.text? s.fields = some s.leaseId := rfl
  have hduration : Document.field? 0 "lease_duration" Document.natural? s.fields = some s.leaseDuration :=
    Document.natural?_document _
  have hrenewable : Document.field? false "renewable" Document.flag? s.fields = some s.renewable := rfl
  have hdata : Document.field? none "data" (Document.optional? (Document.dict? (deepest - 1))) s.fields =
    some s.data := h.data
  have hwarnings : Document.field? none "warnings" (Document.optional? Document.texts?) s.fields =
    some s.warnings := optional?_texts _
  rw [Secret.read?, Secret.body, parse?_document h.integral, document]
  simp only [bind, Option.bind, hfields, hid, hlease, hduration, hrenewable, hdata, hwarnings]
  rfl

theorem messages?_messageBody (messages : List String) :
    messages? (messageBody messages) = some messages := by
  have hi : (Json.obj [("errors", .ofTexts messages)]).Integral := ⟨(storable_ofTexts 0 messages).integral, trivial⟩
  rw [messages?, messageBody, parse?_document hi, document]
  simp only [bind, Option.bind]
  rw [Document.fields?_documentMembers (by simp [Distinct]) (by simp)]
  exact Document.texts?_document messages

/-- A reply that was rendered is read back, and so a failure means an expired credential just when it did. -/
theorem interpret_rendered {reply : Reply} {isRead : Bool} {status : UInt16} {body : String}
    (h : Rendered reply isRead status body) : interpret status body isRead = reply ∧
      ((∃ f, interpret status body isRead = .error f ∧ f.isExpiredCredential) ↔
        ∃ f, reply = .error f ∧ f.isExpiredCredential) := by
  have hreply : interpret status body isRead = reply := by
    cases h with
    | @secret s _ h =>
      have hblank : Text.allBlank s.body = false := not_allBlank_render _
      rw [interpret, if_neg (by decide), if_pos (by decide), hblank, Secret.read?_body h]
      rfl
    | noContent => rfl
    | notFound =>
      rw [interpret, if_neg (by decide), if_neg (by decide), messages?_messageBody]
      rfl
    | @failure _ messages _ hs hm =>
      have hcontent : status ≠ 204 := by
        rintro rfl
        exact hs (by decide)
      rw [interpret, if_neg hcontent, if_neg hs, messages?_messageBody]
      simp [hm]
  rw [hreply]
  exact ⟨rfl, Iff.rfl⟩

/-! A secret with texts to escape, the largest numbers, nulls and an empty list of warnings, and the messages
of a request whose credential has expired. -/

def nestedMembers : List (String × Json) := [
  ("\x01é", .arr [.null, .obj [("n", .num (.int (-9223372036854775808) (by decide)))], .obj []]),
  ("path", .str "a/b\\😀")]

def secretNested : Secret where
  requestId := "r\"1\n"
  leaseDuration := 18446744073709551615
  data := some (.ofList nestedMembers)
  warnings := some []

theorem plain_secretNested : secretNested.Plain := by
  have hself : Json.ofDict (.ofList nestedMembers) = .obj nestedMembers := by decide +kernel
  rintro d ⟨⟩
  rw [hself]
  refine ⟨⟨by decide, ?_⟩, ?_, by decide⟩
  · simp [nestedMembers, CanonicalMembers, Canonical, CanonicalItems, Ascending]
  · simp [nestedMembers, IntegralMembers, Integral, IntegralItems]

theorem interpret_rendered_nested :
    Rendered (.ok (some secretNested)) true 200 secretNested.body ∧
      interpret 200 secretNested.body true = .ok (some secretNested) ∧
    Rendered (.error (.api 403 ["\t* invalid accessor é\n", ""])) true 403
        (messageBody ["\t* invalid accessor é\n", ""]) ∧
      ∃ f, interpret 403 (messageBody ["\t* invalid accessor é\n", ""]) true = .error f ∧
        f.isExpiredCredential := by
  have hsecret : Rendered (.ok (some secretNested)) true 200 secretNested.body := .secret plain_secretNested
  have hfailure : Rendered (.error (.api 403 ["\t* invalid accessor é\n", ""])) true 403
      (messageBody ["\t* invalid accessor é\n", ""]) := .failure (by decide) (by simp)
  exact ⟨hsecret, (interpret_rendered hsecret).1, hfailure,
    (interpret_rendered hfailure).2.2 ⟨_, rfl, by decide⟩⟩

end Vault

end IdentityGroups
