import Mathlib
import IdentityGroups.Group.Validity
import IdentityGroups.Proofs.Resource.RoundTrip
import IdentityGroups.Proofs.Time.Stamp
import IdentityGroups.Resource.Basic

/-! # A resource that is stored and read again

What a specification and a status are written as is read back as it was, so that nothing that is told from them
changes when they are stored. Their times are written in one form for each instant, whatever form they were read in.
-/

namespace IdentityGroups
open Json Json.Decode Entries

namespace Json

def read? {α : Type} (decode : Decoder α) (text : String) : Option α :=
  (parse? text).bind fun j => (decode j).toOption

/-- Values are read back from the texts that they are written as, which are not those of other values. -/
structure ReadsBack {α : Type} (encode : α → Json) (decode : Decoder α) : Prop where
  value : ∀ a, decode (encode a) = .ok a
  text : ∀ a, read? decode (encode a).render = some a
  again : ∀ a, (read? decode (encode a).render).map encode = some (encode a)
  apart : ∀ a b, (encode a).render = (encode b).render ↔ a = b

theorem readsBack_of_storable {α : Type} {encode : α → Json} {decode : Decoder α}
    (hvalue : ∀ a, decode (encode a) = .ok a) (hstorable : ∀ a, Storable deepest (encode a)) :
    ReadsBack encode decode := by
  have htext (a : α) : read? decode (encode a).render = some a := by
    rw [read?, (hstorable a).parse?_render le_rfl, Option.bind_some, hvalue]
    rfl
  refine ⟨hvalue, htext, fun a => ?_, fun a b => ⟨fun h => ?_, fun h => ?_⟩⟩
  · rw [htext, Option.map_some]
  · have hb := htext b
    rw [← h, htext] at hb
    exact Option.some.inj hb
  · rw [h]

theorem Storable.mono {n levels : Nat} {j : Json} (h : Storable n j) (hl : n ≤ levels) : Storable levels j :=
  ⟨h.canonical, h.integral, h.depth.trans hl⟩

end Json

namespace Spec

def members (s : Spec) : List (String × Json) :=
  [("name", .str s.name), ("type", .str s.kind.word)] ++
    memberIfSome "metadata" .ofTextDict s.metadata ++
    memberIfSome "policies" .ofTexts s.policies ++
    memberIfSome "memberGroupIds" .ofTexts s.memberGroupIds ++
    memberIfSome "memberEntityIds" .ofTexts s.memberEntityIds

theorem distinct_members (s : Spec) : Distinct s.members := by
  refine List.Nodup.sublist ?_ (show ["name", "type", "metadata", "policies", "memberGroupIds",
    "memberEntityIds"].Nodup by decide)
  simp only [members, List.map_append]
  have h := fun {α : Type} (k : String) (f : α → Json) (o : Option α) => keys_memberIfSome k f o
  exact ((((List.Sublist.refl _).append (h _ _ _)).append (h _ _ _)).append (h _ _ _)).append (h _ _ _)

theorem storable_members (s : Spec) : ∀ p ∈ s.members, Storable 1 p.2 := by
  intro p hp
  simp only [members, List.mem_append, List.mem_cons, List.not_mem_nil, or_false] at hp
  rcases hp with ((((rfl | rfl) | hp) | hp) | hp) | hp
  · exact storable_str 1 _
  · exact storable_str 1 _
  · exact storable_memberIfSome (storable_ofTextDict 0) _ p hp
  · exact storable_memberIfSome (storable_ofTexts 0) _ p hp
  · exact storable_memberIfSome (storable_ofTexts 0) _ p hp
  · exact storable_memberIfSome (storable_ofTexts 0) _ p hp

theorem decode_encode (s : Spec) : decode s.encode = .ok s := by
  have hd := s.distinct_members
  have hname := present?_ofList hd (k := "name") rfl (text_str s.name)
  have hkind : memberOr .internal (ofList s.members) "type" GroupKind.decode = .ok s.kind := by
    rw [memberOr_eq, find?_ofList _ hd]
    exact kind_word s.kind
  have hmetadata := optionalMember_of_find? hd (k := "metadata") (o := s.metadata)
    (by simp [members, find?_append, find?_memberIfSome, find?]) (by simp [ofTextDict, ofDict]) dict_ofTextDict
  have hpolicies := optionalMember_of_find? hd (k := "policies") (o := s.policies)
    (by simp [members, find?_append, find?_memberIfSome, find?]) (by simp [ofTexts]) list_ofTexts
  have hgroups := optionalMember_of_find? hd (k := "memberGroupIds") (o := s.memberGroupIds)
    (by simp [members, find?_append, find?_memberIfSome, find?]) (by simp [ofTexts]) list_ofTexts
  have hentities := optionalMember_of_find? hd (k := "memberEntityIds") (o := s.memberEntityIds)
    (by simp [members, find?_append, find?_memberIfSome, find?]) (by simp [ofTexts]) list_ofTexts
  change decode (.obj (ofList s.members)) = _
  simp only [decode, hname, hkind, hmetadata, hpolicies, hgroups, hentities, require, bind, Except.bind, pure,
    Except.pure]

theorem readsBack : ReadsBack encode decode :=
  readsBack_of_storable decode_encode fun s => (storable_object s.storable_members).mono (by decide)

end Spec

namespace Status

theorem decode_encode (s : Status) : decode s.encode = .ok s := decode_obj_iff.2 s.reads_members

theorem readsBack : ReadsBack encode decode :=
  readsBack_of_storable decode_encode fun s => (storable_object s.storable_members).mono (by decide)

end Status

/-! ## Times -/

namespace Time

theorem getLast?_render (t : Instant) : t.render.toList.getLast? = some 'Z' := by
  unfold Instant.render Instant.print
  rw [String.toList_ofList]
  exact List.getLast?_concat

/-- An instant has one normal form, and each normal form one instant. -/
theorem render_eq_iff (t t' : Instant) : t.render = t'.render ↔ t.seconds = t'.seconds ∧ t.nano = t'.nano := by
  constructor
  · intro h
    have hback := parse_render t
    rw [h, parse_render t'] at hback
    cases hback
    exact ⟨rfl, rfl⟩
  · rintro ⟨hs, hn⟩
    rw [Instant.eq_of_seconds hs hn]

end Time

/-! ## Resources -/

namespace Resource

def rewritten (m : List (String × Json)) (r : Resource) : List (String × Json) :=
  Entries.insert "status" (.ofOption Status.encode r.status) (Entries.insert "spec" r.spec.encode m)

theorem decode_rewritten {m : List (String × Json)} {r : Resource} (h : decode (.obj m) = .ok r) :
    decode (.obj (rewritten m r)) = .ok r := by
  simp only [decode, bind_eq_ok_iff] at h ⊢
  obtain ⟨metadata?, hmetadata, _, -, status, -, metadata, hfound, spec, -, hr⟩ := h
  cases hr
  have hmetadata' : present? (rewritten m ⟨metadata, spec, status⟩) "metadata" Metadata.decode =
      .ok metadata? := by
    rw [← hmetadata, present?, rewritten, find?_insert, if_neg (by decide), find?_insert, if_neg (by decide)]
    rfl
  have hspec : present? (rewritten m ⟨metadata, spec, status⟩) "spec" Spec.decode = .ok (some spec) := by
    rw [present?, rewritten, find?_insert, if_neg (by decide), find?_insert, if_pos rfl]
    simp only [spec.decode_encode, Except.map]
  have hstatus : optionalMember (rewritten m ⟨metadata, spec, status⟩) "status" Status.decode = .ok status := by
    rw [optionalMember_eq, rewritten, find?_insert, if_pos rfl]
    exact (Status.held_encode status).decode
  exact ⟨metadata?, hmetadata', some spec, hspec, status, hstatus, metadata, hfound, spec, rfl, rfl⟩

/-- A specification, a status and the resource around them are read back from what they are written as, so that the
group asked for, what is wrong with it and the group tracked stay as they are. A time that was read from any text is
written in universal time, as every text of that instant is, and read back; what a timestamp is read as is what its
fields say, and it is written with as few digits as say all of it. -/
theorem storage_round_trip :
    (ReadsBack Spec.encode Spec.decode ∧ ReadsBack Status.encode Status.decode) ∧
    (∀ m r, decode (.obj m) = .ok r → decode (.obj (rewritten m r)) = .ok r) ∧
    (∀ spec : Spec, (read? Spec.decode spec.encode.render).map (fun s => (s.group, s.group.objection?)) =
      some (spec.group, spec.group.objection?)) ∧
    (∀ status : Status, (read? Status.decode status.encode.render).map Status.tracked? = some status.tracked?) ∧
    (∀ text t, Time.Instant.parse text = .ok t →
      Time.Instant.parse t.render = .ok t ∧ t.render.toList.getLast? = some 'Z' ∧
        ∀ text' t', Time.Instant.parse text' = .ok t' →
          (t.render = t'.render ↔ t.seconds = t'.seconds ∧ t.nano = t'.nano)) ∧
    (∀ st : Time.Stamp, ∃ t, Time.Instant.parse st.text = .ok t ∧ t.seconds = st.seconds ∧ t.nano = st.nano) ∧
    ∀ t : Time.Instant, 0 ≤ t.date.year ∧ t.date.year ≤ 9999 →
      ∃ st : Time.Stamp, st.text = t.render ∧ st.zone.chars = ['Z'] ∧ st.fraction.length ∈ [0, 3, 6, 9] ∧
        ∀ st' : Time.Stamp, Time.Instant.parse st'.text = .ok t → st'.fraction.length ∈ [0, 3, 6, 9] →
          st.fraction.length ≤ st'.fraction.length := by
  refine ⟨⟨Spec.readsBack, Status.readsBack⟩, fun m r => decode_rewritten, fun spec => ?_, fun status => ?_,
    fun text t h => ?_, Time.parse_text, Time.exists_stamp⟩
  · rw [Spec.readsBack.text, Option.map_some]
  · rw [Status.readsBack.text, Option.map_some]
  · exact ⟨Time.parse_render t, Time.getLast?_render t, fun _ t' _ => Time.render_eq_iff t t'⟩

/-! A resource with no policies, and the middle of the leap second that ended the year 2016, east of universal
time. -/

def objectBare : List (String × Json) :=
  [("metadata", .obj []), ("spec", .obj [("name", .str "g"), ("policies", .arr [])])]

def resourceBare : Resource where
  metadata := {}
  spec := { name := "g", policies := some [] }

def stampLeap : Time.Stamp where
  date := ⟨2017, 1, 1, by decide⟩
  isWritten := by decide
  separator := 'T'
  isSeparator := .inl rfl
  hour := 5
  minute := 29
  sec := ⟨60, by decide⟩
  fraction := [5, 0, 0]
  zone := .offset false 5 30

def instantLeap : Time.Instant := ⟨⟨2016, 12, 31, by decide⟩, 86399, 1500000000, by decide⟩

theorem storage_round_trip_leap :
    decode (.obj objectBare) = .ok resourceBare ∧
      decode (.obj (rewritten objectBare resourceBare)) = .ok resourceBare ∧
      stampLeap.text = "2017-01-01T05:29:60.500+05:30" ∧ Time.Instant.parse stampLeap.text = .ok instantLeap ∧
      instantLeap.render = "2016-12-31T23:59:60.500Z" ∧
      Time.Instant.parse instantLeap.render = .ok instantLeap ∧
      ∃ st : Time.Stamp, st.text = instantLeap.render ∧ st.zone.chars = ['Z'] ∧ st.fraction.length ≤ 3 := by
  obtain ⟨-, hresource, -, -, hnormal, hstamp, hshort⟩ := storage_round_trip
  have hdecode : decode (.obj objectBare) = .ok resourceBare := by rfl
  obtain ⟨t, hparse, hseconds, hnano⟩ := hstamp stampLeap
  obtain rfl : t = instantLeap := Time.Instant.eq_of_seconds (hseconds.trans (by decide)) (hnano.trans (by decide))
  obtain ⟨st, htext, hzone, -, hleast⟩ := hshort instantLeap (by decide)
  exact ⟨hdecode, hresource _ _ hdecode, by decide, hparse, by decide, (hnormal _ _ hparse).1, st, htext, hzone,
    hleast stampLeap hparse (by decide)⟩

end Resource

end IdentityGroups
