import Mathlib
import IdentityGroups.Proofs.Sync.Claims
import IdentityGroups.Proofs.Url.Parse
import IdentityGroups.Vault.Client

/-! # Where a group is looked up by its name

What is written for a name holds no character that ends a segment, so the name keeps to a segment of its own,
and another name has another. The exceptions are the names of one dot and of two, which nothing keeps from
being valid: they are written as they are, and resolved.
-/

namespace IdentityGroups

namespace Text.Percent

theorem isPlain_hexDigit {n : Nat} (h : n < 16) : Url.isPlain (hexDigit n) := by
  interval_cases n <;> decide

theorem isPlain_of_isUnreserved {b : UInt8} (h : isUnreserved b) : Url.isPlain (Char.ofNat b.toNat) := by
  obtain ⟨n, hn, rfl⟩ : ∃ n, n < 256 ∧ b = UInt8.ofNat n := ⟨b.toNat, b.toNat_lt, (UInt8.ofNat_toNat).symm⟩
  revert n
  decide +kernel

theorem isPlain_encode {s : String} {c : Char} (h : c ∈ (encode s).toList) : Url.isPlain c := by
  rw [encode, String.toList_ofList, List.mem_flatMap] at h
  obtain ⟨b, _, hc⟩ := h
  unfold encodeByte at hc
  split at hc
  · rename_i hb
    rw [List.mem_singleton.1 hc]
    exact isPlain_of_isUnreserved hb
  · have hlt : b.toNat < 256 := b.toNat_lt
    simp only [List.mem_cons, List.not_mem_nil, or_false] at hc
    rcases hc with rfl | rfl | rfl
    · decide
    · exact isPlain_hexDigit (by omega)
    · exact isPlain_hexDigit (by omega)

theorem eq_of_toLower_eq {c : Char} (h : c.toLower = 'e') : c = 'e' ∨ c = 'E' := by
  unfold Char.toLower at h
  split at h
  · rename_i hupper
    have hhigh : c.val.toNat ≤ 90 := UInt32.le_iff_toNat_le.1 hupper.2
    have hval : (c.val.toNat + 32) % 2 ^ 32 = 101 := congrArg (fun d : Char => d.val.toNat) h
    have hc : c.val.toNat = 69 := by omega
    exact .inr (Char.ext (UInt32.toNat_inj.1 hc))
  · exact .inl h

def dotForms : List (List Char) := [['.'], ['%', '2', 'e'], ['%', '2', 'E']]

theorem eq_of_afterDot? {l rest : List Char} (h : Url.afterDot? l = some rest) :
    ∃ dot ∈ dotForms, l = dot ++ rest := by
  unfold Url.afterDot? at h
  split at h
  case h_1 =>
    cases h
    exact ⟨['.'], by decide, rfl⟩
  case h_2 e rest' =>
    split at h
    · rename_i he
      cases h
      rcases eq_of_toLower_eq he with rfl | rfl
      · exact ⟨['%', '2', 'e'], by decide, rfl⟩
      · exact ⟨['%', '2', 'E'], by decide, rfl⟩
    · cases h
  case h_3 => cases h

/-- Whatever stands for dots is decoded to them. -/
theorem decode_of_dots? {l : List Char} {n : Nat} (h : Url.dots? l = some n) :
    decode (String.ofList l) = .ok (if n = 1 then "." else "..") := by
  have hone : ∀ dot ∈ dotForms, decode (String.ofList dot) = .ok "." := by
    decide +kernel
  have htwo : ∀ dot ∈ dotForms, ∀ dot' ∈ dotForms, decode (String.ofList (dot ++ dot')) = .ok ".." := by
    decide +kernel
  unfold Url.dots? at h
  split at h
  case h_1 => cases h
  case h_2 hfirst =>
    cases h
    obtain ⟨dot, hdot, rfl⟩ := eq_of_afterDot? hfirst
    rw [List.append_nil]
    exact hone dot hdot
  case h_3 rest _ hfirst =>
    split at h
    · rename_i hsecond
      cases h
      obtain ⟨dot, hdot, rfl⟩ := eq_of_afterDot? hfirst
      obtain ⟨dot', hdot', rfl⟩ := eq_of_afterDot? hsecond
      rw [List.append_nil]
      exact htwo dot hdot dot' hdot'
    · cases h

/-- Dots are written for dots only. -/
theorem dots?_encode (s : String) : Url.dots? (encode s).toList =
    if s = "." then some 1 else if s = ".." then some 2 else none := by
  by_cases hone : s = "."
  · subst hone
    decide
  by_cases htwo : s = ".."
  · subst htwo
    decide
  rw [if_neg hone, if_neg htwo]
  cases hd : Url.dots? (encode s).toList with
  | none => rfl
  | some n =>
    have hdecode := decode_of_dots? hd
    rw [String.ofList_toList, decode_encode] at hdecode
    have hs := Except.ok.inj hdecode
    split at hs
    · exact absurd hs hone
    · exact absurd hs htwo

end Text.Percent

namespace Vault

/-! ## Addresses of a server -/

structure IsServer (addr : String) (scheme authority : List Char) : Prop where
  addr_eq : ∃ n, addr.toList = scheme ++ ':' :: '/' :: '/' :: (authority ++ List.replicate n '/')
  scheme : ∀ c ∈ scheme, Url.isSchemeChar c
  authority_ne : authority ≠ []
  authority : ∀ c ∈ authority, Url.isAuthorityChar c

def lookupLead : List (List Char) := ["v1".toList, "identity".toList, "group".toList, "name".toList]

theorem isPlain_of_mem_lookupLead {s : List Char} (hs : s ∈ lookupLead) {c : Char} (hc : c ∈ s) :
    Url.isPlain c := by
  have hall : lookupLead.all (·.all Url.isPlain) := by decide +kernel
  exact List.all_eq_true.1 (List.all_eq_true.1 hall s hs) c hc

theorem dots?_of_mem_lookupLead : ∀ s ∈ lookupLead, Url.dots? s = none := by decide

variable {addr : String} {scheme authority : List Char}

theorem toList_trimEnd_addr (h : IsServer addr scheme authority) :
    (Text.trimEnd (· = '/') addr).toList = scheme ++ ':' :: '/' :: '/' :: authority := by
  obtain ⟨n, haddr⟩ := h.addr_eq
  obtain ⟨init, last, rfl⟩ := (List.eq_nil_or_concat authority).resolve_left h.authority_ne
  have hlast : (fun c => decide (c = '/')) last = false := by
    have hslash := (Url.isAuthorityChar_iff.1 (h.authority last (by simp))).2.1
    refine decide_eq_false ?_
    rintro rfl
    cases hslash
  have hslashes : Text.dropEndWhile (fun c => decide (c = '/')) (List.replicate n '/') = [] :=
    Text.dropEndWhile_eq_nil fun c hc => by simpa using (List.eq_of_mem_replicate hc)
  have hsplit : scheme ++ ':' :: '/' :: '/' :: (init.concat last ++ List.replicate n '/') =
      (scheme ++ ':' :: '/' :: '/' :: init) ++ last :: List.replicate n '/' := by simp
  have hkept := Text.dropEndWhile_append_cons (p := fun c => decide (c = '/')) hlast
    (scheme ++ ':' :: '/' :: '/' :: init) (List.replicate n '/')
  rw [hslashes] at hkept
  rw [Text.trimEnd, String.toList_ofList, haddr, hsplit]
  refine hkept.trans ?_
  simp

theorem toList_trimStart_namePath (name : String) : (Text.trimStart (· = '/') (Group.namePath name)).toList =
    "identity/group/name/".toList ++ (Text.Percent.encode name).toList := by
  have hpath : (Group.namePath name).toList =
      '/' :: ("identity/group/name/".toList ++ (Text.Percent.encode name).toList) := by
    simp [Group.namePath, Group.collectionPath]
  rw [Text.trimStart, String.toList_ofList, hpath]
  rfl

/-- The text that is asked for under a name is that of the server, the lead and what is written for the name. -/
theorem spells_lookup (h : IsServer addr scheme authority) (name : String) :
    Url.Spells (apiUrl addr (Group.namePath name)).toList scheme authority
      (lookupLead ++ [(Text.Percent.encode name).toList]) where
  text_eq := by
    simp only [apiUrl, String.toList_append, toList_trimEnd_addr h, toList_trimStart_namePath]
    simp [lookupLead, List.intercalate_cons_cons]
  scheme := h.scheme
  authority_ne := h.authority_ne
  authority := h.authority
  segments_ne := by simp
  segments := by
    intro s hs c hc
    rcases List.mem_append.1 hs with hs | hs
    · exact isPlain_of_mem_lookupLead hs hc
    · rw [List.mem_singleton.1 hs] at hc
      exact Text.Percent.isPlain_encode hc

def lookupTarget (name : String) : String :=
  if name = "." then "/v1/identity/group/name/"
  else if name = ".." then "/v1/identity/group/"
  else "/v1/identity/group/name/" ++ Text.Percent.encode name

theorem path_lookup (name : String) : "/" ++ "/".intercalate
    ((Url.resolve [] (lookupLead ++ [(Text.Percent.encode name).toList])).map String.ofList) =
      lookupTarget name := by
  rw [Url.resolve_append_singleton dots?_of_mem_lookupLead, Text.Percent.dots?_encode, lookupTarget]
  by_cases hone : name = "."
  · simp only [if_pos hone]
    decide
  · by_cases htwo : name = ".."
    · simp only [if_neg hone, if_pos htwo]
      decide
    · simp only [if_neg hone, if_neg htwo]
      apply String.toList_inj.1
      simp [lookupLead]

def CanAsk (scheme authority : List Char) : Prop :=
  (scheme.map Char.toLower = "http".toList ∨ scheme.map Char.toLower = "https".toList) ∧
    (Url.hostPort? authority).isSome

instance (scheme authority : List Char) : Decidable (CanAsk scheme authority) := by
  unfold CanAsk
  infer_instance

theorem target_lookup (h : IsServer addr scheme authority) (name : String) :
    (Url.parse? (apiUrl addr (Group.namePath name))).map Url.target =
      if CanAsk scheme authority then some (lookupTarget name) else none := by
  rw [Url.parse?_of_spells (spells_lookup h name)]
  by_cases hscheme : scheme.map Char.toLower = "http".toList ∨ scheme.map Char.toLower = "https".toList
  · have hknown : ¬ (scheme.map Char.toLower ≠ "http".toList ∧ scheme.map Char.toLower ≠ "https".toList) :=
      fun hnot => hscheme.elim hnot.1 hnot.2
    rw [if_neg hknown]
    cases hhost : Url.hostPort? authority with
    | none =>
      have hcannot : ¬ CanAsk scheme authority := by simp [CanAsk, hhost]
      rw [if_neg hcannot]
      rfl
    | some hostPort =>
      have hcan : CanAsk scheme authority := ⟨hscheme, by rw [hhost]; rfl⟩
      rw [if_pos hcan, ← path_lookup]
      rfl
  · rw [if_pos (not_or.1 hscheme), if_neg fun hcan => hscheme hcan.1]
    rfl

/-- The request that looks a name up, if there is one. -/
theorem httpRequest?_lookup {s : Settings} (h : IsServer s.addr scheme authority) (name : String) :
    s.httpRequest? (.read (Group.namePath name)) =
      if CanAsk scheme authority ∧ isHeaderValue s.token ∧ s.inNamespace?.all isHeaderValue then some {
        method := "GET"
        target := lookupTarget name
        token := s.token
        inNamespace? := s.inNamespace?
        contentType := none
        body := none }
      else none := by
  have htarget := target_lookup h name
  unfold Settings.httpRequest?
  rw [Request.path]
  cases hurl : Url.parse? (apiUrl s.addr (Group.namePath name)) with
  | none =>
    rw [hurl] at htarget
    have hcannot : ¬ CanAsk scheme authority := by
      intro hcan
      rw [if_pos hcan] at htarget
      cases htarget
    rw [if_neg fun hsend => hcannot hsend.1]
    rfl
  | some url =>
    rw [hurl] at htarget
    have hcan : CanAsk scheme authority := by
      by_contra hcannot
      rw [if_neg hcannot] at htarget
      cases htarget
    rw [if_pos hcan] at htarget
    have hasked : url.target = lookupTarget name := Option.some.inj htarget
    simp only [Option.bind_eq_bind, Option.bind_some, hasked, hcan, true_and]
    rfl

/-! ## Names in segments of their own -/

/-- A target with one segment after the lead, which holds the name; nothing follows it. -/
def HoldsName (target name : String) : Prop :=
  ∃ segment, target = "/v1/identity/group/name/" ++ segment ∧ segment ≠ "" ∧
    (∀ c ∈ segment.toList, c ∉ ['/', '?', '#']) ∧ Text.Percent.decode segment = .ok name

theorem HoldsName.unique {target name name' : String} (h : HoldsName target name)
    (h' : HoldsName target name') : name = name' := by
  obtain ⟨segment, rfl, -, -, hname⟩ := h
  obtain ⟨segment', heq, -, -, hname'⟩ := h'
  have hsegment : segment = segment' := by
    have hlists := congrArg String.toList heq
    rw [String.toList_append, String.toList_append] at hlists
    exact String.toList_inj.1 (List.append_cancel_left hlists)
  rw [← hsegment, hname] at hname'
  exact Except.ok.inj hname'

theorem not_holdsName_of_dots {name : String} (h : name = "." ∨ name = "..") (other : String) :
    ¬ HoldsName (lookupTarget name) other := by
  have hshort : (lookupTarget name).length ≤ "/v1/identity/group/name/".length := by
    rcases h with rfl | rfl <;> decide
  rintro ⟨segment, htarget, hne, -⟩
  rw [htarget, String.length_append] at hshort
  have hempty : segment.length = 0 := by omega
  exact hne (String.length_eq_zero_iff.1 hempty)

/-- A name has a segment of its own unless it is one of dots. -/
theorem holdsName_lookupTarget_iff {name : String} (hne : name ≠ "") :
    HoldsName (lookupTarget name) name ↔ name ≠ "." ∧ name ≠ ".." := by
  constructor
  · intro h
    rw [← not_or]
    exact fun hdots => not_holdsName_of_dots hdots name h
  · rintro ⟨hone, htwo⟩
    refine ⟨Text.Percent.encode name, ?_, Text.Percent.encode_ne_empty hne, fun c hc => ?_,
      Text.Percent.decode_encode name⟩
    · rw [lookupTarget, if_neg hone, if_neg htwo]
    · have hplain := Text.Percent.isPlain_encode hc
      have hslash : c ≠ '/' := by
        rintro rfl
        exact absurd hplain (by decide)
      simp [hslash, Url.ne_of_isPlain hplain]

/-- Different names are looked up under different targets, those of dots too. -/
theorem lookupTarget_injective {name name' : String} (h : name ≠ "") (h' : name' ≠ "")
    (heq : lookupTarget name = lookupTarget name') : name = name' := by
  by_cases hdots : name = "." ∨ name = ".."
  · have hdots' : name' = "." ∨ name' = ".." := by
      by_contra hnot
      have hholds := (holdsName_lookupTarget_iff h').2 (not_or.1 hnot)
      rw [← heq] at hholds
      exact not_holdsName_of_dots hdots name' hholds
    rcases hdots with rfl | rfl <;> rcases hdots' with rfl | rfl
    · rfl
    · exact absurd heq (by decide)
    · exact absurd heq (by decide)
    · rfl
  · have hholds := (holdsName_lookupTarget_iff h).2 (not_or.1 hdots)
    have hdots' : ¬ (name' = "." ∨ name' = "..") := by
      intro hdots'
      rw [heq] at hholds
      exact not_holdsName_of_dots hdots' name hholds
    have hholds' := (holdsName_lookupTarget_iff h').2 (not_or.1 hdots')
    rw [← heq] at hholds'
    exact hholds.unique hholds'

/-- A valid name is asked for in a segment of its own just when it is not one of dots, which are resolved; no
query and no fragment follows, and no other valid name is asked for in the same way. -/
theorem name_looked_up_iff {s : Settings} (h : IsServer s.addr scheme authority) {g : Group} (hg : g.Valid) :
    ((s.httpRequest? (.read (Group.namePath g.name))).isSome ↔
      CanAsk scheme authority ∧ isHeaderValue s.token ∧ s.inNamespace?.all isHeaderValue) ∧
    '#' ∉ (apiUrl s.addr (Group.namePath g.name)).toList ∧
    ∀ req, s.httpRequest? (.read (Group.namePath g.name)) = some req →
      (HoldsName req.target g.name ↔ g.name ≠ "." ∧ g.name ≠ "..") ∧
      (g.name = "." → req.target = "/v1/identity/group/name/") ∧
      (g.name = ".." → req.target = "/v1/identity/group/") ∧
      ∀ (g' : Group) req', g'.Valid → s.httpRequest? (.read (Group.namePath g'.name)) = some req' →
        req'.target = req.target → g'.name = g.name := by
  have htarget {name : String} {req : HttpRequest}
      (hreq : s.httpRequest? (.read (Group.namePath name)) = some req) : req.target = lookupTarget name := by
    rw [httpRequest?_lookup h] at hreq
    split at hreq
    · cases hreq
      rfl
    · cases hreq
  refine ⟨?_, (spells_lookup h g.name).no_fragment, fun req hreq => ⟨?_, ?_, ?_, ?_⟩⟩
  · rw [httpRequest?_lookup h]
    split
    · exact iff_of_true rfl ‹_›
    · exact iff_of_false (by simp) ‹_›
  · rw [htarget hreq]
    exact holdsName_lookupTarget_iff hg.name_ne_empty
  · intro hone
    rw [htarget hreq, lookupTarget, if_pos hone]
  · intro htwo
    have hone : g.name ≠ "." := by
      rw [htwo]
      decide
    rw [htarget hreq, lookupTarget, if_neg hone, if_pos htwo]
  · intro g' req' hg' hreq' heq
    rw [htarget hreq, htarget hreq'] at heq
    exact lookupTarget_injective hg'.name_ne_empty hg.name_ne_empty heq

/-! A server by its name, with a slash after it. -/

def atVault : Settings where
  addr := "http://vault:8200/"
  token := "t"

theorem canAsk_atVault : CanAsk "http".toList "vault:8200".toList := by
  refine ⟨.inl (by decide), ?_⟩
  decide +kernel

theorem isServer_atVault : IsServer atVault.addr "http".toList "vault:8200".toList where
  addr_eq := ⟨1, by decide⟩
  scheme := List.all_eq_true.1 (show "http".toList.all Url.isSchemeChar by decide)
  authority_ne := by decide
  authority := List.all_eq_true.1 (show "vault:8200".toList.all Url.isAuthorityChar by decide)

/-- Marks and what looks like an escape stay inside the segment. -/
theorem marked_name_looked_up : ∃ req,
    atVault.httpRequest? (.read (Group.namePath "a?b#%2e")) = some req ∧ HoldsName req.target "a?b#%2e" := by
  have hvalid : Group.Valid { name := "a?b#%2e" } := by decide
  obtain ⟨hsent, -, hreq⟩ := name_looked_up_iff isServer_atVault hvalid
  obtain ⟨req, hsome⟩ := Option.isSome_iff_exists.1 (hsent.2 ⟨canAsk_atVault, by decide, by decide⟩)
  exact ⟨req, hsome, (hreq req hsome).1.2 (by decide)⟩

/-- Two dots are a valid name, and what is asked for is not a name. -/
theorem dots_not_held : Group.Valid { name := ".." } ∧ ∃ req,
    atVault.httpRequest? (.read (Group.namePath "..")) = some req ∧ ¬ HoldsName req.target ".." := by
  have hsend : CanAsk "http".toList "vault:8200".toList ∧ isHeaderValue atVault.token ∧
      atVault.inNamespace?.all isHeaderValue := ⟨canAsk_atVault, by decide, by decide⟩
  refine ⟨by decide, _, (httpRequest?_lookup isServer_atVault "..").trans (if_pos hsend), ?_⟩
  exact not_holdsName_of_dots (.inr rfl) ".."

end Vault

end IdentityGroups
