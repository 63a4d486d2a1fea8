import Mathlib
import IdentityGroups.Json.Document
import IdentityGroups.Json.Printer
import IdentityGroups.Proofs.Json.Merge
import IdentityGroups.Proofs.Time.ReadBack

/-! # Printed values read back

Each part of a printed value is read up to its end, whatever follows, but for numbers, after which something
must stand that does not go on with them: in a document that is a comma, a bracket, a brace or nothing. So a
value without floating-point numbers is read back as it was, however many levels it has, and its members one
by one even where they are not asked for their value.
-/

namespace IdentityGroups.Json
open Entries

/-! ## Texts -/

theorem hexValue?_hexDigit : ∀ n < 16, hexValue? (hexDigit n) = some n := by
  decide

theorem readPieces_letter {e c : Char} (he : e ≠ 'u') (h : unescapeLetter? e = some c) (cs : List Char) :
    readPieces ('\\' :: e :: cs) = (readPieces cs).map fun r => (.char c :: r.1, r.2) := by
  rw [readPieces.eq_4 _ _ (fun _ _ _ _ _ hu => absurd hu he), h]
  cases readPieces cs <;> rfl

theorem readPieces_unit {a b : Char} {m n : Nat} (ha : hexValue? a = some m) (hb : hexValue? b = some n)
    (cs : List Char) : readPieces ('\\' :: 'u' :: '0' :: '0' :: a :: b :: cs) =
      (readPieces cs).map fun r => (unitPiece (m * 16 + n) :: r.1, r.2) := by
  have hzero : hexValue? '0' = some 0 := by decide
  rw [readPieces]
  simp only [hzero, ha, hb]
  cases readPieces cs <;> simp

theorem readPieces_plain {c : Char} (hc : c ≠ '"') (hb : c ≠ '\\') (hs : ¬ c < ' ') (cs : List Char) :
    readPieces (c :: cs) = (readPieces cs).map fun r => (.char c :: r.1, r.2) := by
  rw [readPieces.eq_5 _ _ hc (fun _ _ _ _ _ hu => absurd hu hb) (fun _ _ hu => absurd hu hb),
    if_neg (by simp [hs, hb])]
  cases readPieces cs <;> rfl

/-- A letter that a printed escape uses is read as the character that it stands for. -/
theorem escapeLetter?_inv {c e : Char} (h : escapeLetter? c = some e) :
    e ≠ 'u' ∧ unescapeLetter? e = some c := by
  unfold escapeLetter? at h
  split_ifs at h
  all_goals
    cases h
    subst_vars
    decide

theorem plain_of_escapeLetter? {c : Char} (h : escapeLetter? c = none) : c ≠ '"' ∧ c ≠ '\\' := by
  constructor
  · rintro rfl
    cases h
  · rintro rfl
    cases h

/-- A printed character is read back, whatever follows. -/
theorem readPieces_printChar (c : Char) (cs : List Char) :
    readPieces (printChar c ++ cs) = (readPieces cs).map fun r => (.char c :: r.1, r.2) := by
  unfold printChar
  cases hletter : escapeLetter? c with
  | some e =>
    obtain ⟨he, hc⟩ := escapeLetter?_inv hletter
    exact readPieces_letter he hc cs
  | none =>
    obtain ⟨hquote, hslash⟩ := plain_of_escapeLetter? hletter
    by_cases hs : c < ' '
    · have hlt : c.toNat < 32 := hs
      have hunit : unitPiece (c.toNat / 16 * 16 + c.toNat % 16) = .char c := by
        rw [Nat.div_add_mod', unitPiece, if_neg (by omega), Char.ofNat_toNat]
      have hread := readPieces_unit (hexValue?_hexDigit (c.toNat / 16) (by omega))
        (hexValue?_hexDigit (c.toNat % 16) (by omega)) cs
      simp only [if_pos hs]
      rw [hunit] at hread
      exact hread
    · simp only [if_neg hs]
      exact readPieces_plain hquote hslash hs cs

theorem readPieces_flatMap (l rest : List Char) :
    readPieces (l.flatMap printChar ++ '"' :: rest) = some (l.map .char, rest) := by
  induction l with
  | nil => simp [readPieces]
  | cons c l ih =>
    rw [List.flatMap_cons, List.append_assoc, readPieces_printChar, ih]
    rfl

theorem assemble?_chars (l : List Char) : assemble? (l.map .char) = some l := by
  induction l with
  | nil => rfl
  | cons c l ih =>
    rw [List.map_cons, assemble?, ih]
    rfl

theorem printText_append (s : String) (rest : List Char) :
    printText s ++ rest = '"' :: (s.toList.flatMap printChar ++ '"' :: rest) := by
  simp [printText]

/-- A printed text, after its opening quote, is read back up to its closing one. -/
theorem readText?_printText (s : String) (rest : List Char) :
    readText? (s.toList.flatMap printChar ++ '"' :: rest) = some (some s, rest) := by
  simp only [readText?, readPieces_flatMap, Option.map_some, assemble?_chars, String.ofList_toList]

/-! ## Numbers -/

def Closes (rest : List Char) : Prop := ∀ c ∈ rest.head?, c = ',' ∨ c = ']' ∨ c = '\x7d'

theorem digit?_of_isDigit {c : Char} (h : c.isDigit) : digit? c = some (c.toNat - '0'.toNat) :=
  Time.digit?_of_isDigit h

theorem readDigits_append {ds rest : List Char} (hds : ∀ c ∈ ds, c.isDigit) (hr : Closes rest) :
    readDigits (ds ++ rest) = (ds.map fun c => c.toNat - '0'.toNat, rest) := by
  induction ds with
  | nil =>
    cases rest with
    | nil => rfl
    | cons c rest =>
      have hc : digit? c = none := by
        rcases hr c rfl with rfl | rfl | rfl <;> decide
      simp [readDigits, hc]
  | cons d ds ih =>
    have hd := digit?_of_isDigit (hds d List.mem_cons_self)
    rw [List.cons_append, readDigits, hd]
    simp only [ih fun c hc => hds c (List.mem_cons_of_mem _ hc)]
    rfl

def digitValues (n : Nat) : List Nat := (Nat.toDigits 10 n).map fun c => c.toNat - '0'.toNat

theorem foldl_digitValues (n : Nat) : (digitValues n).foldl (fun m d => m * 10 + d) 0 = n := by
  have h : Nat.ofDigitChars 10 (Nat.toDigits 10 n) 0 = n := Nat.ofDigitChars_toDigits (by decide) (by decide)
  rw [Nat.ofDigitChars_eq_foldl] at h
  rw [digitValues, List.foldl_map]
  simpa only [Nat.mul_comm 10] using h

theorem toNat_digitChar : ∀ n < 10, n.digitChar.toNat - '0'.toNat = n := by
  decide

/-- No digits but those of zero start with a zero. -/
theorem head?_digitValues {n : Nat} (h : n ≠ 0) : (digitValues n).head? ≠ some 0 := by
  induction n using Nat.strongRecOn with
  | ind n ih =>
    unfold digitValues
    rcases Nat.lt_or_ge n 10 with hlt | hge
    · rw [Nat.toDigits_of_lt_base hlt]
      rw [List.map_singleton, List.head?_singleton, toNat_digitChar n hlt]
      exact fun hzero => h (Option.some.inj hzero)
    · have hrest := ih (n / 10) (by omega) (by omega)
      rw [Nat.toDigits_of_base_le (by decide) hge, List.map_append]
      obtain ⟨d, ds, hd⟩ := List.exists_cons_of_ne_nil (Nat.toDigits_ne_nil (n := n / 10) (b := 10))
      rw [digitValues, hd] at hrest
      rw [hd]
      simpa using hrest

theorem readWhole?_digits (n : Nat) {rest : List Char} (hr : Closes rest) :
    readWhole? (Decimal.digitsOf n ++ rest) = some (digitValues n, rest) := by
  have hread : readDigits (Decimal.digitsOf n ++ rest) = (digitValues n, rest) :=
    readDigits_append (fun c => Nat.isDigit_of_mem_toDigits (by decide) (by decide)) hr
  unfold readWhole?
  rw [hread]
  by_cases hn : n = 0
  · subst hn
    rfl
  · have hhead := head?_digitValues hn
    have hne : digitValues n ≠ [] := by simp [digitValues, Nat.toDigits_ne_nil]
    obtain ⟨d, ds, hd⟩ := List.exists_cons_of_ne_nil hne
    rw [hd] at hhead ⊢
    cases d with
    | zero => simp at hhead
    | succ d => rfl

/-- Digits are all taken as long as the number that they make fits. -/
theorem appendDigits_of_lt {ds : List Nat} {n : Nat} (h : ds.foldl (fun m d => m * 10 + d) n < UInt64.size) :
    appendDigits n ds = (ds.foldl (fun m d => m * 10 + d) n, ds.length) := by
  induction ds generalizing n with
  | nil => rfl
  | cons d ds ih =>
    have hgrows : ∀ (ds : List Nat) (m : Nat), m ≤ ds.foldl (fun m d => m * 10 + d) m := by
      intro ds
      induction ds with
      | nil => exact fun m => le_rfl
      | cons d ds ih => exact fun m => le_trans (by omega) (ih (m * 10 + d))
    rw [List.foldl_cons] at h
    rw [appendDigits, if_pos (lt_of_le_of_lt (hgrows ds _) h), ih h]
    rfl

theorem value?_digits {negative : Bool} {n : Nat} {k : Int} (hk : k = if negative then -(n : Int) else n)
    (hfits : -0x8000000000000000 ≤ k ∧ k < 0x10000000000000000) (hzero : ¬ (negative ∧ n = 0)) :
    Numeral.value? ⟨negative, digitValues n, none, none⟩ = some (.int k hfits) := by
  have hsize : (digitValues n).foldl (fun m d => m * 10 + d) 0 < UInt64.size := by
    rw [foldl_digitValues]
    change n < 0x10000000000000000
    cases negative <;> simp at hk <;> omega
  have happend := appendDigits_of_lt hsize
  rw [foldl_digitValues] at happend
  unfold Numeral.value?
  simp only [happend, Nat.sub_self]
  subst hk
  rw [dif_pos ⟨hfits, hzero⟩]

theorem exists_cons_digitsOf (n : Nat) : ∃ c cs, Decimal.digitsOf n = c :: cs ∧ c.isDigit := by
  obtain ⟨c, cs, hc⟩ := List.exists_cons_of_ne_nil (Nat.toDigits_ne_nil (n := n) (b := 10))
  exact ⟨c, cs, hc, Nat.isDigit_of_mem_toDigits (n := n) (by decide) (by decide) (hc ▸ List.mem_cons_self)⟩

/-- A printed integer is read back, before what does not go on with it. -/
theorem readNumeral?_printInt {k : Int} (hfits : -0x8000000000000000 ≤ k ∧ k < 0x10000000000000000)
    {rest : List Char} (hr : Closes rest) : ∃ numeral,
      readNumeral? (printInt k ++ rest) = some (numeral, rest) ∧ numeral.value? = some (.int k hfits) := by
  have hfraction : readFraction? rest = some (none, rest) := by
    cases rest with
    | nil => rfl
    | cons c rest => rcases hr c rfl with rfl | rfl | rfl <;> rfl
  have hexponent : readExponent? rest = some (none, rest) := by
    cases rest with
    | nil => rfl
    | cons c rest => rcases hr c rfl with rfl | rfl | rfl <;> rfl
  cases k with
  | ofNat n =>
    refine ⟨⟨false, digitValues n, none, none⟩, ?_, value?_digits (by simp) hfits (by simp)⟩
    have hwhole := readWhole?_digits n hr
    obtain ⟨c, cs, hc, hdigit⟩ := exists_cons_digitsOf n
    have hminus : c ≠ '-' := by
      rintro rfl
      cases hdigit
    rw [printInt, hc]
    rw [hc] at hwhole
    simp only [List.cons_append] at hwhole ⊢
    simp [readNumeral?, hminus, hwhole, hfraction, hexponent]
  | negSucc n =>
    have hk : Int.negSucc n = if true = true then -((n + 1 : Nat) : Int) else ((n + 1 : Nat) : Int) := rfl
    refine ⟨⟨true, digitValues (n + 1), none, none⟩, ?_, value?_digits hk hfits (by simp)⟩
    have hwhole := readWhole?_digits (n + 1) hr
    simp [printInt, readNumeral?, hwhole, hfraction, hexponent]

/-! ## Documents -/

mutual

def document : Json → Document
  | .null => .null
  | .bool b => .bool b
  | .num n => .number (some n)
  | .str s => .text (some s)
  | .arr items => .array (documentItems items)
  | .obj members => .object (documentMembers members)

def documentItems : List Json → List Document
  | [] => []
  | j :: items => j.document :: documentItems items

def documentMembers : List (String × Json) → List (Option String × Document)
  | [] => []
  | (k, j) :: members => (some k, j.document) :: documentMembers members

end

mutual

def Integral : Json → Prop
  | .num (.float _) => False
  | .arr items => IntegralItems items
  | .obj members => IntegralMembers members
  | _ => True

def IntegralItems : List Json → Prop
  | [] => True
  | j :: items => j.Integral ∧ IntegralItems items

def IntegralMembers : List (String × Json) → Prop
  | [] => True
  | (_, j) :: members => j.Integral ∧ IntegralMembers members

end

theorem skipSpace_cons {c : Char} (h : isSpace c = false) (cs : List Char) :
    skipSpace (c :: cs) = c :: cs := by
  simp [skipSpace, h]

def Opens (cs : List Char) : Prop := ∃ c rest, cs = c :: rest ∧ isSpace c = false ∧ c ≠ ']'

theorem opens_printInt (k : Int) : ∃ c cs, printInt k = c :: cs ∧ (c = '-' ∨ c.isDigit) := by
  cases k with
  | ofNat n =>
    obtain ⟨c, cs, hc, hdigit⟩ := exists_cons_digitsOf n
    exact ⟨c, cs, hc, .inr hdigit⟩
  | negSucc n => exact ⟨'-', _, rfl, .inl rfl⟩

theorem readDocument_array {rest : List Char} (h : Opens rest) (fuel : Nat) :
    readDocument (fuel + 1) ('[' :: rest) = (readItems fuel rest).map fun r => (.array r.1, r.2) := by
  obtain ⟨c, cs, rfl, hspace, hc⟩ := h
  rw [readDocument, skipSpace_cons (by decide)]
  simp only [skipSpace_cons hspace]
  split
  · simp_all
  · rfl

theorem readDocument_object (fuel : Nat) (rest : List Char) :
    readDocument (fuel + 1) ('\x7b' :: '"' :: rest) =
      (readMembers fuel ('"' :: rest)).map fun r => (.object r.1, r.2) := by
  rw [readDocument, skipSpace_cons (by decide)]
  simp only [skipSpace_cons (show isSpace '"' = false by decide)]
  rfl

/-- What begins a number begins nothing else. -/
theorem ne_of_opens_number {c : Char} (h : c = '-' ∨ c.isDigit) : isSpace c = false ∧ c ≠ 'n' ∧ c ≠ 't' ∧
    c ≠ 'f' ∧ c ≠ '"' ∧ c ≠ '[' ∧ c ≠ '\x7b' ∧ c ≠ ']' := by
  have hspace : ¬ isSpace c := by
    intro hs
    simp only [isSpace, Bool.or_eq_true, decide_eq_true_eq] at hs
    rcases hs with ((rfl | rfl) | rfl) | rfl <;> exact absurd h (by decide)
  refine ⟨Bool.not_eq_true _ ▸ hspace, ?_, ?_, ?_, ?_, ?_, ?_, ?_⟩
  all_goals
    rintro rfl
    exact absurd h (by decide)

theorem readDocument_number {c : Char} (h : c = '-' ∨ c.isDigit) (fuel : Nat) (cs : List Char) :
    readDocument (fuel + 1) (c :: cs) = (readNumeral? (c :: cs)).map fun r => (.number r.1.value?, r.2) := by
  obtain ⟨hspace, hn, ht, hf, hq, ha, ho, _⟩ := ne_of_opens_number h
  rw [readDocument, skipSpace_cons hspace]
  split
  all_goals simp_all

theorem closes_comma (rest : List Char) : Closes (',' :: rest) := by
  rintro c ⟨⟩
  exact .inl rfl

theorem closes_bracket (rest : List Char) : Closes (']' :: rest) := by
  rintro c ⟨⟩
  exact .inr (.inl rfl)

theorem closes_brace (rest : List Char) : Closes ('\x7d' :: rest) := by
  rintro c ⟨⟩
  exact .inr (.inr rfl)

theorem readItems_cons {fuel : Nat} {cs rest : List Char} {d : Document}
    (h : readDocument fuel cs = some (d, ',' :: rest)) :
    readItems (fuel + 1) cs = (readItems fuel rest).map fun r => (d :: r.1, r.2) := by
  rw [readItems, h]
  simp only [bind, Option.bind, skipSpace_cons (show isSpace ',' = false by decide)]
  cases readItems fuel rest <;> rfl

theorem readItems_last {fuel : Nat} {cs rest : List Char} {d : Document}
    (h : readDocument fuel cs = some (d, ']' :: rest)) : readItems (fuel + 1) cs = some ([d], rest) := by
  rw [readItems, h]
  simp only [bind, Option.bind, skipSpace_cons (show isSpace ']' = false by decide)]
  rfl

theorem readMembers_cons {fuel : Nat} {k : String} {cs rest : List Char} {d : Document}
    (h : readDocument fuel cs = some (d, ',' :: rest)) : readMembers (fuel + 1) (printText k ++ ':' :: cs) =
      (readMembers fuel rest).map fun r => ((some k, d) :: r.1, r.2) := by
  rw [printText_append, readMembers, skipSpace_cons (by decide)]
  simp only [readText?_printText, bind, Option.bind, h, skipSpace_cons (show isSpace ':' = false by decide),
    skipSpace_cons (show isSpace ',' = false by decide)]
  cases readMembers fuel rest <;> rfl

theorem readMembers_last {fuel : Nat} {k : String} {cs rest : List Char} {d : Document}
    (h : readDocument fuel cs = some (d, '\x7d' :: rest)) :
    readMembers (fuel + 1) (printText k ++ ':' :: cs) = some ([(some k, d)], rest) := by
  rw [printText_append, readMembers, skipSpace_cons (by decide)]
  simp only [readText?_printText, bind, Option.bind, h, skipSpace_cons (show isSpace ':' = false by decide),
    skipSpace_cons (show isSpace '\x7d' = false by decide)]
  rfl

theorem opens_print {j : Json} (h : j.Integral) (rest : List Char) : Opens (j.print ++ rest) := by
  match j with
  | .null => exact ⟨'n', _, rfl, by decide, by decide⟩
  | .bool true => exact ⟨'t', _, rfl, by decide, by decide⟩
  | .bool false => exact ⟨'f', _, rfl, by decide, by decide⟩
  | .num (.int k _) =>
    obtain ⟨c, cs, hc, hopens⟩ := opens_printInt k
    obtain ⟨hspace, _, _, _, _, _, _, hbracket⟩ := ne_of_opens_number hopens
    exact ⟨c, cs ++ rest, congrArg (· ++ rest) hc, hspace, hbracket⟩
  | .str _ => exact ⟨'"', _, rfl, by decide, by decide⟩
  | .arr _ => exact ⟨'[', _, rfl, by decide, by decide⟩
  | .obj _ => exact ⟨'\x7b', _, rfl, by decide, by decide⟩

theorem length_print_pos {j : Json} (h : j.Integral) : 0 < j.print.length := by
  obtain ⟨c, cs, hc, _⟩ := opens_print h []
  rw [List.append_nil] at hc
  simp [hc]

theorem opens_printItems {j : Json} {items : List Json} (h : j.Integral) (rest : List Char) :
    Opens (printItems (j :: items) ++ rest) := by
  cases items with
  | nil => exact opens_print h rest
  | cons j' items =>
    rw [printItems, List.append_assoc]
    · exact opens_print h _
    · simp

theorem opens_printMembers (k : String) (j : Json) (members : List (String × Json)) :
    ∃ cs, printMembers ((k, j) :: members) = '"' :: cs := by
  cases members with
  | nil => exact ⟨_, rfl⟩
  | cons p members => exact ⟨_, rfl⟩

/-! The fuel pays for each character twice: once for the document and once for the item or the member that it
is part of. -/

mutual

/-- A printed value is read up to its end. -/
theorem readDocument_print : ∀ {j : Json} {fuel : Nat} {rest : List Char}, j.Integral →
    2 * j.print.length ≤ fuel + 1 → Closes rest →
      readDocument (fuel + 1) (j.print ++ rest) = some (j.document, rest)
  | .null, _, _, _, _, _ => rfl
  | .bool true, _, _, _, _, _ => rfl
  | .bool false, _, _, _, _, _ => rfl
  | .num (.int k hfits), fuel, rest, _, _, hr => by
    obtain ⟨numeral, hread, hvalue⟩ := readNumeral?_printInt hfits hr
    obtain ⟨c, cs, hc, hopens⟩ := opens_printInt k
    rw [hc, List.cons_append] at hread
    rw [print, printNumber, hc, List.cons_append, readDocument_number hopens, hread, Option.map_some, hvalue]
    rfl
  | .str s, fuel, rest, _, _, _ => by
    rw [print, printText_append, readDocument, skipSpace_cons (by decide)]
    simp only [readText?_printText]
    rfl
  | .arr [], _, _, _, _, _ => rfl
  | .arr (j :: items), fuel, rest, hi, hf, hr => by
    rw [print, List.length_append, List.length_cons, List.length_singleton] at hf
    have hopens : Opens (printItems (j :: items) ++ ']' :: rest) := opens_printItems hi.1 _
    have hitems := readItems_print hi (show 2 * (printItems (j :: items)).length + 1 ≤ fuel by omega) rest
    rw [print, List.append_assoc, List.cons_append, List.singleton_append, readDocument_array hopens, hitems]
    rfl
  | .obj [], _, _, _, _, _ => rfl
  | .obj ((k, j) :: members), fuel, rest, hi, hf, hr => by
    rw [print, List.length_append, List.length_cons, List.length_singleton] at hf
    obtain ⟨cs, hcs⟩ := opens_printMembers k j members
    have hmembers := readMembers_print hi
      (show 2 * (printMembers ((k, j) :: members)).length + 1 ≤ fuel by omega) rest
    rw [hcs, List.cons_append] at hmembers
    rw [print, hcs, List.append_assoc, List.cons_append, List.cons_append, List.singleton_append,
      readDocument_object, hmembers]
    rfl
termination_by _ fuel => fuel + 1

theorem readItems_print : ∀ {j : Json} {items : List Json} {fuel : Nat},
    IntegralItems (j :: items) → 2 * (printItems (j :: items)).length + 1 ≤ fuel → ∀ rest,
      readItems fuel (printItems (j :: items) ++ ']' :: rest) = some (documentItems (j :: items), rest)
  | j, [], fuel, hi, hf, rest => by
    have hpos := length_print_pos hi.1
    rw [printItems] at hf ⊢
    obtain ⟨fuel, rfl⟩ : ∃ n, fuel = n + 2 := ⟨fuel - 2, by omega⟩
    rw [readItems_last (readDocument_print hi.1 (by omega) (closes_bracket rest))]
    rfl
  | j, j' :: items, fuel, hi, hf, rest => by
    have hpos := length_print_pos hi.1
    have hprint : printItems (j :: j' :: items) = j.print ++ ',' :: printItems (j' :: items) := rfl
    rw [hprint, List.length_append, List.length_cons] at hf
    obtain ⟨fuel, rfl⟩ : ∃ n, fuel = n + 2 := ⟨fuel - 2, by omega⟩
    rw [hprint, List.append_assoc, List.cons_append,
      readItems_cons (readDocument_print hi.1 (by omega) (closes_comma _)), readItems_print hi.2 (by omega)]
    rfl
termination_by _ _ fuel => fuel

theorem readMembers_print : ∀ {k : String} {j : Json} {members : List (String × Json)} {fuel : Nat},
    IntegralMembers ((k, j) :: members) → 2 * (printMembers ((k, j) :: members)).length + 1 ≤ fuel → ∀ rest,
      readMembers fuel (printMembers ((k, j) :: members) ++ '\x7d' :: rest) =
        some (documentMembers ((k, j) :: members), rest)
  | k, j, [], fuel, hi, hf, rest => by
    have hprint : printMembers [(k, j)] = printText k ++ ':' :: j.print := rfl
    rw [hprint, List.length_append, List.length_cons] at hf
    have hpos := length_print_pos hi.1
    obtain ⟨fuel, rfl⟩ : ∃ n, fuel = n + 2 := ⟨fuel - 2, by omega⟩
    rw [hprint, List.append_assoc, List.cons_append,
      readMembers_last (readDocument_print hi.1 (by omega) (closes_brace rest))]
    rfl
  | k, j, (k', j') :: members, fuel, hi, hf, rest => by
    have hprint : printMembers ((k, j) :: (k', j') :: members) =
        printText k ++ ':' :: j.print ++ ',' :: printMembers ((k', j') :: members) := rfl
    rw [hprint, List.length_append, List.length_append, List.length_cons, List.length_cons] at hf
    obtain ⟨fuel, rfl⟩ : ∃ n, fuel = n + 2 := ⟨fuel - 2, by omega⟩
    rw [hprint, List.append_assoc, List.append_assoc, List.cons_append, List.cons_append,
      readMembers_cons (readDocument_print hi.1 (by omega) (closes_comma _)),
      readMembers_print hi.2 (by omega)]
    rfl
termination_by _ _ _ fuel => fuel

end

theorem parse?_document {j : Json} (h : j.Integral) : Document.parse? j.render = some j.document := by
  have hread : readDocument (2 * j.print.length + 2) (j.print ++ []) = some (j.document, []) :=
    readDocument_print h (by omega) (by rintro c ⟨⟩)
  rw [List.append_nil] at hread
  rw [Document.parse?, render, String.toList_ofList]
  simp only [hread]
  rfl

/-! ## Values -/

mutual

/-- The document of a canonical value has that value, on as many levels as it nests. -/
theorem value?_document : ∀ {j : Json} {levels : Nat}, j.Canonical → j.depth ≤ levels →
    j.document.value? levels = some j
  | .null, _, _, _ | .bool _, _, _, _ | .num _, _, _, _ | .str _, _, _, _ => by
    simp [document, Document.value?]
  | .arr items, levels, hc, hd => by
    obtain ⟨levels, rfl⟩ := Nat.exists_eq_add_of_le' (Nat.one_le_of_lt hd)
    rw [document, Document.value?, valueItems?_document hc (Nat.le_of_succ_le_succ hd), Option.map_some]
  | .obj members, levels, hc, hd => by
    obtain ⟨levels, rfl⟩ := Nat.exists_eq_add_of_le' (Nat.one_le_of_lt hd)
    rw [document, Document.value?, valueMembers?_document hc.2 (Nat.le_of_succ_le_succ hd), Option.map_some,
      object, ofList_self hc.1]

theorem valueItems?_document : ∀ {items : List Json} {levels : Nat}, CanonicalItems items →
    depthItems items ≤ levels → Document.valueItems? levels (documentItems items) = some items
  | [], _, _, _ => rfl
  | j :: items, levels, hc, hd => by
    obtain ⟨hj, hitems⟩ := max_le_iff.1 hd
    rw [documentItems, Document.valueItems?, value?_document hc.1 hj, valueItems?_document hc.2 hitems]
    rfl

theorem valueMembers?_document : ∀ {members : List (String × Json)} {levels : Nat}, CanonicalMembers members →
    depthMembers members ≤ levels → Document.valueMembers? levels (documentMembers members) = some members
  | [], _, _, _ => rfl
  | (k, j) :: members, levels, hc, hd => by
    obtain ⟨hj, hmembers⟩ := max_le_iff.1 hd
    rw [documentMembers, Document.valueMembers?]
    simp only [value?_document hc.1 hj, valueMembers?_document hc.2 hmembers]
    rfl

end

/-- A printed value is read back. -/
theorem parse?_render {j : Json} (hi : j.Integral) (hc : j.Canonical) (hd : j.depth ≤ deepest) :
    parse? j.render = some j := by
  rw [parse?, parse?_document hi, Option.bind_some, value?_document hc hd]

/-! ## Values that can be kept as texts -/

theorem integralItems_iff {items : List Json} : IntegralItems items ↔ ∀ j ∈ items, j.Integral := by
  induction items with
  | nil => simp [IntegralItems]
  | cons j items ih => simp [IntegralItems, ih]

theorem integralMembers_iff {m : List (String × Json)} : IntegralMembers m ↔ ∀ p ∈ m, p.2.Integral := by
  induction m with
  | nil => simp [IntegralMembers]
  | cons p m ih => obtain ⟨k, j⟩ := p; simp [IntegralMembers, ih]

theorem depthItems_le_iff {items : List Json} {n : Nat} : depthItems items ≤ n ↔ ∀ j ∈ items, j.depth ≤ n := by
  induction items with
  | nil => simp [depthItems]
  | cons j items ih => simp [depthItems, ih]

theorem depthMembers_le_iff {m : List (String × Json)} {n : Nat} :
    depthMembers m ≤ n ↔ ∀ p ∈ m, p.2.depth ≤ n := by
  induction m with
  | nil => simp [depthMembers]
  | cons p m ih => obtain ⟨k, j⟩ := p; simp [depthMembers, ih]

/-- The value is read back from its text, as long as that many levels are. -/
structure Storable (levels : Nat) (j : Json) : Prop where
  canonical : j.Canonical
  integral : j.Integral
  depth : j.depth ≤ levels

theorem Storable.parse?_render {levels : Nat} {j : Json} (h : Storable levels j) (hl : levels ≤ deepest) :
    parse? j.render = some j := Json.parse?_render h.integral h.canonical (h.depth.trans hl)

theorem storable_str (levels : Nat) (s : String) : Storable levels (.str s) := ⟨trivial, trivial, Nat.zero_le _⟩

theorem storable_ofInt64 (levels : Nat) (n : Int64) : Storable levels (.ofInt64 n) :=
  ⟨trivial, trivial, Nat.zero_le _⟩

theorem storable_arr {levels : Nat} {items : List Json} (h : ∀ j ∈ items, Storable levels j) :
    Storable (levels + 1) (.arr items) where
  canonical := canonicalItems_iff.2 fun j hj => (h j hj).canonical
  integral := integralItems_iff.2 fun j hj => (h j hj).integral
  depth := Nat.succ_le_succ (depthItems_le_iff.2 fun j hj => (h j hj).depth)

theorem storable_obj {levels : Nat} {m : List (String × Json)} (ha : Ascending m)
    (h : ∀ p ∈ m, Storable levels p.2) : Storable (levels + 1) (.obj m) where
  canonical := canonical_obj_iff.2 ⟨ha, fun p hp => (h p hp).canonical⟩
  integral := integralMembers_iff.2 fun p hp => (h p hp).integral
  depth := Nat.succ_le_succ (depthMembers_le_iff.2 fun p hp => (h p hp).depth)

theorem storable_object {levels : Nat} {pairs : List (String × Json)} (h : ∀ p ∈ pairs, Storable levels p.2) :
    Storable (levels + 1) (object pairs) :=
  storable_obj (ascending_ofList pairs) fun p hp => h p (mem_of_mem_ofList hp)

theorem storable_memberIfSome {α : Type} {levels : Nat} {k : String} {f : α → Json}
    (hf : ∀ a, Storable levels (f a)) (o : Option α) : ∀ p ∈ memberIfSome k f o, Storable levels p.2 := by
  intro p hp
  obtain ⟨a, _, rfl⟩ : ∃ a, a ∈ o ∧ (k, f a) = p := by simpa [memberIfSome] using hp
  exact hf a

theorem storable_ofTexts (levels : Nat) (l : List String) : Storable (levels + 1) (.ofTexts l) := by
  refine storable_arr fun j hj => ?_
  obtain ⟨s, _, rfl⟩ := List.mem_map.1 hj
  exact storable_str levels s

theorem storable_ofTextDict (levels : Nat) (d : Dict String) : Storable (levels + 1) (.ofTextDict d) := by
  refine storable_obj (d.map Json.str).ascending fun p hp => ?_
  obtain ⟨q, _, rfl⟩ := List.mem_map.1 hp
  exact storable_str levels q.2

end IdentityGroups.Json
