/-! # Blank characters and trimming

A text is blank when all its characters have Unicode's White_Space property. Trimming removes
such characters, or any other class of characters, from the ends of a text.
-/

namespace IdentityGroups.Text

/-- Unicode's White_Space property. -/
def isBlank (c : Char) : Bool :=
  ('\t' ≤ c && c ≤ '\r') || c = ' ' || c = '\u0085' || c = '\u00a0' || c = '\u1680' ||
    ('\u2000' ≤ c && c ≤ '\u200a') || c = '\u2028' || c = '\u2029' || c = '\u202f' ||
    c = '\u205f' || c = '\u3000'

def dropEndWhile {α : Type} (p : α → Bool) : List α → List α
  | [] => []
  | a :: as =>
    match dropEndWhile p as with
    | [] => if p a then [] else [a]
    | bs => a :: bs

def trimStart (p : Char → Bool) (s : String) : String :=
  String.ofList (s.toList.dropWhile p)

def trimEnd (p : Char → Bool) (s : String) : String :=
  String.ofList (dropEndWhile p s.toList)

def trimBy (p : Char → Bool) (s : String) : String :=
  String.ofList (dropEndWhile p (s.toList.dropWhile p))

def trim (s : String) : String := trimBy isBlank s

def allBlank (s : String) : Bool := s.toList.all isBlank

def afterLead? : (lead s : List Char) → Option (List Char)
  | [], s => some s
  | _ :: _, [] => none
  | c :: lead, d :: s => if c = d then afterLead? lead s else none

def occursIn (part : List Char) : List Char → Bool
  | [] => part.isEmpty
  | c :: s => part.isPrefixOf (c :: s) || occursIn part s

theorem afterLead?_eq_some_iff {lead s rest : List Char} :
    afterLead? lead s = some rest ↔ s = lead ++ rest := by
  induction lead generalizing s with
  | nil => simp [afterLead?, eq_comm]
  | cons c lead ih =>
    cases s with
    | nil => simp [afterLead?]
    | cons d s =>
      by_cases h : c = d
      · simp [afterLead?, h, ih]
      · simp [afterLead?, h, Ne.symm h]

end IdentityGroups.Text
