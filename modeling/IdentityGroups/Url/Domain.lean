import IdentityGroups.Unicode.Composition
import IdentityGroups.Unicode.Direction
import IdentityGroups.Unicode.HostCharacter
import IdentityGroups.Unicode.Joining
import IdentityGroups.Url.Punycode

/-! # Domain names

A domain name is a sequence of labels with dots between them. Names that mean one name are brought
into one form, in which each label is checked; a label that starts with `xn--` is checked as the
label that it encodes, which must be in that form already (Unicode Technical Standard 46, without
limits on the length of names and on where dashes stand).
-/

namespace IdentityGroups.Url.Domain

open Unicode

def isForbidden (c : Char) : Bool :=
  c ≤ ' ' || c = '\x7f' || c ∈ ['#', '%', '/', ':', '<', '>', '?', '@', '[', '\\', ']', '^', '|']

def isAscii (c : Char) : Bool := c < '\x80'

/-- The label that one in the form within ASCII encodes; others stand for themselves. -/
def decodeLabel? : List Char → Option (List Char)
  | 'x' :: 'n' :: '-' :: '-' :: code =>
    if code.getLast?.all (· = '-') || !code.all isAscii || code.length > 2000 then none
    else
      match Punycode.decode? code with
      | none => none
      | some label =>
        if label.all (fun c => hostForm? c = some [c]) && normalize label = label then some label
        else none
  | label => some label

/-- Whether a label can be part of a name; longer ones than a thousand characters only in ASCII. -/
def isLabel (label : List Char) : Bool :=
  !label.any isForbidden && !label.head?.any isMark && joinersFit [] label &&
    (label.all isAscii || label.length ≤ 1000)

def areLegible (labels : List (List Char)) : Bool :=
  let directions := labels.map (·.map direction)
  !directions.any (·.any (·.binds)) || directions.all runsOneWay

def labels? (name : List Char) : Option (List (List Char)) := do
  let forms ← name.mapM hostForm?
  let labels ← ((normalize forms.flatten).splitOn '.').mapM decodeLabel?
  if labels.all isLabel && areLegible labels then some labels else none

end IdentityGroups.Url.Domain
