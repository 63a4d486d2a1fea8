import IdentityGroups.Json.Basic

/-! # JSON text, read

Reading has two stages. The first takes a text apart by the grammar of JSON (RFC 8259) and yields a
`Document`, whose members keep their order and repetitions. The second, `Document.value?`, takes the
value of a document and refuses what has none: texts with unpaired surrogates, numbers beyond the
range of doubles, and nesting deeper than allowed. A part of a document that is never asked for its
value need not have one.
-/

namespace IdentityGroups.Json

/-- A text or a number that has no value is `none`. -/
inductive Document where
  | null
  | bool (b : Bool)
  | number (n : Option Number)
  | text (s : Option String)
  | array (items : List Document)
  | object (members : List (Option String × Document))

instance : Inhabited Document := ⟨.null⟩

/-! ## Numbers -/

structure Numeral where
  negative : Bool
  whole : List Nat
  fraction : Option (List Nat)
  exponent : Option Int

/-- Appends digits to `n` as long as the result fits 64 bits; also tells how many were appended. -/
def appendDigits (n : Nat) : List Nat → Nat × Nat
  | [] => (n, 0)
  | d :: ds =>
    if n * 10 + d < UInt64.size then
      let (m, count) := appendDigits (n * 10 + d) ds
      (m, count + 1)
    else (n, 0)

def scaleDown (x : Float) (k : Nat) : Float :=
  if k ≤ 308 then x / Float.ofScientific 1 false k
  else if x == 0 then x
  else scaleDown (x / Float.ofScientific 1 false 308) (k - 308)
termination_by k

/-- The double for `significand * 10 ^ exponent`, by one rounding of the significand and one of the
product or quotient; none beyond the range of doubles. -/
def scaled? (negative : Bool) (significand : Nat) (exponent : Int) : Option Decimal.Binary64 :=
  let x := (UInt64.ofNat significand).toFloat
  let y? : Option Float :=
    match exponent with
    | .ofNat k =>
      if k ≤ 308 then some (x * Float.ofScientific 1 false k)
      else if significand = 0 then some x
      else none
    | .negSucc k => some (scaleDown x (k + 1))
  y?.bind fun y => Decimal.Binary64.ofFloat? (if negative then -y else y)

/-- The digits that 64 bits cannot hold are dropped; before the point each of them raises the
exponent. What has no fraction, exponent or dropped digit stays an integer when 64 bits hold it,
except for negative zero. -/
def Numeral.value? (n : Numeral) : Option Number :=
  let (w, kept) := appendDigits 0 n.whole
  let dropped := n.whole.length - kept
  match n.fraction, n.exponent, dropped with
  | none, none, 0 =>
    let signed : Int := if n.negative then -(w : Int) else w
    if h : (-0x8000000000000000 ≤ signed ∧ signed < 0x10000000000000000) ∧
        ¬ (n.negative ∧ w = 0) then
      some (.int signed h.1)
    else (scaled? n.negative w 0).map .float
  | fraction, exponent, dropped =>
    let (s, used) := appendDigits w (fraction.getD [])
    (scaled? n.negative s ((dropped : Int) - used + exponent.getD 0)).map .float

def digit? (c : Char) : Option Nat :=
  if '0' ≤ c ∧ c ≤ '9' then some (c.toNat - 48) else none

def readDigits : List Char → List Nat × List Char
  | [] => ([], [])
  | c :: cs =>
    match digit? c with
    | none => ([], c :: cs)
    | some d =>
      let (ds, rest) := readDigits cs
      (d :: ds, rest)

def readDigits1? (cs : List Char) : Option (List Nat × List Char) :=
  match readDigits cs with
  | ([], _) => none
  | r => some r

def readWhole? (cs : List Char) : Option (List Nat × List Char) :=
  match readDigits cs with
  | ([], _) => none
  | ([0], rest) => some ([0], rest)
  | (0 :: _, _) => none
  | r => some r

def readFraction? : List Char → Option (Option (List Nat) × List Char)
  | '.' :: cs => (readDigits1? cs).map fun (ds, rest) => (some ds, rest)
  | cs => some (none, cs)

def natOfDigits (ds : List Nat) : Nat := ds.foldl (fun n d => n * 10 + d) 0

def readExponent? (cs : List Char) : Option (Option Int × List Char) :=
  let signed (negative : Bool) (cs : List Char) : Option (Option Int × List Char) :=
    (readDigits1? cs).map fun (ds, rest) =>
      (some (if negative then -(natOfDigits ds : Int) else natOfDigits ds), rest)
  let afterE (cs : List Char) : Option (Option Int × List Char) :=
    match cs with
    | '+' :: cs => signed false cs
    | '-' :: cs => signed true cs
    | cs => signed false cs
  match cs with
  | 'e' :: cs => afterE cs
  | 'E' :: cs => afterE cs
  | cs => some (none, cs)

def readNumeral? (cs : List Char) : Option (Numeral × List Char) := do
  let (negative, cs) := match cs with
    | '-' :: cs => (true, cs)
    | cs => (false, cs)
  let (whole, cs) ← readWhole? cs
  let (fraction, cs) ← readFraction? cs
  let (exponent, cs) ← readExponent? cs
  return (⟨negative, whole, fraction, exponent⟩, cs)

/-! ## Texts -/

inductive Piece where
  | char (c : Char)
  | surrogate (unit : Nat)
  deriving DecidableEq, Repr

def hexValue? (c : Char) : Option Nat :=
  if '0' ≤ c ∧ c ≤ '9' then some (c.toNat - 48)
  else if 'a' ≤ c ∧ c ≤ 'f' then some (c.toNat - 87)
  else if 'A' ≤ c ∧ c ≤ 'F' then some (c.toNat - 55)
  else none

def unescapeLetter? (c : Char) : Option Char :=
  if c = '"' then some '"'
  else if c = '\\' then some '\\'
  else if c = '/' then some '/'
  else if c = 'b' then some '\x08'
  else if c = 'f' then some '\x0c'
  else if c = 'n' then some '\n'
  else if c = 'r' then some '\r'
  else if c = 't' then some '\t'
  else none

def unitPiece (n : Nat) : Piece :=
  if 0xd800 ≤ n ∧ n < 0xe000 then .surrogate n else .char (Char.ofNat n)

def readPieces : List Char → Option (List Piece × List Char)
  | [] => none
  | '"' :: cs => some ([], cs)
  | '\\' :: 'u' :: a :: b :: c :: d :: cs => do
    let n := (← hexValue? a) * 4096 + (← hexValue? b) * 256 + (← hexValue? c) * 16 +
      (← hexValue? d)
    let (ps, rest) ← readPieces cs
    return (unitPiece n :: ps, rest)
  | '\\' :: e :: cs => do
    let c ← unescapeLetter? e
    let (ps, rest) ← readPieces cs
    return (.char c :: ps, rest)
  | c :: cs => do
    if c < ' ' ∨ c = '\\' then none
    else
      let (ps, rest) ← readPieces cs
      return (.char c :: ps, rest)

/-- The characters that the elements form; each surrogate must be half of a pair. -/
def assemble? : List Piece → Option (List Char)
  | [] => some []
  | .char c :: ps => (assemble? ps).map (c :: ·)
  | .surrogate h :: .surrogate l :: ps =>
    if h < 0xdc00 ∧ 0xdc00 ≤ l then
      (assemble? ps).map (Char.ofNat (0x10000 + (h - 0xd800) * 1024 + (l - 0xdc00)) :: ·)
    else none
  | .surrogate _ :: _ => none

def readText? (cs : List Char) : Option (Option String × List Char) :=
  (readPieces cs).map fun (ps, rest) => ((assemble? ps).map String.ofList, rest)

/-! ## Documents -/

def isSpace (c : Char) : Bool := c = ' ' || c = '\n' || c = '\t' || c = '\r'

def skipSpace (cs : List Char) : List Char := cs.dropWhile isSpace

mutual

/-- The document at the front, after spaces. Each level of nesting and each item takes fuel. -/
def readDocument : (fuel : Nat) → List Char → Option (Document × List Char)
  | 0, _ => none
  | fuel + 1, cs =>
    match skipSpace cs with
    | 'n' :: 'u' :: 'l' :: 'l' :: rest => some (.null, rest)
    | 't' :: 'r' :: 'u' :: 'e' :: rest => some (.bool true, rest)
    | 'f' :: 'a' :: 'l' :: 's' :: 'e' :: rest => some (.bool false, rest)
    | '"' :: rest => (readText? rest).map fun (s, rest) => (.text s, rest)
    | '[' :: rest =>
      match skipSpace rest with
      | ']' :: rest => some (.array [], rest)
      | rest => (readItems fuel rest).map fun (items, rest) => (.array items, rest)
    | '\x7b' :: rest =>
      match skipSpace rest with
      | '\x7d' :: rest => some (.object [], rest)
      | rest => (readMembers fuel rest).map fun (members, rest) => (.object members, rest)
    | rest => (readNumeral? rest).map fun (n, rest) => (.number n.value?, rest)

def readItems : (fuel : Nat) → List Char → Option (List Document × List Char)
  | 0, _ => none
  | fuel + 1, cs => do
    let (item, rest) ← readDocument fuel cs
    match skipSpace rest with
    | ',' :: rest =>
      let (items, rest) ← readItems fuel rest
      return (item :: items, rest)
    | ']' :: rest => return ([item], rest)
    | _ => none

def readMembers : (fuel : Nat) → List Char → Option (List (Option String × Document) × List Char)
  | 0, _ => none
  | fuel + 1, cs => do
    match skipSpace cs with
    | '"' :: rest =>
      let (name, rest) ← readText? rest
      match skipSpace rest with
      | ':' :: rest =>
        let (item, rest) ← readDocument fuel rest
        match skipSpace rest with
        | ',' :: rest =>
          let (members, rest) ← readMembers fuel rest
          return ((name, item) :: members, rest)
        | '\x7d' :: rest => return ([(name, item)], rest)
        | _ => none
      | _ => none
    | _ => none

end

namespace Document

def parse? (s : String) : Option Document := do
  let cs := s.toList
  let (d, rest) ← readDocument (2 * cs.length + 2) cs
  if skipSpace rest = [] then return d else none

mutual

def value? (levels : Nat) : Document → Option Json
  | .null => some .null
  | .bool b => some (.bool b)
  | .number n => n.map .num
  | .text s => s.map .str
  | .array items =>
    match levels with
    | 0 => none
    | levels + 1 => (valueItems? levels items).map .arr
  | .object members =>
    match levels with
    | 0 => none
    | levels + 1 => (valueMembers? levels members).map .object

def valueItems? (levels : Nat) : List Document → Option (List Json)
  | [] => some []
  | d :: items => do
    let j ← d.value? levels
    return j :: (← valueItems? levels items)

def valueMembers? (levels : Nat) : List (Option String × Document) → Option (List (String × Json))
  | [] => some []
  | (name, d) :: members => do
    let name ← name
    let j ← d.value? levels
    return (name, j) :: (← valueMembers? levels members)

end

/-! ### Parts of a document -/

def text? : Document → Option String
  | .text s => s
  | _ => none

def texts? : Document → Option (List String)
  | .array items => items.mapM text?
  | _ => none

def flag? : Document → Option Bool
  | .bool b => some b
  | _ => none

def natural? : Document → Option UInt64
  | .number (some (.int n _)) => if 0 ≤ n then some (UInt64.ofNat n.toNat) else none
  | _ => none

def dict? (levels : Nat) (d : Document) : Option (Dict Json) :=
  match d.value? levels with
  | some (.obj members) => some (Dict.ofList members)
  | _ => none

def optional? {α : Type} (part? : Document → Option α) : Document → Option (Option α)
  | .null => some none
  | d => (part? d).map some

/-- The fields of a record: of an object those that are `known`, each at most once, and of an array
its items in the order of the known fields. Members that are not known are passed over. -/
def fields? (known : List String) : Document → Option (List (String × Document))
  | .array items => if items.length ≤ known.length then some (known.zip items) else none
  | .object members => do
    let named ← members.mapM fun (k, d) => k.map (·, d)
    let fields := named.filter fun (k, _) => k ∈ known
    if (fields.map (·.1)).Nodup then return fields else none
  | _ => none

def field? {α : Type} (default : α) (k : String) (part? : Document → Option α)
    (fields : List (String × Document)) : Option α :=
  match fields.lookup k with
  | none => some default
  | some d => part? d

end Document

def deepest : Nat := 127

def parse? (s : String) : Option Json := (Document.parse? s).bind (·.value? deepest)

end IdentityGroups.Json
