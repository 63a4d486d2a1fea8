import IdentityGroups.Text.Blank
import IdentityGroups.Text.Numeral

/-! # Which log lines are written

A filter is a list of directives, separated by commas: a level for all, a target with a level, or a
target whose lines are all written. Of the directives whose target starts the target of a line, the
longest decides, and of equally long ones the last. A directive may also be bound to a span of the
program, in brackets; no line is written within one.
-/

namespace IdentityGroups.Config

inductive Level where
  | error
  | warn
  | info
  | debug
  | trace
  deriving DecidableEq, Repr, Inhabited

def Level.rank : Level → Nat
  | .error => 1
  | .warn => 2
  | .info => 3
  | .debug => 4
  | .trace => 5

def Level.word : Level → String
  | .error => "ERROR"
  | .warn => "WARN"
  | .info => "INFO"
  | .debug => "DEBUG"
  | .trace => "TRACE"

/-- Lines of the target and below are written up to a rank; zero writes none. -/
structure Directive where
  target : String
  rank : Nat
  deriving DecidableEq, Repr

namespace LogFilter

def lowerAscii (s : String) : String := String.ofList (s.toList.map Char.toLower)

def all : Nat := Level.trace.rank

def rank? (word : String) : Option Nat :=
  match Text.Numeral.parse all word with
  | .ok n => some n
  | .error _ =>
    let w := lowerAscii word
    if w = "off" then some 0
    else ([.error, .warn, .info, .debug, .trace].find? fun l => w = lowerAscii l.word).map Level.rank

/-- A directive starts with a bracket or with a letter, a digit or one of three signs; characters
outside ASCII count as letters. -/
def canStart (c : Char) : Bool := c.isAlphanum || c ∈ ['-', ':', '_', '['] || c ≥ '\x80'

def rankAfter? : List Char → Option Nat
  | [] | ['='] => some all
  | '=' :: word => rank? (String.ofList word)
  | _ => none

/-- The directive that a text is; one bound to a span lets no line through. Blanks belong to the
target or the level. -/
def directive? (text : String) : Option (Option Directive) :=
  let cs := text.toList
  let target := cs.takeWhile fun c => c ≠ '=' && c ≠ '['
  if !((cs.dropWhile Text.isBlank).head?.any canStart) then none
  else
    match cs.drop target.length with
    | [] => some (some (((rank? text).map (⟨"", ·⟩)).getD ⟨text, all⟩))
    | '[' :: span =>
      match span.dropWhile (· ≠ ']') with
      | ']' :: rest => (rankAfter? rest).map fun _ => none
      | _ => none
    | rest =>
      if target.head?.any Text.isBlank then none
      else (rankAfter? rest).map fun rank => some ⟨String.ofList target, rank⟩

/-- The directives of a text, none of which may be malformed; without any, errors are written. -/
def parse? (text : String) : Option (List Directive) :=
  match (text.splitOn ",").filter (· ≠ "") with
  | [] => some [⟨"", Level.error.rank⟩]
  | parts => (parts.mapM directive?).map fun ds => ds.filterMap id

def default : List Directive := [⟨"", Level.info.rank⟩]

def covers (d : Directive) (target : String) : Bool :=
  d.target.toList.isPrefixOf target.toList

def admits (directives : List Directive) (target : String) (level : Level) : Bool :=
  -- Of directives that are equally long the last one stays.
  let longest : Option Directive := directives.foldl (fun best d =>
    if covers d target then
      match best with
      | some b => if b.target.length ≤ d.target.length then some d else best
      | none => some d
    else best) none
  longest.any fun d => level.rank ≤ d.rank

end LogFilter

end IdentityGroups.Config
