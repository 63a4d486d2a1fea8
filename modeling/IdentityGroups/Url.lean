import IdentityGroups.Text.Blank
import IdentityGroups.Url.Host
import IdentityGroups.Url.Path

/-! # Addresses of HTTP requests

An `http` or `https` address is taken apart as browsers do (the WHATWG URL standard): backslashes
count as slashes, tabs and line breaks are dropped, and what stands before an `@` or after a `#` is
not asked for.
-/

namespace IdentityGroups

structure Url where
  scheme : String
  host : Url.Host
  port : Option Nat
  /-- At least one segment; the last is empty when the path ends in a slash. -/
  segments : List String
  query : Option String
  deriving DecidableEq, Repr

namespace Url

def isSchemeChar (c : Char) : Bool := c.isAlphanum || c = '+' || c = '-' || c = '.'

/-- The part after the last `@`, before which stand credentials. -/
def afterUser (cs : List Char) : List Char :=
  if '@' ∈ cs then (cs.reverse.takeWhile (· ≠ '@')).reverse else cs

def beforeFragment (cs : List Char) : List Char := cs.takeWhile (· ≠ '#')

def parse? (s : String) : Option Url := do
  let cs := (Text.trimBy (· ≤ ' ') s).toList.filter fun c => c ≠ '\t' ∧ c ≠ '\n' ∧ c ≠ '\r'
  let scheme := (cs.takeWhile isSchemeChar).map Char.toLower
  let rest ← match cs.dropWhile isSchemeChar with
    | ':' :: rest => some rest
    | _ => none
  if scheme ≠ "http".toList ∧ scheme ≠ "https".toList then none
  else
    let rest := beforeFragment (rest.dropWhile isSlash)
    let authority := rest.takeWhile fun c => !isSlash c && c ≠ '?'
    let rest := rest.dropWhile fun c => !isSlash c && c ≠ '?'
    let (host, port) ← hostPort? (afterUser authority)
    let path := rest.takeWhile (· ≠ '?')
    let query := match rest.dropWhile (· ≠ '?') with
      | '?' :: query => some (String.ofList (query.flatMap (encodeUnless keptInQuery)))
      | _ => none
    let segments := resolve [] ((path.drop 1).splitOnP isSlash)
    return {
      scheme := String.ofList scheme
      host, port, query
      segments := segments.map fun s => String.ofList (s.flatMap (encodeUnless keptInPath)) }

def path (u : Url) : String := "/" ++ "/".intercalate u.segments

def target (u : Url) : String :=
  match u.query with
  | none => u.path
  | some q => u.path ++ "?" ++ q

end Url

end IdentityGroups
