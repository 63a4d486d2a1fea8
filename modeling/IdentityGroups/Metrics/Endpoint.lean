import IdentityGroups.Metrics.Exposition

/-! # The endpoint that monitoring asks

A request names what it asks for by a path, perhaps with a query or a fragment, which do not count,
or by a whole address, or by a host alone, which has no path.
-/

namespace IdentityGroups.Metrics

structure Response where
  status : Nat := 200
  contentType : Option String := none
  body : String
  deriving DecidableEq, Repr

namespace Registry

def readiness (r : Registry) : Response :=
  if r.health >= 1.0 then { body := "ok" } else { status := 503, body := "not ready" }

def route (r : Registry) (path : String) : Response :=
  if path = "/metrics" then
    { contentType := some "text/plain; version=0.0.4", body := r.expose }
  else if path = "/healthz" ∨ path = "/health" then { body := "ok" }
  else if path = "/readyz" ∨ path = "/ready" then r.readiness
  else { status := 404, body := "Not Found" }

end Registry

namespace Target

def isPathChar (c : Char) : Bool := '!' ≤ c && c ∉ ['<', '>', '`', '\x7f']

def isQueryChar (c : Char) : Bool := '!' ≤ c && c ∉ ['"', '<', '>', '\x7f']

def isHostChar (c : Char) : Bool := c.isAlphanum || c ∈ "-._~!$&'()*+,;=:@[]".toList

def pathAtStart? (cs : List Char) : Option String :=
  let path := cs.takeWhile fun c => c ≠ '?' && c ≠ '#'
  let query := (cs.drop path.length).takeWhile (· ≠ '#')
  if path.all isPathChar && query.all isQueryChar then some (String.ofList path) else none

def afterScheme? (cs : List Char) : Option (List Char) :=
  match cs.dropWhile fun c => c.isAlphanum || c = '+' || c = '-' || c = '.' with
  | ':' :: '/' :: '/' :: rest => some rest
  | _ => none

def path? (target : String) : Option String :=
  let cs := target.toList
  if cs.head? = some '/' then pathAtStart? cs
  else
    let rest := (afterScheme? cs).getD cs
    let host := rest.takeWhile fun c => c ∉ ['/', '?', '#']
    if host = [] || !host.all isHostChar then none
    else if (afterScheme? cs).isSome then
      (pathAtStart? (rest.drop host.length)).map fun path => if path = "" then "/" else path
    else if host = rest then some "" else none

end Target

def malformed : Response := { status := 400, body := "" }

def Registry.answer (r : Registry) (target : String) : Response :=
  ((Target.path? target).map r.route).getD malformed

end IdentityGroups.Metrics
