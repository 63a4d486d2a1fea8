import IdentityGroups.Json.Printer

/-! # Values as YAML

Members and items stand on lines of their own, members two spaces deeper than what holds them and
items level with it. Texts are written plain, so they must hold nothing that YAML reads otherwise.
-/

namespace IdentityGroups.Json

/-- The lines of a block, and whether it must start on a line of its own. -/
inductive Block where
  | inline (text : String)
  | lines (indented : Bool) (lines : List String)

def indent (line : String) : String := "  " ++ line

def dashed : List String → List String
  | [] => []
  | l :: ls => ("- " ++ l) :: ls.map indent

def Block.asItem : Block → List String
  | .inline text => ["- " ++ text]
  | .lines _ ls => dashed ls

def Block.asMember (name : String) : Block → List String
  | .inline text => [name ++ ": " ++ text]
  | .lines indented ls => (name ++ ":") :: if indented then ls.map indent else ls

mutual

def block : Json → Block
  | .null => .inline "null"
  | .bool b => .inline (if b then "true" else "false")
  | .num n => .inline (String.ofList (printNumber n))
  | .str s => .inline s
  | .arr [] => .inline "[]"
  | .arr (j :: items) => .lines false (itemLines (j :: items))
  | .obj [] => .inline "\x7b\x7d"
  | .obj (m :: members) => .lines true (memberLines (m :: members))

def itemLines : List Json → List String
  | [] => []
  | j :: items => j.block.asItem ++ itemLines items

def memberLines : List (String × Json) → List String
  | [] => []
  | (name, j) :: members => j.block.asMember name ++ memberLines members

end

def yaml (j : Json) : String :=
  String.join ((match j.block with
    | .inline text => [text]
    | .lines _ ls => ls).map (· ++ "\n"))

end IdentityGroups.Json
