import IdentityGroups.Dict
import IdentityGroups.Decimal.Binary64

/-! # JSON values

An integer that 64 bits hold, signed or unsigned, stays an integer; every other number is a finite
double. Members of an object are listed in ascending order of their names (`Json.Canonical`), which
every reader and constructor of this library observes.
-/

namespace IdentityGroups

inductive Json.Number where
  | int (n : Int) (fits : -0x8000000000000000 ≤ n ∧ n < 0x10000000000000000)
  | float (x : Decimal.Binary64)
  deriving DecidableEq

inductive Json where
  | null
  | bool (b : Bool)
  | num (n : Json.Number)
  | str (s : String)
  | arr (items : List Json)
  | obj (members : List (String × Json))

namespace Json

instance : Inhabited Json := ⟨.null⟩

mutual

def decEq : (a b : Json) → Decidable (a = b)
  | .null, .null => isTrue rfl
  | .bool a, .bool b => decidable_of_iff (a = b) (by simp)
  | .num a, .num b => decidable_of_iff (a = b) (by simp)
  | .str a, .str b => decidable_of_iff (a = b) (by simp)
  | .arr a, .arr b => @decidable_of_iff _ (a = b) (by simp) (decEqItems a b)
  | .obj a, .obj b => @decidable_of_iff _ (a = b) (by simp) (decEqMembers a b)
  | .null, .bool _ | .null, .num _ | .null, .str _ | .null, .arr _ | .null, .obj _
  | .bool _, .null | .bool _, .num _ | .bool _, .str _ | .bool _, .arr _ | .bool _, .obj _
  | .num _, .null | .num _, .bool _ | .num _, .str _ | .num _, .arr _ | .num _, .obj _
  | .str _, .null | .str _, .bool _ | .str _, .num _ | .str _, .arr _ | .str _, .obj _
  | .arr _, .null | .arr _, .bool _ | .arr _, .num _ | .arr _, .str _ | .arr _, .obj _
  | .obj _, .null | .obj _, .bool _ | .obj _, .num _ | .obj _, .str _ | .obj _, .arr _ =>
    isFalse (by simp)

def decEqItems : (a b : List Json) → Decidable (a = b)
  | [], [] => isTrue rfl
  | [], _ :: _ | _ :: _, [] => isFalse (by simp)
  | x :: a, y :: b =>
    match decEq x y, decEqItems a b with
    | isTrue h, isTrue h' => isTrue (by rw [h, h'])
    | isFalse h, _ | _, isFalse h => isFalse (by simp [h])

def decEqMembers : (a b : List (String × Json)) → Decidable (a = b)
  | [], [] => isTrue rfl
  | [], _ :: _ | _ :: _, [] => isFalse (by simp)
  | (k, x) :: a, (k', y) :: b =>
    if hk : k = k' then
      match decEq x y, decEqMembers a b with
      | isTrue h, isTrue h' => isTrue (by rw [hk, h, h'])
      | isFalse h, _ | _, isFalse h => isFalse (by simp [h])
    else isFalse (by simp [hk])

end

instance : DecidableEq Json := decEq

mutual

/-- Every object lists its members in ascending order of their names. -/
def Canonical : Json → Prop
  | .arr items => CanonicalItems items
  | .obj members => Entries.Ascending members ∧ CanonicalMembers members
  | _ => True

def CanonicalItems : List Json → Prop
  | [] => True
  | j :: items => j.Canonical ∧ CanonicalItems items

def CanonicalMembers : List (String × Json) → Prop
  | [] => True
  | (_, j) :: members => j.Canonical ∧ CanonicalMembers members

end

mutual

def depth : Json → Nat
  | .arr items => depthItems items + 1
  | .obj members => depthMembers members + 1
  | _ => 0

def depthItems : List Json → Nat
  | [] => 0
  | j :: items => max j.depth (depthItems items)

def depthMembers : List (String × Json) → Nat
  | [] => 0
  | (_, j) :: members => max j.depth (depthMembers members)

end

def object (members : List (String × Json)) : Json := .obj (Entries.ofList members)

def ofDict (d : Dict Json) : Json := .obj d.entries

def ofInt64 (n : Int64) : Json :=
  .num (.int n.toInt ⟨Int64.le_toInt n, Int.lt_trans (Int64.toInt_lt n) (by decide)⟩)

def ofUInt64 (n : UInt64) : Json :=
  .num (.int n.toNat ⟨by have := n.toNat_lt; omega, by have := n.toNat_lt; omega⟩)

def text? : Json → Option String
  | .str s => some s
  | _ => none

def member? (k : String) : Json → Option Json
  | .obj members => Entries.find? k members
  | _ => none

def ofOption {α : Type} (f : α → Json) : Option α → Json
  | none => .null
  | some a => f a

def memberIfSome {α : Type} (k : String) (f : α → Json) (o : Option α) : List (String × Json) :=
  (o.map fun a => (k, f a)).toList

def ofTexts (items : List String) : Json := .arr (items.map .str)

def ofTextDict (d : Dict String) : Json := .ofDict (d.map .str)

end Json

end IdentityGroups
