/-! # Finite binary64 numbers

A finite double-precision number, held by its bits so that two numbers are the same exactly when
their bits are: zero has two signs.
-/

namespace IdentityGroups.Decimal

structure Binary64 where
  bits : UInt64
  finite : (bits >>> 52) &&& 0x7ff ≠ 0x7ff
  deriving DecidableEq

namespace Binary64

def zero : Binary64 := ⟨0, by decide⟩

instance : Inhabited Binary64 := ⟨zero⟩

def ofFloat? (x : Float) : Option Binary64 :=
  let bits := x.toBits
  if h : (bits >>> 52) &&& 0x7ff ≠ 0x7ff then some ⟨bits, h⟩ else none

def toFloat (x : Binary64) : Float := Float.ofBits x.bits

def isNegative (x : Binary64) : Bool := x.bits >>> 63 = 1

def field (x : Binary64) : Nat := ((x.bits >>> 52) &&& 0x7ff).toNat

def fraction (x : Binary64) : Nat := (x.bits &&& 0xfffffffffffff).toNat

/-- `significand x * 2 ^ (scale x - 1074)` is the absolute value of `x`. -/
def significand (x : Binary64) : Nat :=
  if x.field = 0 then x.fraction else x.fraction + 0x10000000000000

def scale (x : Binary64) : Nat := x.field - 1

end Binary64

end IdentityGroups.Decimal
