/-! Double-precision numbers, held as their 64 bits so that two of them are equal exactly when they
are the same number with the same sign. -/
namespace PasswordAudit.Decimal

structure Binary64 where
  bits : UInt64
  deriving DecidableEq

namespace Binary64

def ofFloat (x : Float) : Binary64 := ⟨x.toBits⟩

def isNegative (x : Binary64) : Bool := x.bits >>> 63 == 1

def exponentField (x : Binary64) : Nat := (x.bits >>> 52 &&& 0x7FF).toNat

def fraction (x : Binary64) : Nat := (x.bits &&& 0xFFFFFFFFFFFFF).toNat

def isFinite (x : Binary64) : Bool := x.exponentField < 2047

def isInfinite (x : Binary64) : Bool := !x.isFinite && x.fraction == 0

def isNotANumber (x : Binary64) : Bool := !x.isFinite && x.fraction != 0

/-- A finite number is, up to its sign, its significand times a power of two. -/
def significand (x : Binary64) : Nat :=
  if x.exponentField = 0 then x.fraction else x.fraction + 0x10000000000000

def exponent (x : Binary64) : Int := (max x.exponentField 1 : Nat) - 1075

def isZero (x : Binary64) : Bool := x.isFinite && x.significand == 0

def magnitude (x : Binary64) : Nat × Nat :=
  (x.significand * Nat.pow 2 x.exponent.toNat, Nat.pow 2 (-x.exponent).toNat)

def toInt? (x : Binary64) : Option Int :=
  let (numerator, denominator) := x.magnitude
  if x.isFinite && numerator % denominator == 0 then
    let n : Int := (numerator / denominator : Nat)
    some (if x.isNegative then -n else n)
  else none

end Binary64
end PasswordAudit.Decimal
