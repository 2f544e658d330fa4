import PasswordAudit.Decimal.Whole

/-! Rounding: to whole numbers, to what a double-precision number can hold, and to decimals with a
fixed number of places. -/
namespace PasswordAudit.Decimal

/-- The nearest integer to a quotient; a half goes to the even neighbour. -/
def roundDiv (numerator denominator : Nat) : Nat :=
  let below := numerator / denominator
  let twice := 2 * (numerator % denominator)
  if twice < denominator || (twice == denominator && below % 2 == 0) then below else below + 1

def binaryDigits : Nat := 53

/-- How far apart the double-precision numbers are around a whole number, where whole numbers are
not finer. -/
def spacing (n : Nat) : Nat := Nat.pow 2 (n.log2 + 1 - binaryDigits)

/-- The double-precision number that is nearest to a whole number. -/
def nearest (n : Nat) : Nat := roundDiv n (spacing n) * spacing n

def fixed (places numerator denominator : Nat) : Text :=
  let scale := Nat.pow 10 places
  let units := roundDiv (numerator * scale) denominator
  natural (units / scale) ++ "." ++ Text.padded 10 places (units % scale)

end PasswordAudit.Decimal
