import PasswordAudit.Decimal.Binary64
import PasswordAudit.Decimal.Whole

/-! The shortest decimal of a double-precision number: the fewest digits that read back as the same
number, and of those the nearest. All arithmetic is exact. -/
namespace PasswordAudit.Decimal

/-- Stands for `digits` times ten to the `scale`. -/
structure Scaled where
  digits : Nat
  scale : Int

/-- Whether ten to the `scale` times `digits` reads back as `x`. The real numbers that do lie
between the midpoints to the two neighbours of `x`, and the midpoints belong to an even
significand. -/
def readsBack (x : Binary64) (d : Scaled) : Bool :=
  let m := x.significand
  let low := if x.fraction = 0 && 1 < x.exponentField then 4 * m - 1 else 4 * m - 2
  let high := 4 * m + 2
  let value := d.digits * Nat.pow 10 d.scale.toNat * Nat.pow 2 (2 - x.exponent).toNat
  let unit := Nat.pow 10 (-d.scale).toNat * Nat.pow 2 (x.exponent - 2).toNat
  if m % 2 = 0 then low * unit ≤ value && value ≤ high * unit
  else low * unit < value && value < high * unit

/-- The number of digits before the point; zero or less counts the zeros after it. -/
def leadingPlace (numerator denominator : Nat) : Int :=
  if denominator ≤ numerator then ((natural (numerator / denominator)).length : Int)
  else 1 - ((natural ((denominator - 1) / numerator)).length : Int)

def neighbours (x : Binary64) (count : Nat) : List Scaled :=
  let (numerator, denominator) := x.magnitude
  let scale := leadingPlace numerator denominator - count
  let scaled := numerator * Nat.pow 10 (-scale).toNat
  let unit := denominator * Nat.pow 10 scale.toNat
  let below := scaled / unit
  let twice := 2 * (scaled % unit)
  if twice < unit || (twice == unit && below % 2 == 0) then [⟨below, scale⟩, ⟨below + 1, scale⟩]
  else [⟨below + 1, scale⟩, ⟨below, scale⟩]

/-- Seventeen digits always suffice. -/
def shortest (x : Binary64) : Scaled :=
  ((List.range' 1 17).flatMap (neighbours x)).find? (readsBack x) |>.getD ⟨0, 0⟩

/-- The digits without zeros at their end, and the place of the point counted from their start. -/
def Scaled.layout (d : Scaled) : Text × Int :=
  let digits := natural d.digits
  ((digits.reverse.dropWhile (· == '0')).reverse, d.scale + digits.length)

/-- Positional from a ten-thousandth up to sixteen places before the point, with at least one digit
after it; otherwise one digit, the rest after a point, and an exponent of two digits or more. -/
def Scaled.text (d : Scaled) : Text :=
  let (digits, point) := d.layout
  if -4 < point ∧ point ≤ 16 then
    let whole := digits.take point.toNat ++ List.replicate (point.toNat - digits.length) '0'
    let part := List.replicate (-point).toNat '0' ++ digits.drop point.toNat
    (if whole.isEmpty then ['0'] else whole) ++ "." ++ (if part.isEmpty then ['0'] else part)
  else
    let power := point - 1
    digits.take 1 ++ (if digits.length ≤ 1 then [] else '.' :: digits.drop 1)
      ++ (if power < 0 then "e-" else "e+") ++ Text.padded 10 2 power.natAbs

def Binary64.text (x : Binary64) : Text :=
  if x.isNotANumber then "nan"
  else
    let magnitude : Text :=
      if x.isInfinite then "inf" else if x.isZero then "0.0" else (shortest x).text
    if x.isNegative then '-' :: magnitude else magnitude

end PasswordAudit.Decimal
