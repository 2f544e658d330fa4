import PasswordAudit.Decimal.Fixed

/-! Whole numbers to a count of significant digits. -/
namespace PasswordAudit.Decimal

structure Significant where
  digits : Text
  exponent : Nat
  deriving DecidableEq

namespace Significant

/-- A number to `count` digits, of which there is one at least. A carry into a new place leaves a
zero too many at the end. -/
def ofNat (count n : Nat) : Significant :=
  let digits := natural n
  if digits.length ≤ count then
    ⟨digits ++ List.replicate (count - digits.length) '0', digits.length - 1⟩
  else
    let dropped := digits.length - count
    let kept := natural (roundDiv n (Nat.pow 10 dropped))
    ⟨kept.take count, kept.length + dropped - 1⟩

def exponentText (mark : Char) (number : Significant) : Text :=
  mark :: '+' :: Text.padded 10 2 number.exponent

def withoutZeros (number : Significant) : Significant :=
  { number with digits :=
      number.digits.take 1 ++ ((number.digits.drop 1).reverse.dropWhile (· == '0')).reverse }

end Significant
end PasswordAudit.Decimal
