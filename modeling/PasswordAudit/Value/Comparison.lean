import PasswordAudit.Value.Basic

/-! Comparing whole numbers with values. A flag counts as zero or one. Of the numbers that are not
finite, an infinite one is beyond all whole numbers, and what is not a number is neither above nor
below any. A value of another kind cannot be compared with. -/
namespace PasswordAudit

inductive Relation
  | atLeast
  | atMost
  deriving DecidableEq

structure Incomparable where
  relation : Relation
  kind : Text
  deriving DecidableEq

namespace Relation

def sign : Relation → Text
  | atLeast => ">="
  | atMost => "<="

def decides (relation : Relation) (n m : Int) : Bool :=
  match relation with
  | atLeast => m ≤ n
  | atMost => n ≤ m

def decidesReal (relation : Relation) (n : Int) (x : Decimal.Binary64) : Bool :=
  if x.isFinite then
    let (numerator, denominator) := x.magnitude
    let signed : Int := if x.isNegative then -(numerator : Int) else numerator
    relation.decides (n * denominator) signed
  else
    x.isInfinite && match relation with
      | atLeast => x.isNegative
      | atMost => !x.isNegative

def compare (relation : Relation) (n : Int) : Value → Except Incomparable Bool
  | .int m => .ok (relation.decides n m)
  | .flag b => .ok (relation.decides n b.toNat)
  | .real x => .ok (relation.decidesReal n x)
  | other => .error ⟨relation, other.kindName⟩

end Relation

def Incomparable.message (fault : Incomparable) : Text :=
  "'" ++ fault.relation.sign ++ "' not supported between instances of 'int' and '" ++ fault.kind
    ++ "'"

end PasswordAudit
