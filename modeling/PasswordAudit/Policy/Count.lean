import PasswordAudit.Value.Basic

/-! Counts in a policy. A flag may stand for zero or one; it is kept and shown as it was given. -/
namespace PasswordAudit

inductive Count
  | number (n : Nat)
  | flag (b : Bool)
  deriving DecidableEq

namespace Count

instance : Coe Nat Count := ⟨.number⟩

def toNat : Count → Nat
  | .number n => n
  | .flag b => b.toNat

def toValue : Count → Value
  | .number n => .int n
  | .flag b => .flag b

def text (count : Count) : Text := count.toValue.plain

inductive Fault
  | unwritable
  deriving DecidableEq

def Fault.message : Fault → Text
  | .unwritable => Decimal.unwritableMessage

def isWritable (count : Count) : Bool := count.toValue.isWritable

def write (count : Count) : Except Fault Text :=
  if count.isWritable then .ok count.text else .error .unwritable

theorem no_limit_pos : ∀ limit ∈ (none : Option Count), 1 ≤ limit.toNat := by simp

def isZero (count : Count) : Bool := count.toNat == 0

end Count
end PasswordAudit
