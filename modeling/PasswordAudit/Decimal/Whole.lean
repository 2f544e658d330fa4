import PasswordAudit.Text.Basic

/-! Whole numbers in base ten. -/
namespace PasswordAudit.Decimal

def natural (n : Nat) : Text := Nat.toDigits 10 n

def integer : Int → Text
  | .ofNat n => natural n
  | .negSucc n => '-' :: natural (n + 1)

def digitLimit : Nat := 4300

def isWritable (n : Nat) : Bool := (natural n).length ≤ digitLimit

def unwritableMessage : Text :=
  "Exceeds the limit (" ++ natural digitLimit
    ++ " digits) for integer string conversion; "
    ++ "use sys.set_int_max_str_digits() to increase the limit"

end PasswordAudit.Decimal
