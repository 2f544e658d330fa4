import PasswordAudit.Decimal.Shortest
import PasswordAudit.Text.Quoted

/-! Values of any kind, as they arrive for the parameters of a policy or for the settings before
these are checked. A value has a literal form, which quotes texts, and a plain form, which does
not. -/
namespace PasswordAudit

inductive Value
  | null
  | flag (b : Bool)
  | int (n : Int)
  | real (x : Decimal.Binary64)
  | text (t : Text)
  | list (items : List Value)
  | object (fields : List (Text × Value))

namespace Value

instance : Inhabited Value := ⟨.null⟩

def flagText (b : Bool) : Text := if b then "True" else "False"

mutual

def literal : Value → Text
  | .null => "None"
  | .flag b => flagText b
  | .int n => Decimal.integer n
  | .real x => x.text
  | .text t => Text.quoted t
  | .list items => "[" ++ List.intercalate ", " (literals items) ++ "]"
  | .object fields => "\x7b" ++ List.intercalate ", " (literalFields fields) ++ "\x7d"

def literals : List Value → List Text
  | [] => []
  | item :: rest => literal item :: literals rest

def literalFields : List (Text × Value) → List Text
  | [] => []
  | (name, value) :: rest => (Text.quoted name ++ ": " ++ literal value) :: literalFields rest

end

mutual

def isWritable : Value → Bool
  | .int n => Decimal.isWritable n.natAbs
  | .list items => areWritable items
  | .object fields => fieldsAreWritable fields
  | _ => true

def areWritable : List Value → Bool
  | [] => true
  | item :: rest => isWritable item && areWritable rest

def fieldsAreWritable : List (Text × Value) → Bool
  | [] => true
  | (_, value) :: rest => isWritable value && fieldsAreWritable rest

end

def plain : Value → Text
  | .text t => t
  | value => value.literal

def kindName : Value → Text
  | .null => "NoneType"
  | .flag _ => "bool"
  | .int _ => "int"
  | .real _ => "float"
  | .text _ => "str"
  | .list _ => "list"
  | .object _ => "dict"

def isZero : Value → Bool
  | .flag b => !b
  | .int n => n == 0
  | .real x => x.isZero
  | _ => false

/-- Nothing, zero and whatever is empty do not hold. -/
def holds : Value → Bool
  | .null => false
  | .flag b => b
  | .int n => n != 0
  | .real x => !x.isZero
  | .text t => !t.isEmpty
  | .list items => !items.isEmpty
  | .object fields => !fields.isEmpty

end Value
end PasswordAudit
