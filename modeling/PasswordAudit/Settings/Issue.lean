import PasswordAudit.Value.Basic

/-! What can be wrong with the value given for a setting. -/
namespace PasswordAudit.Settings

inductive IssueKind
  | integerText
  | integerSize
  | integerFraction
  | integerKind
  | notFinite
  | tooSmall (least : Nat)
  | flagText
  | flagKind
  | textKind
  | notAChoice
  | listKind
  deriving DecidableEq

def IssueKind.label : IssueKind → Text
  | integerText => "int_parsing"
  | integerSize => "int_parsing_size"
  | integerFraction => "int_from_float"
  | integerKind => "int_type"
  | notFinite => "finite_number"
  | tooSmall _ => "greater_than_equal"
  | flagText => "bool_parsing"
  | flagKind => "bool_type"
  | textKind => "string_type"
  | notAChoice => "enum"
  | listKind => "list_type"

def IssueKind.message : IssueKind → Text
  | integerText => "Input should be a valid integer, unable to parse string as an integer"
  | integerSize => "Unable to parse input string as an integer, exceeded maximum size"
  | integerFraction => "Input should be a valid integer, got a number with a fractional part"
  | integerKind => "Input should be a valid integer"
  | notFinite => "Input should be a finite number"
  | tooSmall least => "Input should be greater than or equal to " ++ Decimal.natural least
  | flagText => "Input should be a valid boolean, unable to interpret input"
  | flagKind => "Input should be a valid boolean"
  | textKind => "Input should be a valid string"
  | notAChoice => "Input should be 'length' or 'entropy'"
  | listKind => "Input should be a valid list"

/-- The setting, the place in a list of values if the trouble is with one of them, and the value. -/
structure Issue where
  setting : Text
  place : Option Nat
  kind : IssueKind
  input : Value

end PasswordAudit.Settings
