import PasswordAudit.Text.Quoted

/-! Why a pattern cannot be read or filled: its braces do not match, a style does not fit what it is
for, or a field asks for what there is not. -/
namespace PasswordAudit.Pattern

inductive Fault
  -- The braces of a pattern.
  | loneOpening
  | loneClosing
  | openingInName
  | fieldUnclosed
  | conversionMissing
  | conversionNotEnded
  | styleUnclosed
  | tooDeep
  -- The form of a style.
  | tooManyDigits
  | precisionMissing
  | styleMalformed (title style : Text)
  | bothSeparators
  | separatorUnfit (separator presentation : Char)
  | presentationUnknown (title : Text) (presentation : Char)
  -- A style that does not fit.
  | signUnfit
  | blankUnfit
  | positiveZeroUnfit
  | alternateUnfit
  | alignmentUnfit
  | precisionUnfit
  | wholeZeroUnfit
  | characterSigned
  | characterAlternate
  | noCharacter
  | precisionTooBig
  | tooWide
  | styleUnsupported (title : Text)
  | tooFine
  -- What a field asks for.
  | conversionUnknown (conversion : Char)
  | positional
  | nameUnknown (name : Text)
  | partMissing
  | partMisplaced
  | attributeUnknown (title name : Text)
  | kindAttributeUnknown (title name : Text)
  | homeAttributeUnknown (home name : Text)
  | noItems (title : Text)
  | noKindItems (title : Text)
  /-- Shown as it was asked for. -/
  | keyUnknown (shown : Text)
  | indexOutside (title : Text)
  | keyNotPlace (title : Text)
  | textKey
  | notGeneric (shown : Text)
  deriving DecidableEq

namespace Fault

/-- A character up to a code point, or the code point itself if it is not visible in ASCII. -/
def shown (last : Nat) (c : Char) : Text :=
  if 0x20 < c.toNat ∧ c.toNat ≤ last then [c] else "\\x" ++ Nat.toDigits 16 c.toNat

def message : Fault → Text
  | loneOpening => "Single '\x7b' encountered in format string"
  | loneClosing => "Single '\x7d' encountered in format string"
  | openingInName => "unexpected '\x7b' in field name"
  | fieldUnclosed => "expected '\x7d' before end of string"
  | conversionMissing => "end of string while looking for conversion specifier"
  | conversionNotEnded => "expected ':' after conversion specifier"
  | styleUnclosed => "unmatched '\x7b' in format spec"
  | tooDeep => "Max string recursion exceeded"
  | tooManyDigits => "Too many decimal digits in format string"
  | precisionMissing => "Format specifier missing precision"
  | styleMalformed title style =>
    "Invalid format specifier '" ++ style ++ "' for object of type '" ++ title ++ "'"
  | bothSeparators => "Cannot specify both ',' and '_'."
  | separatorUnfit separator presentation =>
    "Cannot specify '" ++ [separator] ++ "' with '" ++ shown 0x7f presentation ++ "'."
  | presentationUnknown title presentation =>
    "Unknown format code '" ++ shown 0x7f presentation ++ "' for object of type '" ++ title ++ "'"
  | signUnfit => "Sign not allowed in string format specifier"
  | blankUnfit => "Space not allowed in string format specifier"
  | positiveZeroUnfit => "Negative zero coercion (z) not allowed in string format specifier"
  | alternateUnfit => "Alternate form (#) not allowed in string format specifier"
  | alignmentUnfit => "'=' alignment not allowed in string format specifier"
  | precisionUnfit => "Precision not allowed in integer format specifier"
  | wholeZeroUnfit => "Negative zero coercion (z) not allowed in integer format specifier"
  | characterSigned => "Sign not allowed with integer format specifier 'c'"
  | characterAlternate => "Alternate form (#) not allowed with integer format specifier 'c'"
  | noCharacter => "%c arg not in range(0x110000)"
  | precisionTooBig => "precision too big"
  | tooWide => []
  | styleUnsupported title => "unsupported format string passed to " ++ title ++ ".__format__"
  | tooFine =>
    "Invalid time format: the provided format string contains more than six successive "
      ++ "'S' characters. This may be due to an attempt to use nanosecond precision, which "
      ++ "is not supported."
  | conversionUnknown conversion => "Unknown conversion specifier " ++ shown 0x7e conversion
  | positional => "Format string contains positional fields"
  | nameUnknown name => Text.quoted name
  | partMissing => "Empty attribute in format string"
  | partMisplaced => "Only '.' or '[' may follow ']' in format field specifier"
  | attributeUnknown title name => "'" ++ title ++ "' object has no attribute '" ++ name ++ "'"
  | kindAttributeUnknown title name =>
    "type object '" ++ title ++ "' has no attribute '" ++ name ++ "'"
  | homeAttributeUnknown home name =>
    "module '" ++ home ++ "' has no attribute '" ++ name ++ "'"
  | noItems title => "'" ++ title ++ "' object is not subscriptable"
  | noKindItems title => "type '" ++ title ++ "' is not subscriptable"
  | keyUnknown shown => shown
  | indexOutside title => title ++ " index out of range"
  | keyNotPlace title => title ++ " indices must be integers or slices, not str"
  | textKey => "string indices must be integers, not 'str'"
  | notGeneric shown => shown ++ " is not a generic class"

end Fault
end PasswordAudit.Pattern
