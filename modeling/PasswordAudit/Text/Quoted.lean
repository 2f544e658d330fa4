import PasswordAudit.Text.Printable

/-! Texts in quotes, for messages. The single quote is used unless only a double quote keeps the
text free of escaped quotes. -/
namespace PasswordAudit.Text

/-- An escape shows a code point in hexadecimal, by the shortest of three widths that holds it. -/
def escapedPoint (n : Nat) : Text :=
  if n ≤ 0xFF then "\\x" ++ padded 16 2 n
  else if n ≤ 0xFFFF then "\\u" ++ padded 16 4 n
  else "\\U" ++ padded 16 8 n

def quotedPoint (quote c : Char) : Text :=
  if c = quote ∨ c = '\\' then ['\\', c]
  else if c = '\n' then "\\n"
  else if c = '\r' then "\\r"
  else if c = '\t' then "\\t"
  else if isPrintable c then [c]
  else escapedPoint c.toNat

def quoteFor (text : Text) : Char :=
  if text.contains '\'' && !text.contains '"' then '"' else '\''

def quoted (text : Text) : Text :=
  let quote := quoteFor text
  quote :: text.flatMap (quotedPoint quote) ++ [quote]

end PasswordAudit.Text
