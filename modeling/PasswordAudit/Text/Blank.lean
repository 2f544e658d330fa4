import PasswordAudit.Text.Basic

/-! Blank characters: the white space of Unicode together with the four information separators. -/
namespace PasswordAudit.Text

/-- White space by the Unicode property `White_Space`. -/
def isWhiteSpace (c : Char) : Bool :=
  let n := c.toNat
  (9 ≤ n && n ≤ 13) || n == 0x20 || n == 0x85 || n == 0xA0 || n == 0x1680 ||
    (0x2000 ≤ n && n ≤ 0x200A) || n == 0x2028 || n == 0x2029 || n == 0x202F || n == 0x205F ||
    n == 0x3000

/-- White space or an information separator, U+001C to U+001F. -/
def isBlank (c : Char) : Bool :=
  isWhiteSpace c || (0x1C ≤ c.toNat && c.toNat ≤ 0x1F)

def strip (text : Text) : Text := trim isBlank text

def isAllBlank (text : Text) : Bool := text.all isBlank

end PasswordAudit.Text
