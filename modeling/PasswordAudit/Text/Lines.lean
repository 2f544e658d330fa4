import PasswordAudit.Text.Basic

/-! Lines of a text. Reading a file first turns every line ending into a line feed; a text is then
cut into lines at each of the line boundaries that Unicode knows, not at the line feed alone. -/
namespace PasswordAudit.Text

/-- Writes a carriage return, with or without a line feed after it, as one line feed. -/
def unifyNewlines : Text → Text
  | [] => []
  | '\r' :: '\n' :: rest => '\n' :: unifyNewlines rest
  | c :: rest => (if c = '\r' then '\n' else c) :: unifyNewlines rest

def isLineBoundary (c : Char) : Bool :=
  let n := c.toNat
  (0x0A ≤ n && n ≤ 0x0D) || (0x1C ≤ n && n ≤ 0x1E) || n == 0x85 || n == 0x2028 || n == 0x2029

/-- The lines without their boundaries. A boundary at the end starts no further line. -/
def lines : Text → List Text
  | [] => []
  | '\r' :: '\n' :: rest => [] :: lines rest
  | c :: rest =>
    if isLineBoundary c then [] :: lines rest
    else match lines rest with
      | [] => [[c]]
      | line :: more => (c :: line) :: more

def firstLine (text : Text) : Text :=
  ((text.takeWhile (· ≠ '\n')).reverse.dropWhile (· = '\r')).reverse

end PasswordAudit.Text
