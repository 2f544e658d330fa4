import PasswordAudit.Text.Basic

/-! Words put together into lines. A line takes words as long as they fit; a word that fits on no
line is cut. -/
namespace PasswordAudit.Text

def blanks (n : Nat) : Text := List.replicate n ' '

def padRight (width : Nat) (text : Text) : Text := text ++ blanks (width - text.length)

def chunks (last : Nat) (text : Text) : List Text :=
  match text with
  | [] => []
  | c :: rest => (c :: rest.take last) :: chunks last (rest.drop last)
termination_by text.length
decreasing_by
  simp only [List.length_drop, List.length_cons]
  omega

/-- Joins words by blanks into lines of `width` characters, as many as fit. `line` is what the first
line has. -/
def fillLines (width : Nat) (line : Text) : List Text → List Text
  | [] => if line.isEmpty then [] else [line]
  | word :: rest =>
    if line.isEmpty then fillLines width word rest
    else if line.length + 1 + word.length ≤ width then
      fillLines width (line ++ ' ' :: word) rest
    else line :: fillLines width word rest

/-- Cuts words that are too long for a line. The first part of such a word fills up the line of the
word before it, of which `used` characters are taken. -/
def cutWords (width used : Nat) : List Text → List Text
  | [] => []
  | word :: rest =>
    let room := if used = 0 then width else width - (used + 1)
    if width < word.length then
      let parts := word.take room :: chunks (width - 1) (word.drop room)
      parts ++ cutWords width ((parts.getLast?.map List.length).getD 0) rest
    else
      let next := if used ≠ 0 ∧ word.length ≤ room then used + 1 + word.length else word.length
      word :: cutWords width next rest

def wrap (width : Nat) (text : Text) : List Text :=
  fillLines width [] (cutWords width 0 (List.splitOn ' ' text))

end PasswordAudit.Text
