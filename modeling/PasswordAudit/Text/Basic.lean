/-! Text is a list of code points. Lone surrogates are left out: they are no characters, and no
text that is read as UTF-8 has any. This module trims a text, and lists the windows of one length
that a search slides along it. -/
namespace PasswordAudit

abbrev Text := List Char

instance : Coe String Text := ⟨String.toList⟩

namespace Text

/-- Drops the marked characters at both ends and keeps those inside. -/
def trim (mark : Char → Bool) (text : Text) : Text :=
  ((text.dropWhile mark).reverse.dropWhile mark).reverse

def windows (n : Nat) : Text → List Text
  | [] => if n = 0 then [[]] else []
  | c :: rest =>
    let window := (c :: rest).take n
    if window.length = n then window :: windows n rest else windows n rest

def padded (base width n : Nat) : Text :=
  let digits := Nat.toDigits base n
  List.replicate (width - digits.length) '0' ++ digits

end Text
end PasswordAudit
