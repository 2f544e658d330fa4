import PasswordAudit.Pattern.Directives
import PasswordAudit.Pattern.Fault
import PasswordAudit.Pattern.Letters

/-! Times written by a style: by directives if it has a percent sign, else by letters. -/
namespace PasswordAudit.Pattern.Stamp

def inner : Text := "%Y-%m-%dT%H:%M:%S.%f%z"

/-- The style of a time in the name of a file. -/
def standard : Text := "%Y-%m-%d_%H-%M-%S_%f"

/-- A mark at the end asks for universal time, which such moments show anyway. -/
def write (style : Text) (moment : Moment) : Except Fault Text :=
  let isMarked := Letters.universalMark.isSuffixOf style
  let bare := if isMarked then style.take (style.length - Letters.universalMark.length) else style
  let style := if bare.isEmpty then inner else bare
  if style.contains '%' then .ok (Directives.write style moment)
  else if Letters.isTooFine style then .error .tooFine
  else .ok (Letters.write style moment)

end PasswordAudit.Pattern.Stamp
