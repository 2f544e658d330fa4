import PasswordAudit.Pattern.Style

/-! Texts in a style. Signs, alternate forms and separators belong to numbers, and are refused. -/
namespace PasswordAudit.Pattern.TextStyle

def check (title : Text) (style : Style) : Except Fault Unit :=
  if style.presentation ≠ 's' then
    .error (.presentationUnknown title style.presentation)
  else if style.sign = some ' ' then .error .blankUnfit
  else if style.sign.isSome then .error .signUnfit
  else if style.isPositiveZero then .error .positiveZeroUnfit
  else if style.isAlternate then .error .alternateUnfit
  else if style.align = '=' then .error .alignmentUnfit
  else if widthLimit < style.width then .error .tooWide
  else .ok ()

/-- Cuts a text to the precision, and fills it up to the width. -/
def apply (style : Style) (text : Text) : Text :=
  let cut := match style.precision with
    | some most => text.take most
    | none => text
  let missing := style.width - cut.length
  let before :=
    if style.align = '>' then missing else if style.align = '^' then missing / 2 else 0
  Style.filling style.fill before ++ cut ++ Style.filling style.fill (missing - before)

def write (title style text : Text) : Except Fault Text := do
  let read ← Style.read (.text title) style
  check title read
  return apply read text

end PasswordAudit.Pattern.TextStyle
