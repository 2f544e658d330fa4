import PasswordAudit.Pattern.Basic
import PasswordAudit.Pattern.Reach
import PasswordAudit.Pattern.NumberStyle
import PasswordAudit.Pattern.TextStyle

/-! Filling a pattern. The only name that fields may start from is `time`; from there they may lead
on to attributes and items. What they lead to is written by its style, or as a text if it is
converted. A style may have fields of its own, but these have plain styles. -/
namespace PasswordAudit.Pattern

def timeName : Text := "time"

def startsPart (c : Char) : Bool := c == '.' || c == '['

def readIndex (key : Text) : Except Fault (Option Nat) := do
  let (index, rest) ← Style.readNumber key
  return if rest.isEmpty then index else none

def Value.follow (value : Value) (path : Text) : Except Fault Value :=
  match path with
  | [] => .ok value
  | c :: rest =>
    if c = '.' then
      let name := rest.takeWhile (!startsPart ·)
      if name.isEmpty then .error .partMissing
      else do
        let next ← value.named name
        next.follow (rest.dropWhile (!startsPart ·))
    else if c = '[' then do
      let key := rest.takeWhile (· ≠ ']')
      let index ← readIndex key
      if key.isEmpty then .error .partMissing
      else do
        let next ← value.keyed ⟨key, index⟩
        next.follow ((rest.dropWhile (· ≠ ']')).drop 1)
    else .error .partMisplaced
termination_by path.length
decreasing_by
  all_goals
    have shorter (mark : Char → Bool) : (rest.dropWhile mark).length ≤ rest.length :=
      (List.dropWhile_suffix mark).length_le
    have := shorter (!startsPart ·)
    have := shorter fun c => decide (c ≠ ']')
    simp only [List.length_drop, List.length_cons]
    omega

/-- What a field stands for. No name, or a number for one, asks for a value by its position. -/
def lookUp (clock : Moment) (name : Text) : Except Fault Value := do
  let first := name.takeWhile (!startsPart ·)
  let index ← readIndex first
  if first.isEmpty || index.isSome then .error .positional
  else if first ≠ timeName then .error (.nameUnknown first)
  else (Value.stamp clock).follow (name.dropWhile (!startsPart ·))

def convert (conversion : Char) (value : Value) : Except Fault Text :=
  match conversion with
  | 's' => .ok value.plain
  | 'r' => .ok value.literal
  | 'a' => .ok (value.literal.flatMap fun c =>
      if c.toNat < 0x80 then [c] else Text.escapedPoint c.toNat)
  | _ => .error (.conversionUnknown conversion)

def Value.write (value : Value) (style : Text) : Except Fault Text :=
  match value with
  | stamp now => Stamp.write (if style.isEmpty then Stamp.standard else style) now
  | moment label shown =>
    if label = momentKind then Stamp.write style shown
    else .ok (if style.isEmpty then value.plain else Directives.write style shown)
  | number n => NumberStyle.write value.title style n
  | text shown => TextStyle.write value.title style shown
  | flag isSet =>
    if style.isEmpty then .ok value.plain
    else NumberStyle.write value.title style (if isSet then 1 else 0)
  | _ => if style.isEmpty then .ok value.plain else .error (.styleUnsupported value.title)

/-- Fills the fields in turn. What was read before a fault is filled first. Fields go no deeper than
`depth`. -/
def fillTo (clock : Moment) : Nat → Text → Except Fault Text
  | 0, _ => .error .tooDeep
  | depth + 1, text => do
    let (parts, fault) := read text
    let filled ← parts.mapM fun
      | .char c => Except.ok [c]
      | .field field => do
        let found ← lookUp clock field.name
        let value ← match field.conversion with
          | some conversion => (convert conversion found).map Value.text
          | none => .ok found
        let style ← if field.style.contains '\x7b' then fillTo clock depth field.style
          else .ok field.style
        value.write style
    match fault with
    | some fault => .error fault
    | none => .ok filled.flatten

/-- Fills a pattern. A pattern that cannot be read as a whole is refused for that. -/
def fill (pattern : Text) (clock : Moment) : Except Fault Text :=
  match (read pattern).2 with
  | some fault => .error fault
  | none => fillTo clock 2 pattern

end PasswordAudit.Pattern
