import PasswordAudit.Pattern.Fault

/-! Patterns: text with fields in braces, as in `logs/{time:DD-MM-YYYY}.log`. A field has a name,
and may have a conversion after an exclamation mark and a style after a colon. A brace written twice
is a brace of the text. A pattern is read character by character; a fault leaves the parts read
before it. -/
namespace PasswordAudit.Pattern

structure Field where
  name : Text
  conversion : Option Char
  style : Text
  deriving DecidableEq

inductive Part
  | char (c : Char)
  | field (field : Field)
  deriving DecidableEq

/-- Where a reader stands between two characters, with what it has read of a field. -/
inductive Place
  | outside
  | afterOpening
  | afterClosing
  | inName (name : Text)
  /-- In square brackets in a name nothing but their end counts. -/
  | inBracket (name : Text)
  | atConversion (name : Text)
  | afterConversion (name : Text) (conversion : Char)
  /-- In a style `depth` more braces are open. -/
  | inStyle (name : Text) (conversion : Option Char) (style : Text) (depth : Nat)
  deriving DecidableEq

namespace Place

def stepName (name : Text) (c : Char) : Except Fault (Place × List Part) :=
  match c with
  | '\x7b' => .error .openingInName
  | '\x7d' => .ok (outside, [.field ⟨name, none, []⟩])
  | '[' => .ok (inBracket (name ++ [c]), [])
  | ':' => .ok (inStyle name none [] 0, [])
  | '!' => .ok (atConversion name, [])
  | _ => .ok (inName (name ++ [c]), [])

def stepConversion (name : Text) (conversion c : Char) : Except Fault (Place × List Part) :=
  match c with
  | '\x7d' => .ok (outside, [.field ⟨name, some conversion, []⟩])
  | ':' => .ok (inStyle name (some conversion) [] 0, [])
  | _ => .error .conversionNotEnded

def stepStyle (name : Text) (conversion : Option Char) (style : Text) (depth : Nat) (c : Char) :
    Place × List Part :=
  let longer := style ++ [c]
  match c, depth with
  | '\x7b', depth => (inStyle name conversion longer (depth + 1), [])
  | '\x7d', 0 => (outside, [.field ⟨name, conversion, style⟩])
  | '\x7d', depth + 1 => (inStyle name conversion longer depth, [])
  | _, depth => (inStyle name conversion longer depth, [])

def step (place : Place) (c : Char) : Except Fault (Place × List Part) :=
  match place with
  | outside =>
    if c = '\x7b' then .ok (afterOpening, [])
    else if c = '\x7d' then .ok (afterClosing, [])
    else .ok (outside, [.char c])
  | afterOpening => if c = '\x7b' then .ok (outside, [.char c]) else stepName [] c
  | afterClosing => if c = '\x7d' then .ok (outside, [.char c]) else .error .loneClosing
  | inName name => stepName name c
  | inBracket name =>
    .ok (if c = ']' then inName (name ++ [c]) else inBracket (name ++ [c]), [])
  | atConversion name => .ok (afterConversion name c, [])
  | afterConversion name conversion => stepConversion name conversion c
  | inStyle name conversion style depth => .ok (stepStyle name conversion style depth c)

def fault? : Place → Option Fault
  | outside => none
  | afterOpening => some .loneOpening
  | afterClosing => some .loneClosing
  | inName _ => some .fieldUnclosed
  | inBracket _ => some .fieldUnclosed
  | atConversion _ => some .conversionMissing
  | afterConversion _ _ => some .styleUnclosed
  | inStyle .. => some .styleUnclosed

end Place

/-- The parts up to the end or to the first fault. -/
def readFrom (place : Place) : Text → List Part × Option Fault
  | [] => ([], place.fault?)
  | c :: rest => match place.step c with
    | .error fault => ([], some fault)
    | .ok (next, found) =>
      let (parts, fault) := readFrom next rest
      (found ++ parts, fault)

def read (text : Text) : List Part × Option Fault := readFrom .outside text

end PasswordAudit.Pattern
