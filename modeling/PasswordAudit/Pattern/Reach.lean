import PasswordAudit.Pattern.Catalogue

/-! What values have by names and by keys. A name is looked up in the thing first and then along the
line of its kind, and a member that is taken from a thing belongs to it. -/
namespace PasswordAudit.Pattern

structure Key where
  text : Text
  index : Option Nat

namespace Key

def shown (key : Key) : Text := (key.index.map Decimal.natural).getD (Text.quoted key.text)

def value (key : Key) : Value :=
  match key.index with
  | some i => .number i
  | none => .text key.text

def among (key : Key) (entries : List (Text × Value)) : Except Fault Value :=
  match entries.lookup key.text, key.index with
  | some found, none => .ok found
  | _, _ => .error (.keyUnknown key.shown)

def place (key : Key) (title : Text) (items : List Value) : Except Fault Value :=
  match key.index with
  | none => .error (.keyNotPlace title)
  | some i => match items[i]? with
    | some item => .ok item
    | none => .error (.indexOutside title)

def letter (key : Key) (text : Text) : Except Fault Value :=
  if key.index.isNone then .error .textKey else key.place "string" (text.map fun c => .text [c])

end Key

namespace Kind

def member? (kind : Kind) (name : Text) : Option Value :=
  (kind :: kind.above.map Catalogue.kind).findSome? (·.members.lookup name)

def common? (kind : Kind) (name : Text) : Option Value :=
  match String.ofList name with
  | "__class__" => some (.kind "type")
  | "__name__" => some (.text (lastName kind.label))
  | "__qualname__" => some (.text (if kind.home = "builtins" then kind.label
    else kind.label.drop (kind.home.length + 1)))
  | "__module__" => some (.text kind.home)
  | "__doc__" => some kind.description
  | "__mro__" => some (.row "tuple" ((kind.label :: kind.above).map .kind))
  | "__base__" => some ((kind.above.head?.map Value.kind).getD .nothing)
  | "__dict__" => some (.table "mappingproxy" kind.members)
  | _ => none

end Kind

namespace Value

/-- A member as a thing has it. -/
def boundTo (self : Value) : Value → Value
  | function source => method source self
  | member provided => match provided.form with
    | .operator | .routine => call provided self
    | .kindRoutine => call provided (kind self.kindOf)
    | .static | .own => member provided
  | value => value

def boundToKind (label : Text) : Value → Value
  | member provided =>
    if provided.form = .kindRoutine then call provided (kind label) else member provided
  | value => value

def ofKind (kind : Kind) (name : Text) : Except Fault Value :=
  let found := ((kind.common? name).or (kind.own.lookup name)).or
    (((kind.member? name).map (boundToKind kind.label)).or
      (((Catalogue.kind "type").member? name).map (boundTo (.kind kind.label))))
  found.elim (.error (.kindAttributeUnknown (titleOf kind.label) name)) .ok

def optional (shown : Option Text) : Value := (shown.map text).getD nothing

def memberValue? (provided : Member) (name : Text) : Option Value :=
  match String.ofList name with
  | "__name__" => some (text provided.name)
  | "__doc__" => some (optional provided.description)
  | "__text_signature__" => some (optional provided.signature)
  | _ => none

def functionValue? (source : Function) (name : Text) : Option Value :=
  match String.ofList name with
  | "__name__" => some (text source.name)
  | "__qualname__" => some (text source.fullName)
  | "__module__" => some (text source.home)
  | "__doc__" => some nothing
  | "__code__" => some (code source)
  | "__globals__" => some (holdings source.home)
  | "__builtins__" => some (holdings "builtins")
  | _ => none

def codeValue? (source : Function) (name : Text) : Option Value :=
  match String.ofList name with
  | "co_name" => some (text source.name)
  | "co_qualname" => some (text source.fullName)
  | "co_argcount" => some (number source.arguments)
  | "co_flags" => some (number source.marks)
  | "co_varnames" => some (Catalogue.texts source.locals)
  | "co_names" => some (Catalogue.texts source.names)
  | "co_consts" => some (row "tuple" (source.constants.map optional))
  | _ => none

def dateValue? (moment : Moment) (name : Text) : Option Value :=
  match String.ofList name with
  | "year" => some (number moment.date.year)
  | "month" => some (number moment.date.month)
  | "day" => some (number moment.date.day)
  | _ => none

def clockValue? (moment : Moment) (name : Text) : Option Value :=
  match String.ofList name with
  | "hour" => some (number moment.hour)
  | "minute" => some (number moment.minute)
  | "second" => some (number moment.second)
  | "microsecond" => some (number moment.micro)
  | "fold" => some (number 0)
  | "tzinfo" => some ((moment.offset.map fun ahead => zone ahead true).getD nothing)
  | _ => none

def spanValue? (micros : Int) (name : Text) : Option Value :=
  let perDay : Int := Moment.microsPerDay
  let perSecond : Int := Moment.microsPerSecond
  match String.ofList name with
  | "days" => some (number (micros / perDay))
  | "seconds" => some (number (micros % perDay / perSecond))
  | "microseconds" => some (number (micros % perSecond))
  | _ => none

def own? (value : Value) (name : Text) : Option Value :=
  match value with
  | stamp now =>
    let entries := [("datetime".toList, moment momentKind now)]
    if name = "__dict__" then some (table "dict" entries) else entries.lookup name
  | moment label value =>
    (dateValue? value name).or (if label = dayKind then none else clockValue? value name)
  | span micros => spanValue? micros name
  | expression source => if name = "pattern" then some (text source) else none
  | special label argument =>
    [("__origin__".toList, kind label), ("__args__".toList, row "tuple" [argument])].lookup name
  | member provided => memberValue? provided name
  | call provided self => if name = "__self__" then some self else memberValue? provided name
  | function source => functionValue? source name
  | method source self =>
    if name = "__func__" then some (function source)
    else if name = "__self__" then some self
    else none
  | code source => codeValue? source name
  | home label =>
    if name = "__dict__" then some (holdings label) else (Catalogue.contents label).lookup name
  | _ => none

def missing (value : Value) (name : Text) : Fault :=
  match value with
  | home label => .homeAttributeUnknown label name
  | method source _ => .attributeUnknown (function source).title name
  | _ => .attributeUnknown value.title name

/-- What a value has by a name. A special kind has what its kind has, and a method what its function
has. -/
def named (value : Value) (name : Text) : Except Fault Value :=
  let provider := Catalogue.kind value.kindOf
  let asKind (label : Text) : Except Fault Value := ofKind (Catalogue.kind label) name
  match value, value.own? name with
  | _, some found => .ok found
  | kind label, none => asKind label
  | special label _, none => if name = "__class__" then .ok (kind value.kindOf) else asKind label
  | _, none =>
    if name = "__class__" then .ok (kind value.kindOf)
    else match provider.member? name, value with
      | some found, _ => .ok (boundTo value found)
      | none, method source _ => ((functionValue? source name).map .ok).getD
        (.error (value.missing name))
      | none, _ =>
        if name = "__doc__" then .ok provider.description else .error (value.missing name)

def keyed (value : Value) (key : Key) : Except Fault Value :=
  match value with
  | text value => key.letter value
  | row label items => key.place (if label = "tuple" then label else "list") items
  | table _ entries => key.among entries
  | holdings label => key.among (Catalogue.contents label)
  | kind label =>
    if (Catalogue.kind label).isGeneric then .ok (special label key.value)
    else .error (.noKindItems (titleOf label))
  | special .. => .error (.notGeneric value.literal)
  | _ => .error (.noItems value.title)

end Value
end PasswordAudit.Pattern
