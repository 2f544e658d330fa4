import PasswordAudit.Pattern.Value

/-! The kinds that fields lead to, with their members, and what the homes of kinds and functions
hold. A name that is not listed is answered as one that is missing, and no more than the first lines
of descriptions are kept. -/
namespace PasswordAudit.Pattern

structure Kind where
  label : Text
  home : Text := "builtins"
  above : List Text := ["object"]
  description : Value := .nothing
  /-- What the kind has and its things do not. -/
  own : List (Text × Value) := []
  members : List (Text × Value) := []
  isGeneric : Bool := false

namespace Catalogue

def provided (form : Form) (owner name : Text) (description signature : Option Text := none) :
    Text × Value :=
  (name, .member ⟨form, owner, name, description, signature⟩)

def values (owner : Text) (names : List Text) : List (Text × Value) :=
  names.map (provided .own owner ·)

def ofDescribed (label : Text) : Kind where
  label
  description := (provided .own label "__doc__").2

def texts (values : List Text) : Value := .row "tuple" (values.map .text)

def languageKinds : List Kind := [
  { label := "object", above := []
    description := .text "The base class of the class hierarchy."
    members := [provided .kindRoutine "object" "__init_subclass__"
      (some "This method is called when a class is subclassed.")] },
  { label := "type", isGeneric := true
    description := .text
      "type(object) -> the object's type\ntype(name, bases, dict, **kwds) -> a new type"
    members := [provided .routine "type" "mro" (some "Return a type's method resolution order.")
      (some "($self, /)")] },
  { label := "int", description := .text "int([x]) -> integer" },
  { label := "bool", above := ["int", "object"], description := .text "bool(x) -> bool" },
  { label := "str", description := .text "str(object='') -> str"
    members := [
      provided .routine "str" "encode"
        (some "Encode the string using the codec registered for encoding.")
        (some "($self, /, encoding='utf-8', errors='strict')"),
      provided .routine "str" "split"
        (some "Return a list of the substrings in the string, using sep as the separator string.")
        (some "($self, /, sep=None, maxsplit=-1)"),
      provided .routine "str" "upper" (some "Return a copy of the string converted to uppercase.")
        (some "($self, /)"),
      provided .static "str" "maketrans"] },
  { label := "tuple", description := .text "Built-in immutable sequence.", isGeneric := true },
  { label := "dict", description := .text "dict() -> new empty dictionary", isGeneric := true
    members := [
      ("__hash__", .nothing),
      provided .kindRoutine "dict" "fromkeys"
        (some "Create a new dictionary with keys from iterable and values set to value.")
        (some "($type, iterable, value=None, /)")] },
  { label := "function", description := .text "Create a function object." },
  { label := "method", description := .text "Create a bound instance method object."
    own := [("__text_signature__", .text "(function, instance, /)")]
    members := [provided .routine "method" "__reduce__" none (some "($self, /)")] },
  { label := "code", description := .text "Create a code object.  Not for mere mortals." },
  { label := "module", description := .text "Create a module object." },
  ofDescribed "builtin_function_or_method",
  ofDescribed "method-wrapper",
  ofDescribed "wrapper_descriptor",
  ofDescribed "method_descriptor",
  ofDescribed "classmethod_descriptor",
  ofDescribed "getset_descriptor",
  { label := "types.GenericAlias", home := "types" },
  { label := "functools.partial", home := "functools", isGeneric := true },
  { label := "re.Pattern", home := "re"
    description := .text "Compiled regular expression object." }]

def bounds (first last : Value) (micros : Int) : List (Text × Value) :=
  [("min", first), ("max", last), ("resolution", .span micros)]

def spanEnd : Int := 1000000000 * (Moment.microsPerDay : Int)

def dateKinds : List Kind := [
  { label := dayKind, home := "datetime"
    description := .text "date(year, month, day) --> date object"
    members := values dayKind ["year", "month", "day"]
      ++ bounds (.moment dayKind .first) (.moment dayKind .lastMidnight) Moment.microsPerDay },
  { label := "datetime.datetime", home := "datetime", above := [dayKind, "object"]
    description := .text
      "datetime(year, month, day[, hour[, minute[, second[, microsecond[,tzinfo]]]]])"
    own := [("__basicsize__", .number 48)]
    members := values "datetime.datetime"
        ["hour", "minute", "second", "microsecond", "tzinfo", "fold"]
      ++ bounds (.moment "datetime.datetime" .first) (.moment "datetime.datetime" .last) 1
      ++ [provided .operator "datetime.datetime" "__eq__" (some "Return self==value.")
          (some "($self, value, /)"),
        provided .kindRoutine "datetime.datetime" "now"
          (some "Returns new datetime object representing current time local to tz.")
          (some "($type, /, tz=None)"),
        provided .kindRoutine "datetime.datetime" "fromtimestamp"
          (some "timestamp[, tz] -> tz's local time from POSIX timestamp."),
        provided .routine "datetime.datetime" "isoformat" (some
          "[sep] -> string in ISO 8601 format, YYYY-MM-DDT[HH[:MM[:SS[.mmm[uuu]]]]][+HH:MM].")] },
  { label := "datetime.timedelta", home := "datetime"
    description := .text "Difference between two datetime values."
    members := values "datetime.timedelta" ["days", "seconds", "microseconds"]
      ++ bounds (.span (Moment.microsPerDay - spanEnd)) (.span (spanEnd - 1)) 1 },
  { label := "datetime.timezone", home := "datetime", above := ["datetime.tzinfo", "object"]
    description := .text "Fixed offset from UTC implementation of tzinfo."
    members := [("utc", .zone 0 false)] }]

def logHome : Text := "loguru._file_sink"

def momentHome : Text := "loguru._datetime"

def logKinds : List Kind := [
  { label := stampKind, home := logHome
    own := [("__dictoffset__", .number (-48)), ("__weakrefoffset__", .number 16)]
    members := [
      ("__module__", .text logHome),
      ("__init__", .function {
        home := logHome, fullName := "FileDateFormatter.__init__"
        locals := ["self", "datetime"], names := ["aware_now", "datetime"] }),
      ("__format__", .function {
        home := logHome, fullName := "FileDateFormatter.__format__"
        locals := ["self", "spec"], names := ["datetime", "__format__"]
        constants := [none, some Stamp.standard] })] },
  { label := "loguru._file_sink.FileSink", home := logHome },
  { label := "loguru._file_sink.Retention", home := logHome },
  { label := "loguru._file_sink.Rotation", home := logHome
    members := [("__module__", .text logHome),
      ("RotationTime", .kind "loguru._file_sink.Rotation.RotationTime")] },
  { label := "loguru._file_sink.Rotation.RotationTime", home := logHome },
  { label := momentKind, home := momentHome
    above := ["datetime.datetime", dayKind, "object"]
    members := [
      ("__module__", .text momentHome),
      ("__format__", .function {
        home := momentHome, fullName := "datetime.__format__"
        locals := ["self", "fmt"], names := ["_compile_format"] })] }]

def kinds : List Kind := languageKinds ++ dateKinds ++ logKinds

def kind (label : Text) : Kind := (kinds.find? (·.label = label)).getD { label }

def ofPackage (home : Text) (used : List Text) (contents : List (Text × Value)) :
    List (Text × Value) :=
  let said : List (Text × Value) :=
    [("__name__", .text home), ("__doc__", .nothing), ("__package__", .text "loguru")]
  said ++ used.map (fun name => (name, .home name)) ++ contents

def marks : Text := "H\x7b1,2\x7d|h\x7b1,2\x7d|m\x7b1,2\x7d|s\x7b1,2\x7d|S+|YYYY|YY|M\x7b1,4\x7d|"
  ++ "D\x7b1,4\x7d|Z\x7b1,2\x7d|zz|A|X|x|E|Q|dddd|ddd|d"

def contents (home : Text) : List (Text × Value) :=
  match String.ofList home with
  | "builtins" => [("__name__", .text home), ("str", .kind "str"), ("True", .flag true)]
  | "os" => [("__name__", .text home), ("name", .text "posix"), ("curdir", .text ".")]
  | "datetime" => [("__name__", .text home), ("MAXYEAR", .number 9999)]
  | "string" => [("__name__", .text home), ("digits", .text "0123456789")]
  | "decimal" => [("__name__", .text home), ("MAX_PREC", .number 999999999999999999)]
  | "glob" => [("__name__", .text home), ("magic_check", .expression "([*?[])")]
  | "loguru._file_sink" =>
    ofPackage home ["datetime", "decimal", "glob", "numbers", "os", "string"] [
      ("partial", .kind "functools.partial"), ("ST_INO", .number 1), ("ST_DEV", .number 2),
      ("FileDateFormatter", .kind stampKind), ("FileSink", .kind "loguru._file_sink.FileSink"),
      ("Retention", .kind "loguru._file_sink.Retention"),
      ("Rotation", .kind "loguru._file_sink.Rotation")]
  | "loguru._datetime" =>
    ofPackage home ["re"] [
      ("datetime", .kind momentKind), ("datetime_", .kind "datetime.datetime"),
      ("timedelta", .kind "datetime.timedelta"), ("timezone", .kind "datetime.timezone"),
      ("day_name", .row "calendar._localized_day" (Date.weekdayNames.map .text)),
      ("month_abbr", .row "calendar._localized_month"
        (([] :: Date.monthNames.map Date.short).map .text)),
      ("tokens", .text marks)]
  | _ => [("__name__", .text home)]

end Catalogue
end PasswordAudit.Pattern
