import PasswordAudit.Files.Basic
import PasswordAudit.Lexicon.Basic
import PasswordAudit.Log
import PasswordAudit.Text.Lines

/-! Loading a lexicon from files, one entry a line. The files are read in order, and the first that
cannot be read ends the loading; what was told of the files before it stands. -/
namespace PasswordAudit.Lexicon

/-- What can be read once some events have been told. A file that they are added to grows. -/
abbrev GrowingReader := List Log.Event → FileReader

inductive ReadFault
  | file (fault : FileFault)
  | octets (fault : Text.Utf8.Fault)
  deriving DecidableEq

inductive LoadFault
  | unreadable (source : Text) (cause : ReadFault)
  | nulInPath
  deriving DecidableEq

def LoadFault.message : LoadFault → Text
  | .unreadable source cause =>
    "Can not read password dictionary `" ++ source ++ "`: " ++ match cause with
      | .file fault => fault.message (Location.ofPath source).path
      | .octets fault => fault.message
  | .nulInPath => "embedded null byte"

def fileLines (octets : Text.Utf8.Octets) : Except Text.Utf8.Fault (List Text) :=
  (Text.Utf8.decode octets).map fun text => Text.lines (Text.unifyNewlines text)

def readEntries (read : FileReader) (source : Text) : Except LoadFault (List Text) :=
  if source.contains '\x00' then .error .nulInPath
  else match read source with
    | .error fault => .error (.unreadable source (.file fault))
    | .ok octets => match fileLines octets with
      | .error fault => .error (.unreadable source (.octets fault))
      | .ok lines => .ok (entries lines)

/-- The entries of all files, with the events up to the first fault; `told` are those before. -/
def gather (read : GrowingReader) (told : List Log.Event) :
    List Text → List Log.Event × Except LoadFault (List Text)
  | [] => ([], .ok [])
  | source :: rest =>
    match readEntries (read told) source with
    | .error fault => ([], .error fault)
    | .ok found =>
      let event := .wordsLoaded found.length source
      let (events, others) := gather read (told ++ [event]) rest
      (event :: events, others.map (found ++ ·))

def droppedEvents (found : Nat) (lexicon : Lexicon) : List Log.Event :=
  if lexicon.size < found then [.wordsDropped (found - lexicon.size)] else []

def load (read : GrowingReader) (sources : List Text) (caseSensitive : Bool) :
    List Log.Event × Except LoadFault Lexicon :=
  match gather read [] sources with
  | (events, .error fault) => (events, .error fault)
  | (events, .ok found) =>
    let lexicon := ofEntries found sources caseSensitive
    (events ++ droppedEvents found.length lexicon, .ok lexicon)

end PasswordAudit.Lexicon
