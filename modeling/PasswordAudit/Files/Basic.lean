import PasswordAudit.Decimal.Whole
import PasswordAudit.Text.Quoted
import PasswordAudit.Text.Utf8

/-! Paths, and what can be wrong with them. A path is shown in a tidy form without empty steps and
steps that stay in place; resolved from a working folder it leads down from the root only. -/
namespace PasswordAudit

structure FileFault where
  code : Nat
  reason : Text
  deriving DecidableEq

namespace FileFault

def absent : FileFault := ⟨2, "No such file or directory"⟩

def alreadyThere : FileFault := ⟨17, "File exists"⟩

def notFolder : FileFault := ⟨20, "Not a directory"⟩

def isFolder : FileFault := ⟨21, "Is a directory"⟩

def noDevice : FileFault := ⟨6, "No such device or address"⟩

def readOnly : FileFault := ⟨30, "Read-only file system"⟩

def nameTooLong : FileFault := ⟨36, "File name too long"⟩

def message (fault : FileFault) (path : Text) : Text :=
  "[Errno " ++ Decimal.natural fault.code ++ "] " ++ fault.reason ++ ": " ++ Text.quoted path

end FileFault

/-- Why a file cannot be opened: the fault and the path it was met at, or a NUL in a path, which
cannot even be asked for. -/
inductive OpenFault
  | met (fault : FileFault) (path : Text)
  | nulInPath
  deriving DecidableEq

def OpenFault.message : OpenFault → Text
  | .met fault path => fault.message path
  | .nulInPath => "embedded null byte"

abbrev FileReader := Text → Except FileFault Text.Utf8.Octets

structure Location where
  root : Text
  steps : List Text
  deriving DecidableEq

namespace Location

/-- A path that starts with exactly two slashes has a root of its own. -/
def rootOf (path : Text) : Text :=
  match (path.takeWhile (· == '/')).length with
  | 0 => []
  | 2 => "//"
  | _ => "/"

def ofPath (path : Text) : Location where
  root := rootOf path
  steps := (List.splitOn '/' path).filter fun step => !step.isEmpty && step != ['.']

def path (location : Location) : Text :=
  if location.root.isEmpty && location.steps.isEmpty then "."
  else location.root ++ List.intercalate "/" location.steps

def up : Text := ['.', '.']

/-- A step on the way down from the root. There is nothing above the root. -/
def follow (reached : List Text) (step : Text) : List Text :=
  if step = up then reached.dropLast else reached ++ [step]

/-- The way down from the root to where the first steps lead, whatever is there. -/
def reached (here : List Text) (location : Location) (count : Nat) : List Text :=
  (location.steps.take count).foldl follow (if location.root.isEmpty then here else [])

def resolve (here : List Text) (location : Location) : Location where
  root := if location.root.isEmpty then ['/'] else location.root
  steps := location.reached here location.steps.length

end Location
end PasswordAudit
