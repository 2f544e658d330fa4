import PasswordAudit.Files.Basic

/-! A tree of files and folders held in memory, with a working folder. Paths are walked step by
step, and what lies on the way has to be there. -/
namespace PasswordAudit

inductive FileNode
  | file (octets : Text.Utf8.Octets)
  | folder
  | closed (fault : FileFault)
  /-- Reads as empty and keeps nothing of what is written. -/
  | sink
  /-- What is there cannot be looked at. -/
  | barred (fault : FileFault)

/-- Nodes by the steps that lead to them from the root. The first entry counts, and the folders on
the way to an entry need none of their own. -/
structure FileTree where
  nodes : List (List Text × FileNode)
  here : List Text

namespace FileTree

def systemFolders : List Text :=
  ["/bin", "/boot", "/dev", "/dev/pts", "/dev/shm", "/etc", "/home", "/lib", "/lib64", "/media",
    "/mnt", "/opt", "/root", "/run", "/sbin", "/srv", "/tmp", "/usr", "/usr/bin", "/usr/lib",
    "/usr/local", "/usr/local/bin", "/usr/local/lib", "/usr/sbin", "/usr/share", "/var",
    "/var/cache", "/var/lib", "/var/log", "/var/tmp"]

def systemNodes : List (List Text × FileNode) :=
  let special : List (Text × FileNode) := [
    ("/dev/null", .sink), ("/dev/tty", .barred .noDevice), ("/etc/hosts", .file []),
    ("/etc/passwd", .file []), ("/proc", .closed .absent), ("/sys", .closed .readOnly)]
  let folders := systemFolders.map fun path => (path, FileNode.folder)
  (special ++ folders).map fun (path, node) => ((Location.ofPath path).steps, node)

def passed (here : List Text) (path : Text) : List (List Text) :=
  let location := Location.ofPath path
  (List.range location.steps.length).map fun n => location.reached here n

/-- A system with nodes in it, of which a later one replaces an earlier one. The folders that their
paths lead through are there as well. -/
def ofList (here : List Text) (nodes : List (Text × FileNode)) : FileTree where
  nodes := (nodes.map fun (path, node) =>
      (((Location.ofPath path).resolve here).steps, node)).reverse
    ++ (nodes.flatMap fun (path, _) => passed here path).map (fun steps => (steps, .folder))
    ++ systemNodes
  here := here

def node? (tree : FileTree) (steps : List Text) : Option FileNode :=
  match tree.nodes.find? (·.1 == steps) with
  | some (_, node) => some node
  | none =>
    let isOnTheWay := steps.isPrefixOf tree.here
      || tree.nodes.any fun entry => steps.isPrefixOf entry.1
    if isOnTheWay then some .folder else none

def nameLimit : Nat := 255

def pathLimit : Nat := 4095

def isTooLong (name : Text) : Bool := nameLimit < (Text.Utf8.encode name).length

def walk (tree : FileTree) : List Text → List Text → Except FileFault FileNode
  | [], reached => match tree.node? reached with
    | none => .error .absent
    | some (.barred fault) => .error fault
    | some node => .ok node
  | step :: rest, reached =>
    match tree.node? reached with
    | none => .error .absent
    | some (.barred fault) => .error fault
    | some (.file _) => .error .notFolder
    | some .sink => .error .notFolder
    | some _ =>
      if step != Location.up && isTooLong step then .error .nameTooLong
      else walk tree rest (Location.follow reached step)

def look (tree : FileTree) (location : Location) : Except FileFault FileNode :=
  if pathLimit < (Text.Utf8.encode location.path).length then .error .nameTooLong
  else walk tree location.steps (if location.root.isEmpty then tree.here else [])

def read (tree : FileTree) : FileReader := fun path =>
  match tree.look (Location.ofPath path) with
  | .error fault => .error fault
  | .ok .folder => .error .isFolder
  | .ok (.closed _) => .error .isFolder
  | .ok (.file octets) => .ok octets
  | .ok .sink => .ok []
  | .ok (.barred fault) => .error fault

def put (tree : FileTree) (steps : List Text) (node : FileNode) : FileTree :=
  { tree with nodes := (steps, node) :: tree.nodes }

def append (tree : FileTree) (steps : List Text) (octets : Text.Utf8.Octets) : FileTree :=
  match tree.node? steps with
  | some (.file before) => tree.put steps (.file (before ++ octets))
  | _ => tree

def isThere (tree : FileTree) (location : Location) : Bool :=
  match tree.look location with
  | .ok _ => true
  | .error _ => false

def make (tree : FileTree) (location : Location) (node : FileNode) : Except OpenFault FileTree :=
  match tree.node? location.steps.dropLast with
  | some (.closed fault) => .error (.met fault location.path)
  | _ => .ok (tree.put location.steps node)

def makeFolder (tree : FileTree) (location : Location) : Except OpenFault FileTree :=
  if location.path.contains '\x00' then .error .nulInPath
  else match tree.look location with
    | .ok .folder => .ok tree
    | .ok (.closed _) => .ok tree
    | .ok _ => .error (.met .alreadyThere location.path)
    | .error fault =>
      if fault = .absent then tree.make location .folder else .error (.met fault location.path)

/-- Makes the folders on the way that are not there, from the top; `reached` steps have been seen
to. -/
def makeFolders (tree : FileTree) (root : Text) (reached : List Text) :
    List Text → Except OpenFault FileTree
  | [] => .ok tree
  | step :: rest => do
    let reached := reached ++ [step]
    let isPassed := !rest.isEmpty && tree.isThere ⟨root, reached⟩
    let next ← if isPassed then .ok tree else tree.makeFolder ⟨root, reached⟩
    makeFolders next root reached rest

structure Opened where
  tree : FileTree
  location : Location
  isNew : Bool

/-- Opens a file, after making it and the folders that lead to it if they are not there. -/
def openToAppend (tree : FileTree) (path : Text) : Except OpenFault Opened := do
  let location := (Location.ofPath path).resolve tree.here
  let tree ← tree.makeFolders location.root [] location.steps.dropLast
  if location.path.contains '\x00' then .error .nulInPath
  else match tree.look location with
    | .ok .folder => .error (.met .isFolder location.path)
    | .ok (.closed _) => .error (.met .isFolder location.path)
    | .ok _ => .ok ⟨tree, location, false⟩
    | .error fault =>
      if fault = .absent then do
        let tree ← tree.make location (.file [])
        return ⟨tree, location, true⟩
      else .error (.met fault location.path)

def Opened.isNewHere (opened : Opened) : Bool :=
  opened.isNew && opened.tree.here.isPrefixOf opened.location.steps

end FileTree
end PasswordAudit
