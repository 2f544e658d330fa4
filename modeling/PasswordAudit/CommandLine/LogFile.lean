import PasswordAudit.Files.Tree
import PasswordAudit.Lexicon.Load
import PasswordAudit.Pattern.Letters

/-! The file to which events are added, a line for each. Whoever reads it finds the events that have
been told by then. -/
namespace PasswordAudit.CommandLine

structure LogFile where
  opened : FileTree.Opened
  clock : Moment

namespace LogFile

def timeStyle : Text := "YYYY-MM-DD HH:mm:ss.SSS"

def levelWidth : Nat := 8

def separator : Text := " | "

def line (clock : Moment) (event : Log.Event) : Text :=
  let level := event.level.name
  Pattern.Letters.write timeStyle clock ++ separator ++ level
    ++ List.replicate (levelWidth - level.length) ' ' ++ separator ++ event.message ++ "\n"

def text (file : LogFile) (events : List Log.Event) : Text :=
  (Log.heard .debug events).flatMap (line file.clock)

def filesAfter (file : LogFile) (events : List Log.Event) : FileTree :=
  file.opened.tree.append file.opened.location.steps (Text.Utf8.encode (file.text events))

def reader (file : LogFile) : Lexicon.GrowingReader := fun told => (file.filesAfter told).read

end LogFile
end PasswordAudit.CommandLine
