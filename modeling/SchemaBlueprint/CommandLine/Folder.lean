import SchemaBlueprint.Error
import SchemaBlueprint.Text.Segment

/-!
Files found by their paths. A path is walked step by step from a folder that is known; each step has
to stand in a folder, and the last one has to be a file.
-/

namespace SchemaBlueprint.CommandLine

set_option autoImplicit false

inductive PathFault where
  | missing
  | isFolder
  /-- A step leads on from something that is no folder. -/
  | notFolder
  | tooLong
  deriving DecidableEq, Repr

def PathFault.message : PathFault → String
  | .missing => "No such file or directory (os error 2)"
  | .isFolder => "Is a directory (os error 21)"
  | .notFolder => "Not a directory (os error 20)"
  | .tooLong => "File name too long (os error 36)"

def PathFault.error (fault : PathFault) : SchemaError := .io fault.message

/-- The greatest length of one step of a path, in bytes. -/
def greatestStepSize : Nat := 255

/-- The length that no path may reach, in bytes. -/
def pathSizeLimit : Nat := 4096

structure Folder where
  /-- The files, by the steps that lead to them. -/
  files : List (List String × String) := []
  folders : List (List String) := []
  topmost : Bool := false

namespace Folder

def ofFiles (files : List (String × String)) : Folder where
  files := files.map fun file => (Text.splitAt '/' file.1, file.2)

def file? (folder : Folder) (steps : List String) : Option String := folder.files.lookup steps

def hasFolder (folder : Folder) (steps : List String) : Bool :=
  folder.folders.contains steps || folder.files.any fun file => steps.isPrefixOf file.1

/-- What is known of the folder above: nothing, unless the folder is the topmost one. -/
def above (folder : Folder) : Folder := if folder.topmost then folder else {}

/-- Walks on from `here`, the steps that led to a place of the folder. -/
def walk (folder : Folder) (here : List String) : List String → Except PathFault String
  | [] =>
      match folder.file? here with
      | some text => .ok text
      | none => .error .isFolder
  | step :: rest =>
      if (folder.file? here).isSome then .error .notFolder
      else if step = "" || step = "." then folder.walk here rest
      else if step = ".." then
        if here.isEmpty then folder.above.walk [] rest else folder.walk here.dropLast rest
      else if step.utf8ByteSize > greatestStepSize then .error .tooLong
      else
        let there := here ++ [step]
        if (folder.file? there).isSome || folder.hasFolder there then folder.walk there rest
        else .error .missing

/-- The text of the file at a path, which begins in the topmost folder if it begins with a slash, and
in the folder itself otherwise. -/
def fileText (folder top : Folder) (path : String) : Except PathFault String :=
  if path.isEmpty then .error .missing
  else if pathSizeLimit ≤ path.utf8ByteSize then .error .tooLong
  else if path.toList.head? == some '/' then top.walk [] (Text.splitAt '/' path)
  else folder.walk [] (Text.splitAt '/' path)

end Folder

end SchemaBlueprint.CommandLine
