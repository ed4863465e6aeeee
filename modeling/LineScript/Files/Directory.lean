import LineScript.Files.Basic
import LineScript.Files.Path

/-!
A directory and files, in it or elsewhere. Nothing else exists than the files, the directory, and
the directories above them.
-/

namespace LineScript

structure Directory where
  /-- The absolute path of the directory. -/
  path : String
  /-- Paths and contents; paths that are not absolute start from the directory. -/
  files : List (String × List UInt8)

namespace Directory

/-- The most bytes of a component, and of a path. -/
def maxComponent : Nat := 255

def maxPath : Nat := 4095

/-- Where a path has led so far: to a directory, given by its components from the root, last first,
or to a file. -/
inductive Place where
  | inside (passed : List String)
  | file (bytes : List UInt8)

/-- The components of the directory's own path, last first. -/
def home (directory : Directory) : List String :=
  (Path.components directory.path).foldl Path.descend []

/-- Where the components of a path are followed from. -/
def start (directory : Directory) (path : String) : List String :=
  if Path.isAbsolute path then [] else directory.home

/-- The files by their components from the root, last first. -/
def located (directory : Directory) : List (List String × List UInt8) :=
  directory.files.map fun file =>
    ((Path.components file.1).foldl Path.descend (directory.start file.1), file.2)

/-- Whether components lead to the directory, or above it, or above a file. -/
def leadsOn (directory : Directory) (passed : List String) : Bool :=
  passed.isSuffixOf directory.home ||
    directory.located.any fun file => passed.isSuffixOf file.1.tail

/-- One component further. -/
def follow (directory : Directory) (place : Place) (component : String) :
    Except FileError Place :=
  match place with
  | .file _ => .error .notDirectory
  | .inside passed =>
    let next := Path.descend passed component
    if maxComponent < component.utf8ByteSize then .error .nameTooLong
    else if directory.leadsOn next then .ok (.inside next)
    else
      match directory.located.lookup next with
      | some bytes => .ok (.file bytes)
      | none => .error .notFound

/-- The bytes of the file that a path leads to. -/
def open? (directory : Directory) (path : String) : Except FileError (List UInt8) :=
  if path.isEmpty then .error .notFound
  else if maxPath < path.utf8ByteSize then .error .nameTooLong
  else do
    match ← (Path.components path).foldlM directory.follow (.inside (directory.start path)) with
    | .file bytes => return bytes
    | .inside _ => throw .isDirectory

/-- The files as they are seen from the directory. -/
def toFiles (directory : Directory) : Files where
  place := directory.path
  open? := directory.open?

end Directory

end LineScript
