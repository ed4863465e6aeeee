/-!
Paths: components between slashes. Empty components and single dots do not count, and two dots
cancel the component before them.
-/

namespace LineScript.Path

def components (path : String) : List String :=
  (path.toList.splitOn '/').map String.ofList

def isAbsolute (path : String) : Bool :=
  path.toList.head? = some '/'

/-- One component further, given those passed so far, last first. -/
def descend (passed : List String) (component : String) : List String :=
  if component = "" || component = "." then passed
  else if component = ".." then passed.tail
  else component :: passed

/-- Exactly two slashes at the start stay two; any other number counts as one. -/
def root (path : String) : String :=
  match path.toList with
  | '/' :: '/' :: '/' :: _ => "/"
  | '/' :: '/' :: _ => "//"
  | _ => "/"

/-- An absolute path without anything that does not count. -/
def normalize (path : String) : String :=
  root path ++ String.intercalate "/" ((components path).foldl descend []).reverse

/-- A path as it is looked up from a place, with a slash between the two unless the place ends in
one. -/
def join (place path : String) : String :=
  if isAbsolute path then path
  else if place.isEmpty || place.toList.getLast? = some '/' then place ++ path
  else place ++ "/" ++ path

/-- The absolute form of a path that is looked up from a place. -/
def absolute (place path : String) : String :=
  normalize (join place path)

/-- The name of a source text that comes from no file. -/
def literal : String := "<string>"

/-- How reports name a file that is looked up from a place. -/
def label (place name : String) : String :=
  if name = literal then name else absolute place name

end LineScript.Path
