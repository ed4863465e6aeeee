import LineScript.Text.Lines
import LineScript.Text.Quoted
import LineScript.Text.Utf8

/-!
Files as a call of the command sees them: the directory that names are looked up from, and what
opening a path comes to, whatever directories and errors stand behind it.
-/

namespace LineScript

/-- What the system says when a file cannot be opened. -/
inductive FileError where
  | notFound
  | notDirectory
  | isDirectory
  | nameTooLong
  | other (number : Nat) (text : String)
  deriving DecidableEq, Repr

def FileError.number : FileError → Nat
  | .notFound => 2
  | .notDirectory => 20
  | .isDirectory => 21
  | .nameTooLong => 36
  | .other number _ => number

def FileError.text : FileError → String
  | .notFound => "No such file or directory"
  | .notDirectory => "Not a directory"
  | .isDirectory => "Is a directory"
  | .nameTooLong => "File name too long"
  | .other _ text => text

def FileError.message (error : FileError) (path : String) : String :=
  s!"[Errno {error.number}] " ++ error.text ++ ": " ++ Text.quoted path

/-- Why the text of a file cannot be had. -/
inductive ReadFailure where
  | system (error : FileError)
  | nullInPath
  | illFormed (flaw : Text.Utf8.Flaw)
  deriving DecidableEq, Repr

def ReadFailure.message (failure : ReadFailure) (path : String) : String :=
  match failure with
  | .system error => error.message path
  | .nullInPath => "embedded null byte"
  | .illFormed flaw => flaw.message

/-- The text that bytes hold, with line feeds as its only breaks. -/
def ReadFailure.textOf (bytes : List UInt8) : Except ReadFailure String :=
  match Text.Utf8.decode bytes with
  | .ok chars => .ok (String.ofList (Text.unifyBreaks chars))
  | .error flaw => .error (.illFormed flaw)

structure Files where
  /-- The absolute path of the directory that other paths start from. -/
  place : String
  /-- The bytes of the file that a path leads to. -/
  open? : String → Except FileError (List UInt8)

/-- The text of the file that a path leads to. A path with a null character is never looked up. -/
def Files.readText (files : Files) (path : String) : Except ReadFailure String :=
  if path.toList.contains '\x00' then .error .nullInPath
  else do ReadFailure.textOf (← (files.open? path).mapError .system)

end LineScript
