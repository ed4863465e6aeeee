import LineScript.Text.Digit
import LineScript.Text.Quoted

/-!
The arguments of the command line: flags, which may be shortened while they stay unambiguous, and
one program. Every word is classified before any of them is acted upon, so an ambiguous flag is
reported first; a double hyphen makes words of all that follow.
-/

namespace LineScript.CommandLine

inductive Flag where
  | help
  | source
  | verbose
  | json
  deriving DecidableEq, Repr

/-- The spellings of all flags, in the order in which they are offered. -/
def spellings : List (String × Flag) := [
  ("-h", .help), ("--help", .help), ("-source", .source), ("--source", .source),
  ("-verbose", .verbose), ("--verbose", .verbose), ("--traceback-json", .json)]

/-- The name of a flag in messages. -/
def Flag.name (flag : Flag) : String :=
  String.intercalate "/" ((spellings.filter (·.2 = flag)).map Prod.fst)

inductive Item where
  | word (text : String)
  | separator
  | flag (flag : Flag)
  /-- A flag with a value after an equals sign; no flag takes one. -/
  | valued (flag : Flag) (value : String)
  /-- A flag with one hyphen and characters joined to it, each of which names a further flag. -/
  | joined (flag : Flag) (rest : List Char)
  | unknown (text : String)
  deriving DecidableEq, Repr

def ignoredValue (flag : Flag) (value : String) : String :=
  "argument " ++ flag.name ++ ": ignored explicit argument " ++ Text.quoted value

/-- A hyphen and a number, possibly with a point and a line feed at the end. -/
def isNegativeNumber (text : List Char) : Bool :=
  match text with
  | '-' :: rest =>
    let number := if rest.getLast? = some '\n' then rest.dropLast else rest
    match number.dropWhile Text.isDigit with
    | [] => !number.isEmpty
    | '.' :: places => !places.isEmpty && places.all Text.isDigit
    | _ => false
  | _ => false

/-- What stands before and after the first equals sign. -/
def splitValue (text : String) : String × Option String :=
  match text.toList.dropWhile (· != '=') with
  | _ :: value => (String.ofList (text.toList.takeWhile (· != '=')), some (String.ofList value))
  | [] => (text, none)

/-- The spellings that a text begins. -/
def completions (text : String) : List (String × Flag) :=
  spellings.filter fun (spelling, _) => text.toList.isPrefixOf spelling.toList

/-- A text that begins with a hyphen but is no flag. -/
def classifyOther (text : String) : Item :=
  if isNegativeNumber text.toList || text.toList.contains ' ' then .word text else .unknown text

def Item.ofFlag (flag : Flag) : Option String → Item
  | none => .flag flag
  | some value => .valued flag value

/-- A text with two hyphens: the spelling ends at an equals sign. -/
def classifyLong (text : String) : Except String Item :=
  let (spelling, value) := splitValue text
  match completions spelling with
  | [] => .ok (classifyOther text)
  | [(_, flag)] => .ok (.ofFlag flag value)
  | several => .error ("ambiguous option: " ++ text ++ " could match " ++
      String.intercalate ", " (several.map Prod.fst))

/-- A text with one hyphen: all of it must begin a spelling, unless the help flag begins it. -/
def classifyShort (text : String) : Item :=
  match text.toList with
  | '-' :: 'h' :: rest => .joined .help rest
  | _ =>
    match completions text with
    | (_, flag) :: _ => .flag flag
    | [] => classifyOther text

/-- What an argument before any double hyphen is. -/
def classify (text : String) : Except String Item :=
  match spellings.lookup text with
  | some flag => .ok (.flag flag)
  | none =>
    match text.toList with
    | '-' :: next :: _ =>
      match splitValue text with
      | (spelling, some value) =>
        match spellings.lookup spelling with
        | some flag =>
          if next = '-' || value.isEmpty then .ok (.valued flag value)
          else .ok (.joined flag value.toList)
        | none => if next = '-' then classifyLong text else .ok (classifyShort text)
      | (_, none) => if next = '-' then classifyLong text else .ok (classifyShort text)
    | _ => .ok (.word text)

/-- What all arguments are, or the message about an ambiguous one. -/
def classifyAll : List String → Except String (List Item)
  | [] => .ok []
  | text :: rest =>
    if text = "--" then .ok (.separator :: rest.map .word)
    else do return (← classify text) :: (← classifyAll rest)

structure Arguments where
  program : Option String := none
  source : Bool := false
  verbose : Bool := false
  json : Bool := false
  deriving DecidableEq, Repr

def Arguments.raise (arguments : Arguments) : Flag → Arguments
  | .help => arguments
  | .source => { arguments with source := true }
  | .verbose => { arguments with verbose := true }
  | .json => { arguments with json := true }

/-- What the arguments ask for. -/
inductive Request where
  | run (arguments : Arguments)
  | help
  | misuse (message : String)
  deriving DecidableEq, Repr

/-- The characters joined to a flag. The help flag alone has a name of one character; any other
character is refused, along with all that follows it, for the flag before it. -/
def requestOfJoined (flag : Flag) : List Char → Request
  | [] => .help
  | char :: rest =>
    if char = 'h' then requestOfJoined .help rest
    else .misuse (ignoredValue flag (String.ofList (char :: rest)))

/-- Acts upon items in order. The first word is the program, and a double hyphen right before or
after it is dropped; whatever is left over is reported at the end. -/
def gather (found : Arguments) (taken : Bool) (extras : List String) : List Item → Request
  | [] =>
    if extras.isEmpty then .run found
    else .misuse ("unrecognized arguments: " ++ String.intercalate " " extras)
  | .flag .help :: _ => .help
  | .flag flag :: rest => gather (found.raise flag) taken extras rest
  | .valued flag value :: _ => .misuse (ignoredValue flag value)
  | .joined flag chars :: _ => requestOfJoined flag chars
  | .unknown text :: rest => gather found taken (extras ++ [text]) rest
  | .word text :: .separator :: rest =>
    if taken then gather found taken (extras ++ [text, "--"]) rest
    else gather { found with program := some text } true extras rest
  | .word text :: rest =>
    if taken then gather found taken (extras ++ [text]) rest
    else gather { found with program := some text } true extras rest
  | .separator :: .word text :: rest =>
    if taken then gather found taken (extras ++ ["--", text]) rest
    else gather { found with program := some text } true extras rest
  | .separator :: rest =>
    if taken then gather found taken (extras ++ ["--"]) rest
    else gather found true extras rest

/-- What a list of arguments asks for. -/
def Request.ofArguments (texts : List String) : Request :=
  match classifyAll texts with
  | .ok items => gather {} false [] items
  | .error message => .misuse message

end LineScript.CommandLine
