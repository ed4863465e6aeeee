import LineScript.Statement.Basic
import LineScript.Text.Word

/-!
Reading a statement from a text that white space does not surround. White space is required after a
keyword and around the `goto` of a branch, and allowed around every other sign.
-/

namespace LineScript

open Text

namespace Statement

/-- What follows a fixed text. -/
def after? (word : String) (text : List Char) : Option (List Char) :=
  if word.toList.isPrefixOf text then some (text.drop word.toList.length) else none

/-- What follows at least one character of white space. -/
def afterBlanks? : List Char → Option (List Char)
  | [] => none
  | char :: rest => if isBlank char then some (rest.dropWhile isBlank) else none

/-- What follows a sign with any white space around it. -/
def afterSign? (sign : String) (text : List Char) : Option (List Char) := do
  let rest ← after? sign (text.dropWhile isBlank)
  return rest.dropWhile isBlank

/-- What follows a keyword and the white space after it. -/
def afterKeyword? (keyword : String) (text : List Char) : Option (List Char) := do
  afterBlanks? (← after? keyword text)

/-- A variable is a dollar sign and a word; the word is its name. -/
def takeVariable? : List Char → Option (String × List Char)
  | '$' :: rest =>
    let name := rest.takeWhile isWord
    if name.isEmpty then none else some (String.ofList name, rest.dropWhile isWord)
  | _ => none

/-- A variable with nothing after it. -/
def lastVariable? (text : List Char) : Option String :=
  match takeVariable? text with
  | some (name, []) => some name
  | _ => none

/-- Digits with nothing after them. -/
def digits? (text : List Char) : Option String :=
  if !text.isEmpty && text.all isDigit then some (String.ofList text) else none

end Statement

open Statement

/-- The operator that a text begins with, and what follows it. -/
def Operator.parse? : List Char → Option (Operator × List Char)
  | '+' :: rest => some (.add, rest)
  | '-' :: rest => some (.subtract, rest)
  | '*' :: rest => some (.multiply, rest)
  | '/' :: rest => some (.divide, rest)
  | _ => none

/-- The longest comparison that a text begins with, and what follows it. -/
def Comparison.parse? : List Char → Option (Comparison × List Char)
  | '<' :: '=' :: rest => some (.atMost, rest)
  | '>' :: '=' :: rest => some (.atLeast, rest)
  | '!' :: '=' :: rest => some (.unequal, rest)
  | '<' :: rest => some (.less, rest)
  | '>' :: rest => some (.greater, rest)
  | '=' :: rest => some (.equal, rest)
  | _ => none

/-- A quoted literal holds anything but quotes. -/
def Literal.parse? : List Char → Option Literal
  | '"' :: rest =>
    if rest.dropWhile (· != '"') = ['"'] then
      some (.quoted (String.ofList (rest.takeWhile (· != '"'))))
    else none
  | text => (digits? text).map .digits

/-- A variable alone, or two with an operator between them. -/
def Origin.ofVariables? (text : List Char) : Option Origin := do
  let (left, rest) ← takeVariable? text
  if rest.isEmpty then return .copy left
  let (operator, rest) ← Operator.parse? (rest.dropWhile isBlank)
  let right ← lastVariable? (rest.dropWhile isBlank)
  return .arithmetic left operator right

def Origin.parse? (text : List Char) : Option Origin :=
  if text.head? = some '$' then Origin.ofVariables? text
  else if text = "pop".toList then some .stack
  else if text = "input".toList then some .input
  else (Literal.parse? text).map .literal

namespace Statement

def assignment? (text : List Char) : Option Statement := do
  let (target, rest) ← takeVariable? (← afterKeyword? "let" text)
  let origin ← Origin.parse? (← afterSign? "=" rest)
  return .assign target origin

def jump? (text : List Char) : Option String := do
  digits? (← afterKeyword? "goto" text)

def branch? (text : List Char) : Option Statement := do
  let (left, rest) ← takeVariable? (← afterKeyword? "if" text)
  let (comparison, rest) ← Comparison.parse? (rest.dropWhile isBlank)
  let (right, rest) ← takeVariable? (rest.dropWhile isBlank)
  let line ← jump? (← afterBlanks? rest)
  return .branch left comparison right line

def output? (text : List Char) : Option Statement := do
  return .output (← lastVariable? (← afterKeyword? "output" text))

/-- The statement that a text writes. The keywords tell the four forms apart. -/
def parse? (text : List Char) : Option Statement :=
  assignment? text <|> branch? text <|> (jump? text).map .jump <|> output? text

/-- The word that a text begins with. -/
def leadingWord (text : List Char) : List Char :=
  text.takeWhile isWord

end Statement

end LineScript
