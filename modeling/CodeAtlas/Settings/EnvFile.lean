import CodeAtlas.Text.Blank

/-!
# Files of environment variables

A file of environment variables assigns a value to a name on each line. A name may follow the word
`export` or stand in single quotes; a value may stand in quotes, where it may hold line breaks and
escapes, and outside of quotes it ends before a comment. A line that is neither an assignment, a
name by itself nor a comment is skipped. Values may refer to variables set before and to those of
the surroundings.
-/
namespace CodeAtlas.EnvFile

open CodeAtlas.Text

/-- Whether a character is a blank inside a line. -/
def isBlank (char : Char) : Bool := isSpace char && char ≠ '\n' && char ≠ '\r'

/-- Characters without blanks at their start. -/
def skipBlanks (chars : List Char) : List Char := chars.dropWhile isBlank

/-- What follows the word `export` and a blank, if they are there. -/
def skipExport (chars : List Char) : List Char :=
  if "export".toList.isPrefixOf chars then
    let rest := chars.drop 6
    if rest.head?.any isBlank then skipBlanks rest else chars
  else chars

/-- A text up to a closing quote, and what follows the quote. A quote after a backslash closes
only if no other one does. -/
def untilQuote (quote : Char) : List Char → Option (List Char × List Char)
  | [] => none
  | '\\' :: char :: rest =>
    if char = quote then
      match untilQuote quote rest with
      | some (found, rest) => some ('\\' :: char :: found, rest)
      | none => some (['\\'], rest)
    else (untilQuote quote (char :: rest)).map fun (found, rest) => ('\\' :: found, rest)
  | char :: rest =>
    if char = quote then some ([], rest)
    else (untilQuote quote rest).map fun (found, rest) => (char :: found, rest)

/-- What letters stand for after a backslash in single quotes. -/
def singleEscapes : List (Char × Char) := [('\\', '\\'), ('\'', '\'')]

/-- What letters stand for after a backslash in double quotes. -/
def doubleEscapes : List (Char × Char) :=
  [('\\', '\\'), ('\'', '\''), ('"', '"'), ('a', '\x07'), ('b', '\x08'), ('f', '\x0c'),
    ('n', '\n'), ('r', '\r'), ('t', '\t'), ('v', '\x0b')]

/-- A text with its escapes replaced. -/
def unescape (escapes : List (Char × Char)) : List Char → List Char
  | '\\' :: char :: rest =>
    match escapes.lookup char with
    | some meaning => meaning :: unescape escapes rest
    | none => '\\' :: unescape escapes (char :: rest)
  | char :: rest => char :: unescape escapes rest
  | [] => []

/-- The characters before a comment, which follows a blank; the flag tells whether the character
before was one. -/
def beforeComment (afterBlank : Bool) : List Char → List Char
  | [] => []
  | char :: rest =>
    if char = '#' && afterBlank then [] else char :: beforeComment (isSpace char) rest

/-- A value outside of quotes. -/
def bareValue (line : List Char) : List Char := trimEnd (beforeComment false line)

/-- The rest of a line and what follows it. -/
def splitLine (chars : List Char) : List Char × List Char :=
  (chars.takeWhile (· ≠ '\n'), chars.dropWhile (· ≠ '\n'))

/-- A value and what follows it; nothing if a quote is not closed. -/
def value? (chars : List Char) : Option (List Char × List Char) :=
  match chars with
  | '\'' :: rest =>
    (untilQuote '\'' rest).map fun (found, rest) => (unescape singleEscapes found, rest)
  | '"' :: rest =>
    (untilQuote '"' rest).map fun (found, rest) => (unescape doubleEscapes found, rest)
  | chars =>
    let (line, rest) := splitLine chars
    some (bareValue line, rest)

/-- Whether a character may stand in a name without quotes. -/
def isNameChar (char : Char) : Bool := char ≠ '=' && char ≠ '#' && !isSpace char

/-- A name and what follows it. Before a comment there is a line without a name. -/
def name? (chars : List Char) : Option (Option String × List Char) :=
  match chars with
  | '#' :: _ => some (none, chars)
  | '\'' :: rest =>
    let name := rest.takeWhile (· ≠ '\'')
    match rest.dropWhile (· ≠ '\'') with
    | _ :: after => if name.isEmpty then none else some (some (String.ofList name), after)
    | [] => none
  | chars =>
    let name := chars.takeWhile isNameChar
    if name.isEmpty then none
    else some (some (String.ofList name), chars.dropWhile isNameChar)

/-- What follows a comment and the end of its line; nothing if something else stands there. -/
def lineEnd? (chars : List Char) : Option (List Char) :=
  let chars := skipBlanks chars
  let chars := if chars.head? = some '#' then chars.dropWhile (· ≠ '\n') else chars
  match chars with
  | [] => some []
  | '\n' :: rest => some rest
  | _ => none

/-- What a line holds, and where its reading ends. -/
structure Line where
  /-- The name and, if one is assigned, the value. -/
  assignment : Option (String × Option String)
  /-- What follows. -/
  rest : List Char

/-- A line that is skipped from a place on. -/
def skipped (chars : List Char) : Line := ⟨none, (splitLine chars).2.drop 1⟩

/-- A line; blanks and empty lines before it are skipped. -/
def readLine (chars : List Char) : Line :=
  let chars := skipExport (chars.dropWhile isSpace)
  match name? chars with
  | none => skipped chars
  | some (name, rest) =>
    let rest := skipBlanks rest
    match rest with
    | '=' :: after =>
      let after := skipBlanks after
      match value? after with
      | none => skipped after
      | some (value, rest) =>
        match lineEnd? rest with
        | some next => ⟨name.map (·, some (String.ofList value)), next⟩
        | none => skipped (skipBlanks rest)
    | _ =>
      match lineEnd? rest with
      | some next => ⟨name.map (·, none), next⟩
      | none => skipped rest

/-- All assignments in order. -/
def assignmentsFrom : Nat → List Char → List (String × Option String)
  | 0, _ => []
  | fuel + 1, chars =>
    if chars.all isSpace then []
    else
      let line := readLine chars
      let others := assignmentsFrom fuel line.rest
      match line.assignment with
      | some assignment => assignment :: others
      | none => others

/-- The assignments of a text in order. -/
def assignments (text : String) : List (String × Option String) :=
  let chars := unifyBreaks text.toList
  assignmentsFrom (chars.length + 1) chars

/-! ## References -/

/-- The name and the default of a reference whose opening brace was just read, and what follows
its closing brace. -/
def reference? (chars : List Char) : Option ((List Char × List Char) × List Char) :=
  let name := chars.takeWhile fun char => char ≠ '\x7d' && char ≠ ':'
  match chars.drop name.length with
  | '\x7d' :: rest => some ((name, []), rest)
  | ':' :: '-' :: rest =>
    let default := rest.takeWhile (· ≠ '\x7d')
    match rest.drop default.length with
    | _ :: rest => some ((name, default), rest)
    | [] => none
  | _ => none

/-- Variables and their values; a variable may be known without a value. -/
abbrev Surroundings := List (String × Option String)

/-- Set a variable; one that is known keeps its place. -/
def assign (name : String) (value : Option String) : Surroundings → Surroundings
  | [] => [(name, value)]
  | (other, old) :: rest =>
    if other = name then (name, value) :: rest else (other, old) :: assign name value rest

/-- The value of a reference. -/
def resolve (surroundings : Surroundings) (name default : List Char) : List Char :=
  match surroundings.lookup (String.ofList name) with
  | some value => (value.getD "").toList
  | none => default

/-- A value with its references replaced. -/
def expandFrom (surroundings : Surroundings) : Nat → List Char → List Char
  | 0, chars => chars
  | fuel + 1, chars =>
    match chars with
    | [] => []
    | '$' :: '\x7b' :: rest =>
      match reference? rest with
      | some ((name, default), rest) =>
        resolve surroundings name default ++ expandFrom surroundings fuel rest
      | none => '$' :: expandFrom surroundings fuel ('\x7b' :: rest)
    | char :: rest => char :: expandFrom surroundings fuel rest

/-- A value with its references replaced. -/
def expand (surroundings : Surroundings) (value : String) : String :=
  String.ofList (expandFrom surroundings (value.toList.length + 1) value.toList)

/-- The variables of assignments made one after the other; they come before those around. -/
def variablesFrom (around known : Surroundings) : List (String × Option String) → Surroundings
  | [] => known
  | (name, value) :: rest =>
    let value := value.map (expand (known ++ around))
    variablesFrom around (assign name value known) rest

/-- The variables that a text sets. -/
def resolved (around : Surroundings) (text : String) : Surroundings :=
  variablesFrom around [] (assignments text)

end CodeAtlas.EnvFile
