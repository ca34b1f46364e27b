import CodeAtlas.Chunk.Chunker
import CodeAtlas.Text.Blank
import CodeAtlas.Text.Removal

/-!
# Bodies in requests

A body is sent without comments, without calls that write to the console, and with every run of
white space as one blank. A body that is still long is sent as its head and its tail.
-/
namespace CodeAtlas.Request

open CodeAtlas.Text

/-- A comment between `/*` and the next `*/`. -/
def blockComment : Finder
  | '/' :: '*' :: rest => (distanceTo? ['*', '/'] rest).map (· + 4)
  | _ => none

/-- A comment from `//` to the end of the line. -/
def lineComment : Finder
  | '/' :: '/' :: rest => some ((rest.takeWhile (· ≠ '\n')).length + 2)
  | _ => none

/-- What a call that writes to the console begins with. -/
def consoleOpenings : List (List Char) :=
  ["console.log(", "console.warn(", "console.error(", "console.info(",
    "console.debug("].map String.toList

/-- A call that writes to the console, up to the first closing parenthesis and the semicolon after
it, if there is one. -/
def consoleCall : Finder := fun chars => do
  let opening ← consoleOpenings.find? (·.isPrefixOf chars)
  let rest := chars.drop opening.length
  let arguments ← distanceTo? [')'] rest
  let semicolon := if (rest.drop (arguments + 1)).head? = some ';' then 1 else 0
  some (opening.length + arguments + 1 + semicolon)

/-- Characters with each run of white space as one blank; `inside` says that one precedes. -/
def squeezeFrom (inside : Bool) : List Char → List Char
  | [] => []
  | char :: rest =>
    if isSpace char then
      if inside then squeezeFrom true rest else ' ' :: squeezeFrom true rest
    else char :: squeezeFrom false rest

/-- Characters with each run of white space as one blank. -/
def squeeze (chars : List Char) : List Char := squeezeFrom false chars

/-- Code without comments, calls that write to the console and needless white space. -/
def compact (code : String) : String :=
  String.ofList <| trim <| squeeze <| remove consoleCall <| remove lineComment <|
    remove blockComment code.toList

/-- The most characters of a body that is sent whole. -/
def bodyLimit : Nat := 500

/-- What stands between the head and the tail of a long body. -/
def omission : String := " /* ... implementation ... */ "

/-- The head and the tail of a text. -/
def shorten (text : String) : String :=
  let chars := text.toList
  String.ofList (chars.take 300) ++ omission ++ String.ofList (chars.drop (chars.length - 100))

/-- The text that is sent for a body. -/
def essential (body : String) : String :=
  if body = Chunk.truncatedBody then body
  else
    let code := compact body
    if bodyLimit < code.length then shorten code else code

end CodeAtlas.Request
