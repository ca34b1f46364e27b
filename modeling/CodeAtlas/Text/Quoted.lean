import CodeAtlas.Text.Shown

/-!
# Quoted texts

A text between quotes, as messages show it: in single quotes, or in double quotes if it holds
single but no double ones. Backslashes and the quote itself are escaped, and characters that are
not shown are written by their codes.
-/
namespace CodeAtlas.Text

/-- The last `width` digits of a number in base sixteen. -/
def hexDigits : Nat → Nat → List Char
  | 0, _ => []
  | width + 1, value => hexDigits width (value / 16) ++ [Nat.digitChar (value % 16)]

/-- A character by its code. -/
def codeEscape (code : Nat) : List Char :=
  if code < 0x100 then '\\' :: 'x' :: hexDigits 2 code
  else if code < 0x10000 then '\\' :: 'u' :: hexDigits 4 code
  else '\\' :: 'U' :: hexDigits 8 code

/-- A character between quotes. -/
def quoteChar (quote char : Char) : List Char :=
  if char = quote || char = '\\' then ['\\', char]
  else if char = '\n' then ['\\', 'n']
  else if char = '\r' then ['\\', 'r']
  else if char = '\t' then ['\\', 't']
  else if isShown char then [char]
  else codeEscape char.toNat

/-- The quote that a text stands in. -/
def quoteOf (chars : List Char) : Char :=
  if chars.contains '\'' && !chars.contains '"' then '"' else '\''

/-- A text in quotes. -/
def quoted (text : String) : String :=
  let quote := quoteOf text.toList
  String.ofList (quote :: text.toList.flatMap (quoteChar quote) ++ [quote])

/-- Quoted texts in parentheses; a comma follows a text that stands alone. -/
def quotedTuple : List String → String
  | [] => "()"
  | [text] => "(" ++ quoted text ++ ",)"
  | texts => "(" ++ ", ".intercalate (texts.map quoted) ++ ")"

end CodeAtlas.Text
