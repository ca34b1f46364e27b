import CodeAtlas.Extract.Focus
import CodeAtlas.Text.Blank

/-!
# Documentation comments

A declaration is documented by the block comments right before the statement it belongs to.
`clean` takes the decoration off one comment: its delimiters, and the asterisk that begins a
line with the blanks before it and one blank after it.
-/
namespace CodeAtlas.Extract

open CodeAtlas.Syntax

namespace Comment

/-- The text without an opening delimiter of one or two asterisks. -/
def dropOpening : List Char → List Char
  | '/' :: '*' :: '*' :: rest => rest
  | '/' :: '*' :: rest => rest
  | chars => chars

/-- The text without a closing delimiter at its end or before a last line feed. -/
def dropClosing (chars : List Char) : List Char :=
  match chars.reverse with
  | '/' :: '*' :: rest => rest.reverse
  | '\n' :: '/' :: '*' :: rest => ('\n' :: rest).reverse
  | _ => chars

/-- The line without its leading asterisk, the blanks before it and one blank after it. An
asterisk before a slash stays. -/
def dropAsterisk (line : List Char) : List Char :=
  match Text.trimStart line with
  | '*' :: '/' :: _ => line
  | '*' :: char :: rest => if Text.isSpace char then rest else char :: rest
  | ['*'] => []
  | _ => line

/-- The text of a comment without its decoration. -/
def clean (chars : List Char) : List Char :=
  Text.trim (Text.joinLines ((Text.lines (dropClosing (dropOpening chars))).map dropAsterisk))

end Comment

/-- The nodes of comments that document what follows them: the longest run of block comments,
nearest first, after the decorators that stand in between. -/
def documenting (text : Node → List Char) (before : List Node) : List Node :=
  (before.dropWhile (·.kind == .decorator)).takeWhile fun node =>
    node.kind == .comment && ['/', '*'].isPrefixOf (text node)

/-- The surroundings of a node without the steps that lead up to the statement it belongs to: from
a variable to its declaration, and from a declaration to its export. -/
def anchor (above : List Above) : List Above :=
  let above :=
    match above with
    | ⟨.variableDeclarator, _⟩ :: rest =>
      match rest with
      | ⟨.lexicalDeclaration, _⟩ :: rest => rest
      | ⟨.variableDeclaration, _⟩ :: rest => rest
      | _ => rest
    | _ => above
  match above with
  | ⟨.exportStatement, _⟩ :: rest => rest
  | _ => above

/-- The documentation of a node. -/
def documentation (text : Node → List Char) (focus : Focus) : List Char :=
  let before := ((anchor focus.above).head?.map (·.before)).getD []
  Text.joinLines ((documenting text before).reverse.map fun node => Comment.clean (text node))

end CodeAtlas.Extract
