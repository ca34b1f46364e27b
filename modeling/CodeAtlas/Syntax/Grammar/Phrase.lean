import CodeAtlas.Syntax.Rule

/-!
# Phrases

The phrases that rules refer to, and the small vocabulary that the rules are written in. A
phrase whose right end may be the end of a statement carries what may follow it.
-/
namespace CodeAtlas.Syntax

/-- A phrase of the grammar. -/
inductive Phrase where
  | statement
  | declaration
  | block
  | sequence (follow : Follow)
  | expression (follow : Follow)
  | binary (follow : Follow) (level : Nat)
  | operand (follow : Follow)
  | postfix_ (follow : Follow)
  | primary
  | constructed
  | arrowHead (follow : Follow)
  | arrowBlock (follow : Follow)
  | arguments
  | templateString
  | object
  | function
  | classExpression
  | destructuring
  | pattern
  | formalParameters
  | callSignature (follow : Follow)
  | propertyName
  | objectMethod
  | classBody
  | decorator
  | element
  | type (follow : Follow)
  | typeUnion (follow : Follow)
  | typeOperand (follow : Follow)
  | typePostfix (follow : Follow)
  | typePrimary
  | objectType
  | typeArguments
  | typeParameters
  deriving DecidableEq, Repr

namespace Grammar

/-- A rule over the phrases of this grammar. -/
abbrev R := Rule Phrase

/-- Nothing. -/
def done : R := .done

/-- One token. -/
def token (terminal : Terminal) : R := .token terminal

/-- Another phrase. -/
def ref (phrase : Phrase) : R := .ref phrase

/-- A rule or nothing. -/
def opt (rule : R) : R := .opt rule

/-- A rule as often as it fits. -/
def many (rule : R) : R := .many rule

/-- A rule as one node. -/
def node (kind : Kind) (rule : R) : R := .node kind rule

/-- A rule in a place of its parent. -/
def field (place : Field) (rule : R) : R := .field place rule

/-- A look ahead. -/
def ahead (rule : R) : R := .ahead rule

/-- A look ahead for what must not be there. -/
def absent (rule : R) : R := .absent rule

/-- A rule that others go on from. -/
def grow (base step : R) : R := .grow base step

/-- What goes on from the nodes before it. -/
def onto (kind : Kind) (rule : R) : R := .onto kind rule

/-- A rule that gives one node of one of the kinds. -/
def only (kinds : List Kind) (rule : R) : R := .only kinds rule

/-- A punctuation mark. -/
def mark (text : String) : R := token (.mark text)

/-- An operator. -/
def operator (text : String) : R := token (.operator text)

/-- A word. -/
def word (text : String) : R := token (.word text)

/-- A name. -/
def name (kind : Kind) (reserved : Reserved) : R := token (.name kind reserved)

/-- The name of a variable where it is bound. -/
def bindingName : R := name .identifier .bindings

/-- The first rule that fits. -/
def anyOf : List R → R
  | [] => absent done
  | [rule] => rule
  | rule :: rules => .alt rule (anyOf rules)

/-- Items with commas between them. -/
def commaList (item : R) : R := item >> many (mark "," >> item)

/-- Items with commas between them and perhaps one after the last. -/
def trailingCommaList (item : R) : R := commaList item >> opt (mark ",")

/-- Items with commas between them, any of which may be left out. -/
def sparseList (item : R) : R := opt item >> many (mark "," >> opt item)

/-- Nothing, provided that no statement ends here. -/
def unended (follow : Follow) : R :=
  if follow.semicolon then absent (token (.insertedSemicolon follow)) else done

/-- The end of a statement. -/
def semicolon (follow : Follow) : R := token (.insertedSemicolon follow) <|> mark ";"

/-- The end of a construct that may be followed directly by the next one. -/
def optionalSemicolon : R := opt (token (.insertedSemicolon .statement))

/-- The start of the name of a property. -/
def nameStart : R :=
  anyOf [name .propertyIdentifier .nothing, token .privateName, token .string, token .number,
    mark "["]

/-- A word that modifies the member after it, rather than being its name. -/
def modifier (text : String) : R :=
  word text >> unended .declaration >> ahead (nameStart <|> mark "*")

end Grammar

end CodeAtlas.Syntax
