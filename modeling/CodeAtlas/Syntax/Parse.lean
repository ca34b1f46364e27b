import CodeAtlas.Syntax.Grammar

/-!
# Reading a source as a tree

`Syntax.parse` always returns a tree. If the source follows the grammar the tree has no error;
otherwise it holds one error node, placed where reading would resume: an unfinished source is at
fault from its last unfinished statement on, and a token that an enclosing list or body can go on
with leaves only the member before it at fault.
-/
namespace CodeAtlas.Syntax

namespace Recovery

/-- The marks with which a construct goes on after a faulty member. -/
def resumes : Kind → List Char
  | .object | .objectPattern | .namedImports | .exportClause | .enumBody => [',', '\x7d']
  | .array | .arrayPattern | .tupleType => [',', ']']
  | .arguments | .formalParameters => [',', ')']
  | .parenthesizedExpression | .parenthesizedType => [')']
  | .classBody | .objectType | .interfaceBody => [';', '\x7d']
  | .statementBlock | .switchBody | .templateSubstitution | .jsxExpression => ['\x7d']
  | _ => []

/-- Where the faulty member begins, given the constructs from the innermost outwards; `inner` is
where the construct inside the next one begins. -/
def member? (place : Cursor) : Option Cursor → List Rule.Open → Option Cursor
  | _, [] => none
  | inner, opening :: openings =>
    if (resumes opening.kind).any place.at? then some (inner.getD place)
    else member? place
      (if opening.first.offset < place.offset then some opening.first else none) openings

/-- Where the fault of a source begins. -/
def fault (stop : Rule.Stop) : Cursor :=
  if stop.place.atEnd then (stop.openings.getLast?.map (·.first)).getD stop.place
  else
    match member? stop.place none stop.openings with
    | some first => first
    | none => if stop.place.at? ';' then stop.last else stop.place

end Recovery

/-- The rule of a whole source. -/
def sourceRule : Rule Phrase :=
  open Grammar in
  opt (token .hashBangLine) >> many (ref .statement) >> token .endOfSource

/-- The tree of a source. -/
def parse (language : Language) (bytes : List UInt8) : Node :=
  let start := Cursor.start bytes
  let stopOffset := bytes.length
  let depth := 64 * (start.rest.length + 2)
  let read := sourceRule.read language (Grammar.read (grammarOf language) language depth)
  match read [] [] start ⟨∅, none⟩ with
  | (some (drafts, last), _) => Draft.root .program (start.spanTo last) drafts
  | (none, memory) =>
    let place := (memory.stop.map Recovery.fault).getD start
    .mk .program none ⟨0, stopOffset, 0, place.row⟩
      [.mk .error none ⟨place.offset, stopOffset, place.row, place.row⟩ []]

end CodeAtlas.Syntax
