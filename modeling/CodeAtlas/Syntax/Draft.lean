import CodeAtlas.Syntax.Node
import CodeAtlas.Syntax.Terminal

/-!
# Where comments stand in a tree

A draft is a syntax tree whose comments still hang on the tokens they precede. Building the tree
puts every comment into the smallest node that reaches around it: a comment before the first
token of a node stands before that node, a comment between two children stands between them.
-/
namespace CodeAtlas.Syntax

/-- A syntax tree whose comments hang on its tokens. -/
inductive Draft where
  /-- A token with the comments before it. -/
  | leaf (kind : Kind) (field : Option Field) (span : Span) (trivia : List Trivia)
  /-- A construct with its children. -/
  | branch (kind : Kind) (field : Option Field) (children : List Draft)
  deriving Repr

namespace Draft

/-- The draft of a token. -/
def ofToken (token : Terminal.Token) : Draft :=
  .leaf token.kind none (token.first.spanTo token.last) token.trivia

/-- What the draft is. -/
def kind : Draft → Kind
  | .leaf kind _ _ _ => kind
  | .branch kind _ _ => kind

/-- The draft in a place of its parent. -/
def inField (field : Field) : Draft → Draft
  | .leaf kind _ span trivia => .leaf kind (some field) span trivia
  | .branch kind _ children => .branch kind (some field) children

mutual

/-- The comments before the first token. -/
def leading : Draft → List Trivia
  | .leaf _ _ _ trivia => trivia
  | .branch _ _ children => leadingFirst children

/-- The comments before the first token of a list. -/
def leadingFirst : List Draft → List Trivia
  | [] => []
  | draft :: _ => leading draft

end

mutual

/-- The extent of a draft, unless it has no token. -/
def span? : Draft → Option Span
  | .leaf _ _ span _ => some span
  | .branch _ _ children => spanAll? children

/-- The extent of a list of drafts, unless it has no token. -/
def spanAll? : List Draft → Option Span
  | [] => none
  | draft :: drafts =>
    match span? draft, spanAll? drafts with
    | some first, some last => some (first.through last)
    | first, last => first.or last

end

/-- The extent of nothing. -/
def noSpan : Span := ⟨0, 0, 0, 0⟩

/-- The nodes of comments. -/
def triviaNodes (trivia : List Trivia) : List Node :=
  trivia.map fun comment => .mk comment.kind none comment.span []

mutual

/-- The tree of a draft, without the comments before it. -/
def build : Draft → Node
  | .leaf kind field span _ => .mk kind field span []
  | .branch kind field children =>
    .mk kind field ((spanAll? children).getD noSpan) (buildFirst children)

/-- The trees of a list of drafts, without the comments before the first. -/
def buildFirst : List Draft → List Node
  | [] => []
  | draft :: drafts =>
    (if draft.kind == .insertedSemicolon then [] else [build draft]) ++ buildRest drafts

/-- The trees of a list of drafts, each after the comments before it. -/
def buildRest : List Draft → List Node
  | [] => []
  | draft :: drafts =>
    triviaNodes (leading draft) ++
      (if draft.kind == .insertedSemicolon then [] else [build draft]) ++ buildRest drafts

end

/-- The tree of a whole source: comments before the first token belong to it too. -/
def root (kind : Kind) (span : Span) (children : List Draft) : Node :=
  .mk kind none span (buildRest children)

end Draft

end CodeAtlas.Syntax
