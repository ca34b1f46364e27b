import CodeAtlas.Proofs.Source.Extent
import CodeAtlas.Proofs.Syntax.Layout
import CodeAtlas.Proofs.Syntax.Lexeme
import CodeAtlas.Syntax.Draft

/-!
# What reading a token gives

A token that is read stands after the place where reading began, with the comments between in
order, and takes bytes unless it is the end of a statement that is not written:
`Terminal.read_found`.
-/
namespace CodeAtlas.Syntax

open Cursor

/-- The comments before a place, from another place on. -/
structure Passed (cursor : Cursor) (trivia : List Trivia) (place : Cursor) : Prop where
  /-- The place is reached. -/
  reaches : cursor.Reaches place
  /-- The comments stand in order between the places. -/
  chained : Node.Chained cursor.offset place.offset (Draft.triviaNodes trivia)
  /-- Their extents are between places. -/
  joins : ∀ comment ∈ trivia, comment.span.Joins cursor

variable {cursor place last : Cursor} {found : List Trivia}

/-- Nothing is passed on the spot. -/
theorem Passed.nil (cursor : Cursor) : Passed cursor [] cursor :=
  ⟨.refl _, Nat.le_refl _, List.forall_mem_nil _⟩

/-- Blanks are passed without a comment. -/
theorem Passed.reach (passed : Passed cursor found place) (further : place.Reaches last) :
    Passed cursor found last :=
  ⟨passed.reaches.trans further, passed.chained.widen (Nat.le_refl _) further.offset_le,
    passed.joins⟩

/-- One more comment is passed. -/
theorem Passed.comment (solid : cursor.Solid) (passed : Passed cursor found place) (kind : Kind)
    (passes : place.Passes last) :
    Passed cursor (found ++ [⟨kind, place.spanTo last⟩]) last := by
  have further := passed.reaches.trans passes.reaches
  refine ⟨further, ?_, List.forall_mem_append.mpr ⟨passed.joins,
    List.forall_mem_singleton.mpr ⟨place, last, passed.reaches, further, rfl⟩⟩⟩
  rw [Draft.triviaNodes, List.map_append]
  have occupied := passes.offset_lt (passed.reaches.solid solid)
  exact passed.chained.append ⟨Nat.le_refl _, occupied, Nat.le_refl _⟩

namespace Terminal

variable {language : Language}

/-- A gap is passed with its comments. -/
theorem gap_passed (solid : cursor.Solid) (html : Bool) (bound : List Glyph)
    (passed : Passed cursor found.reverse place) :
    Passed cursor (gap html bound place found).1 (gap html bound place found).2 := by
  induction bound generalizing place found with
  | nil => exact passed
  | cons glyph bound ih =>
    have blank := passed.reach (Lexeme.reaches_run place isBlank)
    rw [gap]
    split
    · rename_i last comment
      refine ih ?_
      rw [List.reverse_cons]
      exact blank.comment solid .comment (Lexeme.advances_comment _ _ comment)
    · split
      · rename_i last comment
        refine ih ?_
        rw [List.reverse_cons]
        refine blank.comment solid .htmlComment (Lexeme.advances_htmlComment _ _ ?_)
        split at comment
        · exact comment
        · contradiction
      · exact blank

/-- The gap before an operand is passed with its comments. -/
theorem openGap_passed (solid : cursor.Solid) :
    Passed cursor (openGap cursor).1 (openGap cursor).2 :=
  gap_passed solid _ _ (Passed.nil cursor)

/-- The gap after an operand is passed with its comments. -/
theorem closeGap_passed (solid : cursor.Solid) :
    Passed cursor (closeGap cursor).1 (closeGap cursor).2 :=
  gap_passed solid _ _ (Passed.nil cursor)

/-- The comments before a semicolon that is not written are passed. -/
theorem semicolonPlace_passed (solid : cursor.Solid) {follow : Follow} {bound : List Glyph}
    {trivia : List Trivia} (passed : Passed cursor found.reverse place)
    (inserted : semicolonPlace language follow bound place found = some (trivia, last)) :
    Passed cursor trivia last := by
  fun_induction semicolonPlace language follow bound place found with
  | case1 bound place found ends =>
    cases inserted
    exact passed
  | case2 place found _ first glyph bound last comment ih =>
    refine ih ?_ inserted
    rw [List.reverse_cons]
    exact (passed.reach (Lexeme.reaches_run place isBlank)).comment solid .comment
      (Lexeme.advances_comment _ _ comment)
  | case3 => contradiction

/-! ## Tokens -/

/-- The kind of node that a token of a terminal becomes. -/
def kind : Terminal → Kind
  | .mark text | .operator text | .word text => .symbol text
  | .name kind _ | .elementName kind => kind
  | .privateName => .privatePropertyIdentifier
  | .number => .number
  | .string | .elementString => .string
  | .regex => .regex
  | .templateChars => .stringFragment
  | .templateEscape => .escapeSequence
  | .ternary => .symbol "?"
  | .elementText => .jsxText
  | .entity => .htmlCharacterReference
  | .hashBangLine => .hashBangLine
  | .insertedSemicolon _ | .lineBreak | .endOfSource => .insertedSemicolon

/-- A mark has a character, and a name becomes neither a declaration nor the end of a statement. -/
def isRegular : Terminal → Bool
  | .mark text => !text.isEmpty
  | .name kind _ | .elementName kind => !kind.isDeclaration && kind != .insertedSemicolon
  | _ => true

/-- A token as reading gives it. -/
structure Found (cursor : Cursor) (kind : Kind) (token : Token) : Prop where
  /-- The comments before it are passed. -/
  passed : Passed cursor token.trivia token.first
  /-- It leads forward. -/
  reaches : token.first.Reaches token.last
  /-- It has the kind. -/
  kind_eq : token.kind = kind
  /-- It is not empty, unless it is the end of a statement. -/
  occupied : kind ≠ .insertedSemicolon → token.first.Passes token.last

/-- A token after a gap begins where the gap ends. -/
theorem exists_of_afterGap {gap : List Trivia × Cursor} {kind : Kind} {lexeme : Lexeme}
    {token : Token} (read : afterGap gap kind lexeme = .ok token) :
    ∃ last, lexeme gap.2 = some last ∧ token = ⟨kind, gap.1, gap.2, last⟩ := by
  unfold afterGap at read
  split at read
  · rename_i last found
    cases read
    exact ⟨last, found, rfl⟩
  · contradiction

/-- A token after a gap is found, if it is not empty. -/
theorem found_of_afterGap {gap : List Trivia × Cursor} {kind : Kind} {lexeme : Lexeme}
    {token : Token} (passed : Passed cursor gap.1 gap.2) (advances : lexeme.Advances)
    (read : afterGap gap kind lexeme = .ok token) : Found cursor kind token := by
  obtain ⟨last, found, rfl⟩ := exists_of_afterGap read
  have passes := advances _ _ found
  exact ⟨passed, passes.reaches, rfl, fun _ => passes⟩

/-- The end of a statement after a gap is found. -/
theorem found_of_silent {gap : List Trivia × Cursor} {lexeme : Lexeme} {token : Token}
    (passed : Passed cursor gap.1 gap.2) (goes : lexeme.Goes)
    (read : afterGap gap .insertedSemicolon lexeme = .ok token) :
    Found cursor .insertedSemicolon token := by
  obtain ⟨last, found, rfl⟩ := exists_of_afterGap read
  exact ⟨passed, goes _ _ found, rfl, fun other => absurd rfl other⟩

/-- A name is not empty. -/
theorem advances_exactName (accept : String → Bool) : (exactName accept).Advances := by
  intro cursor last found
  unfold exactName at found
  split at found
  · rename_i middle name
    split at found
    · cases found
      exact Lexeme.advances_name _ _ name
    · contradiction
  · contradiction

/-- An operator is not empty. -/
theorem advances_exactOperator (text : String) : (exactOperator text).Advances := by
  intro cursor last found
  unfold exactOperator at found
  split at found
  · rename_i operator middle name
    split at found
    · cases found
      exact Lexeme.passes_of_operator? name
    · contradiction
  · contradiction

/-- The mark of a conditional expression is not empty. -/
theorem advances_ternary (language : Language) :
    Lexeme.Advances fun cursor => if isTernary language cursor then some cursor.next else none := by
  intro cursor last found
  dsimp only at found
  split at found
  · rename_i ternary
    cases found
    simp only [isTernary, Bool.and_eq_true] at ternary
    exact passes_next_of_at? ternary.1.1
  · contradiction

/-- What holds of a place matches nothing there. -/
theorem goes_here (test : Cursor → Bool) :
    Lexeme.Goes fun cursor => if test cursor then some cursor else none := by
  intro cursor last found
  dsimp only at found
  split at found
  · cases found
    exact .refl _
  · contradiction

/-- Whatever is read of a terminal is found. -/
theorem read_found (solid : cursor.Solid) {terminal : Terminal} {token : Token}
    (regular : terminal.isRegular = true) (read : terminal.read language cursor = .ok token) :
    Found cursor terminal.kind token := by
  have opened := openGap_passed solid
  have closed := closeGap_passed solid
  have here := Passed.nil cursor
  cases terminal with
  | mark text =>
    have occupied : text.toList ≠ [] := by simpa [isRegular] using regular
    exact found_of_afterGap opened (Lexeme.advances_literal occupied) read
  | operator text => exact found_of_afterGap closed (advances_exactOperator text) read
  | word text => exact found_of_afterGap opened (advances_exactName _) read
  | name kind reserved => exact found_of_afterGap opened (advances_exactName _) read
  | privateName => exact found_of_afterGap opened Lexeme.advances_privateName read
  | number => exact found_of_afterGap opened Lexeme.advances_number read
  | string => exact found_of_afterGap opened Lexeme.advances_string read
  | regex => exact found_of_afterGap opened Lexeme.advances_regex read
  | templateChars => exact found_of_afterGap here Lexeme.advances_templateChars read
  | templateEscape => exact found_of_afterGap here Lexeme.advances_escape read
  | ternary => exact found_of_afterGap closed (advances_ternary language) read
  | insertedSemicolon follow =>
    rw [Terminal.read] at read
    split at read
    · rename_i trivia place inserted
      cases read
      have nothing : Passed cursor (List.reverse []) cursor := here
      exact ⟨semicolonPlace_passed solid nothing inserted, .refl _, rfl,
        fun other => absurd rfl other⟩
    · contradiction
  | elementText => exact found_of_afterGap here Lexeme.advances_elementText read
  | entity => exact found_of_afterGap closed Lexeme.advances_entity read
  | elementName kind => exact found_of_afterGap closed Lexeme.advances_elementName read
  | elementString => exact found_of_afterGap closed Lexeme.advances_elementString read
  | hashBangLine => exact found_of_afterGap opened Lexeme.advances_hashBangLine read
  | lineBreak =>
    exact @found_of_silent cursor ([], cursor) _ _ here (goes_here fun cursor =>
      (Lexeme.run cursor fun char => isBlank char && char != '\n').at? '\n') read
  | endOfSource => exact found_of_silent opened (goes_here Cursor.atEnd) read

/-- What a recognizer that goes forward matches after a gap ends after the gap began. -/
theorem reaches_of_afterGap {gap : List Trivia × Cursor} {kind : Kind} {lexeme : Lexeme}
    {token : Token} (passed : Passed cursor gap.1 gap.2) (goes : lexeme.Goes)
    (read : afterGap gap kind lexeme = .ok token) : cursor.Reaches token.last := by
  obtain ⟨last, found, rfl⟩ := exists_of_afterGap read
  exact passed.reaches.trans (goes _ _ found)

/-- Whatever is read of a terminal leads forward, even over marks that have no character. -/
theorem read_reaches (solid : cursor.Solid) {terminal : Terminal} {token : Token}
    (read : terminal.read language cursor = .ok token) : cursor.Reaches token.last := by
  by_cases regular : terminal.isRegular = true
  · have found := read_found solid regular read
    exact found.passed.reaches.trans found.reaches
  · cases terminal with
    | mark text =>
      exact reaches_of_afterGap (openGap_passed solid) (fun _ _ => reaches_of_literal?) read
    | name => exact reaches_of_afterGap (openGap_passed solid) (advances_exactName _).goes read
    | elementName =>
      exact reaches_of_afterGap (closeGap_passed solid) Lexeme.advances_elementName.goes read
    | _ => exact absurd rfl regular

end Terminal

end CodeAtlas.Syntax
