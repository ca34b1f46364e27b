import CodeAtlas.Proofs.Source.Reach
import CodeAtlas.Syntax.Lexeme

/-!
# Tokens take glyphs

Every recognizer of tokens ends at a place that it came to by stepping over glyphs, one at least:
`Lexeme.Advances`, with one law for each combinator and one for each class of tokens.
-/
namespace CodeAtlas.Syntax.Lexeme

open Cursor

/-- What a recognizer matches leads forward, perhaps over nothing. -/
def Goes (lexeme : Lexeme) : Prop :=
  ∀ cursor last, lexeme cursor = some last → cursor.Reaches last

/-- What a recognizer matches is not empty. -/
def Advances (lexeme : Lexeme) : Prop :=
  ∀ cursor last, lexeme cursor = some last → cursor.Passes last

variable {first second : Lexeme} {accept : Char → Bool} {cursor last : Cursor}

/-! ## Combinators -/

/-- Matching something goes forward. -/
theorem Advances.goes (advances : first.Advances) : first.Goes :=
  fun cursor last found => (advances cursor last found).reaches

/-- One recognizer and then another go forward. -/
theorem Goes.then_ (before : first.Goes) (after : second.Goes) : (first.then_ second).Goes := by
  intro cursor last found
  obtain ⟨middle, left, right⟩ := Option.bind_eq_some_iff.mp found
  exact (before _ _ left).trans (after _ _ right)

/-- A recognizer that matches something and then another match something. -/
theorem Advances.then_ (before : first.Advances) (after : second.Goes) :
    (first.then_ second).Advances := by
  intro cursor last found
  obtain ⟨middle, left, right⟩ := Option.bind_eq_some_iff.mp found
  exact (before _ _ left).trans (after _ _ right)

/-- Either of two recognizers that match something matches something. -/
theorem Advances.orElse (left : first.Advances) (right : second.Advances) :
    (first.orElse second).Advances := by
  intro cursor last found
  rcases Option.or_eq_some_iff.mp found with found | ⟨_, found⟩
  · exact left _ _ found
  · exact right _ _ found

/-- The longer of two matches is one of them. -/
theorem Advances.longer (left : first.Advances) (right : second.Advances) :
    (first.longer second).Advances := by
  intro cursor last found
  rw [Lexeme.longer] at found
  cases one : first cursor with
  | none =>
    rw [one] at found
    exact right _ _ (by simpa using found)
  | some near =>
    cases other : second cursor with
    | none =>
      rw [one, other] at found
      exact left _ _ (one.trans (by simpa using found))
    | some far =>
      rw [one, other] at found
      simp only [Option.some.injEq] at found
      split at found
      · exact right _ _ (other.trans (congrArg some found))
      · exact left _ _ (one.trans (congrArg some found))

/-- A recognizer that may match nothing goes forward. -/
theorem Goes.optional (inner : first.Goes) : (Lexeme.optional first).Goes := by
  intro cursor last found
  unfold Lexeme.optional at found
  cases one : first cursor with
  | none =>
    rw [one] at found
    cases found
    exact .refl _
  | some near =>
    rw [one] at found
    cases found
    exact inner _ _ one

/-- A character of a class is there. -/
theorem isSome_of_startsWith (starts : startsWith cursor accept = true) :
    cursor.char?.isSome = true := by
  cases here : cursor.char? with
  | none => simp [startsWith, here] at starts
  | some char => rfl

/-- A character of a class is one of a wider class. -/
theorem startsWith_mono {wider : Char → Bool} (starts : startsWith cursor accept = true)
    (wide : ∀ char, accept char = true → wider char = true) : startsWith cursor wider = true := by
  unfold startsWith at *
  cases here : cursor.char? with
  | none => simp [here] at starts
  | some char => exact wide char (by simpa [here] using starts)

/-- A character of a class is not empty. -/
theorem advances_char (accept : Char → Bool) : (char accept).Advances := by
  intro cursor last found
  unfold char at found
  split at found
  · cases found
    exact passes_next (isSome_of_startsWith ‹_›)
  · contradiction

/-- Given characters are not empty, if there are any. -/
theorem advances_literal {text : String} (occupied : text.toList ≠ []) :
    (literal text).Advances :=
  fun _ _ found => passes_of_literal? found occupied

/-- Characters of a class go forward. -/
theorem goes_between (accept : Char → Bool) (least more : Nat) :
    (between accept least more).Goes := by
  intro cursor last found
  induction least, more, cursor using between.induct accept with
  | case1 least more cursor starts ih =>
    rw [between, if_pos starts] at found
    exact (reaches_next _).trans (ih found)
  | case2 least more cursor starts =>
    rw [between, if_neg starts] at found
    contradiction
  | case3 more cursor starts ih =>
    rw [between, if_pos starts] at found
    exact (reaches_next _).trans (ih found)
  | case4 more cursor starts =>
    rw [between, if_neg starts] at found
    cases found
    exact .refl _
  | case5 cursor =>
    rw [between] at found
    cases found
    exact .refl _

/-- Characters of a class are not empty, if one at least is asked for. -/
theorem advances_between (accept : Char → Bool) (least more : Nat) :
    (between accept (least + 1) more).Advances := by
  intro cursor last found
  rw [between] at found
  split at found
  · exact (passes_next (isSome_of_startsWith ‹_›)).trans (goes_between _ _ _ _ _ found)
  · contradiction

/-- A run of characters goes forward. -/
theorem reaches_run (cursor : Cursor) (accept : Char → Bool) : cursor.Reaches (run cursor accept) :=
  reaches_skipWhile _ _

/-- A run that begins with a character of the class is not empty. -/
theorem passes_run (starts : startsWith cursor accept = true) :
    cursor.Passes (run cursor accept) := by
  cases here : cursor.rest with
  | nil => simp [startsWith, char?, here] at starts
  | cons glyph rest =>
    refine passes_skipWhile here ?_
    simp only [startsWith, char?, here] at starts
    split at starts
    · contradiction
    · rename_i whole
      simpa [Glyph.isIn, whole] using starts

/-! ## Names -/

/-- A character written by its code is not empty. -/
theorem advances_nameEscape : nameEscape.Advances := by
  intro cursor last found
  obtain ⟨middle, opening, found⟩ := Option.bind_eq_some_iff.mp found
  refine (passes_of_literal? opening (by simp)).trans ?_
  split at found
  · obtain ⟨digits, digit, found⟩ := Option.bind_eq_some_iff.mp found
    dsimp only at found
    split at found
    · cases found
      exact (reaches_next _).trans (((advances_char _).goes _ _ digit).trans
        ((reaches_run _ _).trans (reaches_next _)))
    · contradiction
  · exact goes_between _ _ _ _ _ found

/-- The rest of a name goes forward. -/
theorem reaches_nameRest (bound : List Glyph) (cursor : Cursor) :
    cursor.Reaches (nameRest bound cursor) := by
  induction bound generalizing cursor with
  | nil => exact .refl _
  | cons glyph bound ih =>
    rw [nameRest]
    refine (reaches_run cursor isNamePart).trans ?_
    split
    · exact (advances_nameEscape.goes _ _ ‹_›).trans (ih _)
    · exact .refl _

/-- A name is not empty. -/
theorem advances_name : name.Advances := by
  intro cursor last found
  unfold name at found
  split at found
  · rename_i next start
    cases found
    refine Passes.trans ?_ (reaches_nameRest _ _)
    rcases Option.or_eq_some_iff.mp start with start | ⟨_, start⟩
    · exact advances_char _ _ _ start
    · exact advances_nameEscape _ _ start
  · contradiction

/-- A private name is not empty. -/
theorem advances_privateName : privateName.Advances :=
  (advances_literal (by decide)).then_ advances_name.goes

/-! ## Numbers -/

/-- More digits go forward. -/
theorem reaches_digitsRest (accept : Char → Bool) (bound : List Glyph) (cursor : Cursor) :
    cursor.Reaches (digitsRest accept bound cursor) := by
  induction bound generalizing cursor with
  | nil => exact .refl _
  | cons glyph bound ih =>
    rw [digitsRest]
    refine (reaches_run cursor accept).trans ?_
    split
    · exact (reaches_next _).trans (ih _)
    · exact .refl _

/-- Digits are not empty. -/
theorem advances_digits (accept : Char → Bool) : (digits accept).Advances := by
  intro cursor last found
  unfold digits at found
  split at found
  · rename_i starts
    cases found
    cases here : cursor.rest with
    | nil => simp [startsWith, char?, here] at starts
    | cons glyph rest =>
      rw [digitsRest]
      refine (passes_run starts).trans ?_
      split
      · exact (reaches_next _).trans (reaches_digitsRest _ _ _)
      · exact .refl _
  · contradiction

/-- A number with a base mark is not empty. -/
theorem advances_marked (marks : List Char) (accept : Char → Bool) :
    (marked marks accept).Advances :=
  (advances_literal (by decide)).then_
    ((advances_char _).then_ (advances_digits _).goes).goes

/-- An exponent is not empty. -/
theorem advances_exponent : exponent.Advances :=
  (advances_char _).then_ ((advances_char _).goes.optional.then_ (advances_digits _).goes)

/-- A number without a base mark is not empty. -/
theorem advances_decimal : decimal.Advances := by
  have point : (then_ (literal ".") (optional (digits isDigit))).Goes :=
    ((advances_literal (by decide)).then_ (advances_digits _).goes.optional).goes
  have power : (optional exponent).Goes := advances_exponent.goes.optional
  exact ((advances_digits _).then_ (point.optional.then_ power)).longer
    ((advances_literal (by decide)).then_ ((advances_digits _).goes.then_ power))

/-- A whole number is not empty. -/
theorem advances_whole : whole.Advances :=
  (advances_digits _).longer ((advances_marked _ _).longer
    ((advances_marked _ _).longer (advances_marked _ _)))

/-- A number is not empty. -/
theorem advances_number : number.Advances :=
  advances_decimal.longer (advances_whole.longer
    (advances_whole.then_ (advances_literal (by decide)).goes))

/-! ## Comments -/

/-- The rest of a block comment goes forward. -/
theorem reaches_blockCommentRest {rest : List Glyph} {offset row : Nat} {last : Cursor}
    (found : blockCommentRest rest offset row = some last) :
    Reaches ⟨rest, offset, row⟩ last := by
  induction rest generalizing offset row with
  | nil => contradiction
  | cons glyph rest ih =>
    refine .step rfl ?_
    cases rest with
    | nil => simp [blockCommentRest] at found
    | cons slash after =>
      rw [blockCommentRest] at found
      by_cases null : glyph.is '\x00' = true
      · rw [if_pos null] at found
        contradiction
      · rw [if_neg null] at found
        dsimp only at found
        by_cases closing : (glyph.is '*' && slash.is '/') = true
        · rw [if_pos closing] at found
          cases found
          -- A slash is no line feed, so the row stays.
          rw [Bool.and_eq_true] at closing
          exact .step_inline (Glyph.is_eq_false closing.2 (by decide)) (.refl _)
        · rw [if_neg closing] at found
          exact ih found

/-- A comment between marks is not empty. -/
theorem advances_blockComment : blockComment.Advances := by
  intro cursor last found
  obtain ⟨middle, opening, found⟩ := Option.bind_eq_some_iff.mp found
  exact (passes_of_literal? opening (by simp)).trans (reaches_blockCommentRest found)

/-- The rest of the line goes forward. -/
theorem reaches_restOfLine (cursor : Cursor) : cursor.Reaches (restOfLine cursor) :=
  reaches_skipWhile _ _

/-- A comment to the end of the line is not empty. -/
theorem advances_lineComment : lineComment.Advances := by
  intro cursor last found
  obtain ⟨middle, opening, rfl⟩ := Option.map_eq_some_iff.mp found
  exact (passes_of_literal? opening (by simp)).trans (reaches_restOfLine _)

/-- A comment is not empty. -/
theorem advances_comment : comment.Advances :=
  advances_lineComment.orElse advances_blockComment

/-- A comment between angle brackets is not empty. -/
theorem advances_htmlComment : htmlComment.Advances := by
  intro cursor last found
  obtain ⟨middle, opening, rfl⟩ := Option.map_eq_some_iff.mp found
  exact (((advances_literal (by decide)).orElse (advances_literal (by decide))) _ _ opening).trans
    (reaches_restOfLine _)

/-- The first line of a script is not empty. -/
theorem advances_hashBangLine : hashBangLine.Advances := by
  intro cursor last found
  obtain ⟨middle, opening, rfl⟩ := Option.map_eq_some_iff.mp found
  exact (passes_of_literal? opening (by decide)).trans (reaches_skipWhile _ _)

/-! ## Quoted text -/

/-- A character that is written with a backslash is not empty. -/
theorem advances_escape : escape.Advances := by
  intro cursor last found
  obtain ⟨middle, opening, found⟩ := Option.bind_eq_some_iff.mp found
  refine (passes_of_literal? opening (by simp)).trans ?_
  have next := reaches_next middle
  split at found
  · contradiction
  · split at found
    · exact next.trans (goes_between _ _ _ _ _ found)
    · split at found
      · split at found
        · obtain ⟨digits, digit, found⟩ := Option.bind_eq_some_iff.mp found
          dsimp only at found
          split at found
          · cases found
            exact next.trans ((reaches_next _).trans (((advances_char _).goes _ _ digit).trans
              ((reaches_run _ _).trans (reaches_next _))))
          · contradiction
        · exact next.trans (goes_between _ _ _ _ _ found)
      · split at found
        · exact goes_between _ _ _ _ _ found
        · split at found
          · contradiction
          · split at found
            · cases found
              split
              · exact next.trans (reaches_next _)
              · exact next
            · cases found
              exact next

/-- Blanks and comments go forward. -/
theorem reaches_gap (bound : List Glyph) (cursor : Cursor) : cursor.Reaches (gap bound cursor) := by
  induction bound generalizing cursor with
  | nil => exact .refl _
  | cons glyph bound ih =>
    rw [gap]
    refine (reaches_run cursor isBlank).trans ?_
    split
    · exact (advances_comment.goes _ _ ‹_›).trans (ih _)
    · exact .refl _

/-- The rest of a quoted string goes forward. -/
theorem goes_quotedRest (quote : Char) (bound : List Glyph) : (quotedRest quote bound).Goes := by
  induction bound with
  | nil =>
    intro cursor last found
    contradiction
  | cons glyph bound ih =>
    intro cursor last found
    rw [quotedRest] at found
    split at found
    · exact (advances_escape.goes _ _ ‹_›).trans (ih _ _ found)
    · dsimp only at found
      split at found
      · exact (reaches_skipWhile _ _).trans (ih _ _ found)
      · split at found
        · cases found
          exact (reaches_gap _ _).trans (reaches_next _)
        · contradiction

/-- A quoted string is not empty. -/
theorem advances_string : string.Advances := by
  intro cursor last found
  unfold string at found
  split at found
  · exact (passes_next_of_at? ‹_›).trans (goes_quotedRest _ _ _ _ found)
  · split at found
    · exact (passes_next_of_at? ‹_›).trans (goes_quotedRest _ _ _ _ found)
    · contradiction

/-- The characters of a template go forward. -/
theorem reaches_templateRun (rest : List Glyph) (offset row : Nat) :
    Reaches ⟨rest, offset, row⟩ (templateRun rest offset row) := by
  induction rest generalizing offset row with
  | nil => exact .refl _
  | cons glyph rest ih =>
    rw [templateRun]
    split
    · exact .refl _
    · split
      · exact .refl _
      · exact .step rfl (ih _ _)

/-- A place that is reached and has another offset is passed to. -/
theorem passes_of_offset_lt (reaches : cursor.Reaches last) (before : cursor.offset < last.offset) :
    cursor.Passes last := by
  cases reaches with
  | refl => exact absurd before (Nat.lt_irrefl _)
  | step here further => exact ⟨_, _, here, further⟩

/-- The characters of a template are not empty. -/
theorem advances_templateChars : templateChars.Advances := by
  intro cursor last found
  unfold templateChars at found
  dsimp only at found
  split at found
  · cases found
    exact passes_of_offset_lt (reaches_templateRun _ _ _) ‹_›
  · contradiction

/-- A character class of a regular expression goes forward. -/
theorem reaches_regexClass {rest : List Glyph} {offset row : Nat} {last : Cursor}
    (found : regexClass rest offset row = some last) : Reaches ⟨rest, offset, row⟩ last := by
  fun_induction regexClass rest offset row with
  | case1 => contradiction
  | case2 glyph rest offset row closing =>
    cases found
    exact .step_inline (Glyph.is_eq_false closing (by decide)) (.refl _)
  | case3 | case4 | case6 => contradiction
  | case5 glyph offset row _ plain _ escaped after content ih =>
    simp only [Bool.or_eq_true, not_or, Bool.not_eq_true] at plain content
    exact .step_inline plain.1 (.step_inline content.1 (ih found))
  | case7 glyph rest offset row _ plain _ ih =>
    simp only [Bool.or_eq_true, not_or, Bool.not_eq_true] at plain
    exact .step_inline plain.1 (ih found)

/-- The pattern of a regular expression goes forward. -/
theorem reaches_regexBody {bound : List Glyph} {cursor last : Cursor}
    (found : regexBody bound cursor = some last) : cursor.Reaches last := by
  induction bound generalizing cursor with
  | nil => contradiction
  | cons _ bound ih =>
    rw [regexBody] at found
    split at found
    · contradiction
    · rename_i glyph rest here
      split at found
      · cases found
        exact .refl _
      · split at found
        · contradiction
        · split at found
          · obtain ⟨middle, inner, found⟩ := Option.bind_eq_some_iff.mp found
            have opened : cursor = ⟨glyph :: rest, cursor.offset, cursor.row⟩ := by rw [← here]
            have plain := Glyph.is_eq_false ‹glyph.is '[' = true› (show '[' ≠ '\n' by decide)
            rw [opened]
            exact (Reaches.step_inline plain (reaches_regexClass inner)).trans (ih found)
          · split at found
            · split at found
              · split at found
                · contradiction
                · exact (reaches_next _).trans ((reaches_next _).trans (ih found))
              · contradiction
            · exact (reaches_next _).trans (ih found)

/-- A regular expression is not empty. -/
theorem advances_regex : regex.Advances := by
  intro cursor last found
  obtain ⟨first, opening, found⟩ := Option.bind_eq_some_iff.mp found
  obtain ⟨middle, body, found⟩ := Option.bind_eq_some_iff.mp found
  refine (passes_of_literal? opening (by simp)).trans ((reaches_regexBody body).trans ?_)
  split at found
  · cases found
    exact (reaches_next _).trans (reaches_run _ _)
  · contradiction

/-! ## Embedded elements -/

/-- A name with a hyphen is not empty. -/
theorem advances_hyphenName : hyphenName.Advances := by
  intro cursor last found
  unfold hyphenName at found
  dsimp only at found
  split at found
  · split at found
    · cases found
      refine (passes_run (startsWith_mono ‹_› fun char start => ?_)).trans (reaches_run _ _)
      rw [start, Bool.true_or]
    · contradiction
  · contradiction

/-- A name of an element is not empty. -/
theorem advances_elementName : elementName.Advances :=
  advances_hyphenName.longer advances_name

/-- A quoted attribute is not empty. -/
theorem advances_elementString : elementString.Advances := by
  intro cursor last found
  unfold elementString at found
  dsimp only at found
  split at found
  · split at found
    · cases found
      exact (passes_next_of_at? ‹_›).trans ((reaches_skipWhile _ _).trans (reaches_next _))
    · contradiction
  · split at found
    · split at found
      · cases found
        exact (passes_next_of_at? ‹_›).trans ((reaches_skipWhile _ _).trans (reaches_next _))
      · contradiction
    · contradiction

/-- An entity is not empty. -/
theorem advances_entity : entity.Advances := by
  have code : (orElse (then_ (char fun mark => mark = 'x' || mark = 'X') (between isHexDigit 1 5))
      (between isDigit 1 4)).Advances :=
    ((advances_char _).then_ (goes_between _ _ _)).orElse (advances_between _ _ _)
  have name : (orElse (then_ (literal "#") (orElse
      (then_ (char fun mark => mark = 'x' || mark = 'X') (between isHexDigit 1 5))
      (between isDigit 1 4))) (between (fun char => ('a' ≤ char && char ≤ 'z') ||
        ('A' ≤ char && char ≤ 'Z')) 1 29)).Advances :=
    ((advances_literal (by decide)).then_ code.goes).orElse (advances_between _ _ _)
  exact (advances_literal (by decide)).then_
    (name.goes.then_ (advances_literal (by decide)).goes)

/-- The text of an element goes forward. -/
theorem reaches_elementTextRun (rest : List Glyph) (offset row : Nat) (scan : TextScan) :
    Reaches ⟨rest, offset, row⟩ (elementTextRun rest offset row scan).1 := by
  induction rest generalizing offset row scan with
  | nil => exact .refl _
  | cons glyph rest ih =>
    rw [elementTextRun]
    split
    · exact .refl _
    · split
      · refine .step rfl ?_
        simp only [Cursor.after, if_pos ‹_›]
        exact ih _ _ _
      · refine .step rfl ?_
        simp only [Cursor.after, if_neg ‹_›]
        exact ih _ _ _

/-- The text of an element is not empty. -/
theorem advances_elementText : elementText.Advances := by
  intro cursor last found
  unfold elementText at found
  dsimp only at found
  split at found
  · rename_i seen
    cases found
    cases here : cursor.rest with
    | nil => simp [here, elementTextRun] at seen
    | cons glyph rest =>
      refine ⟨glyph, rest, here, ?_⟩
      rw [here, elementTextRun] at seen
      rw [elementTextRun]
      split
      · rename_i stops
        rw [if_pos stops] at seen
        contradiction
      · split
        · simp only [Cursor.after, if_pos ‹_›]
          exact reaches_elementTextRun _ _ _ _
        · simp only [Cursor.after, if_neg ‹_›]
          exact reaches_elementTextRun _ _ _ _
  · contradiction

/-! ## Operators -/

/-- An operator that is found is not empty. -/
theorem passes_of_operator? {text : String} (found : operator? cursor = some (text, last)) :
    cursor.Passes last := by
  obtain ⟨mark, member, found⟩ := List.exists_of_findSome?_eq_some found
  have occupied : ∀ mark ∈ operators, mark.toList ≠ [] := by decide
  split at found
  · rename_i end_ matched
    split at found
    · contradiction
    · cases found
      exact advances_literal (occupied _ member) _ _ matched
  · contradiction

end CodeAtlas.Syntax.Lexeme
