import CodeAtlas.Extract.Documentation
import CodeAtlas.Proofs.Text.Lines

/-!
# Cleaning undoes the decoration of comments

`Comment.block` writes lines as a documentation comment: each behind an indentation and an asterisk,
between the delimiters. Cleaning gives the lines back as they were, with the blank ones and with the
blanks and asterisks that they begin with: `Comment.clean_block`.
-/
namespace CodeAtlas.Extract.Comment

open Text

/-- A line of a comment: the text behind an indentation, a blank, an asterisk and a blank. -/
def decorate (indent line : List Char) : List Char := indent ++ ' ' :: '*' :: ' ' :: line

/-- Lines as a documentation comment with an indentation. -/
def block (indent : List Char) (lines : List (List Char)) : List Char :=
  ['\n'].intercalate
    (['/', '*', '*'] :: lines.map (decorate indent) ++ [indent ++ [' ', '*', '/']])

/-- The characters that comments are indented by. -/
def Indents (indent : List Char) : Prop := ∀ char ∈ indent, char = ' ' ∨ char = '\t'

/-! ## One line -/

variable {indent line : List Char}

/-- An indentation is white space. -/
theorem Indents.white (indents : Indents indent) : ∀ char ∈ indent, isSpace char = true := by
  intro char inside
  rcases indents char inside with rfl | rfl <;> decide

/-- An indentation ends no line. -/
theorem Indents.unbroken (indents : Indents indent) : Unbroken indent := by
  intro char inside
  rcases indents char inside with rfl | rfl <;> decide

/-- A decorated line ends nowhere if the text does not. -/
theorem Indents.unbroken_decorate (indents : Indents indent) (unbroken : Unbroken line) :
    Unbroken (decorate indent line) := by
  have mark : Unbroken [' ', '*', ' '] := unbroken_of_all rfl
  exact List.forall_mem_append.mpr
    ⟨indents.unbroken, List.forall_mem_append.mpr ⟨mark, unbroken⟩⟩

/-- White space, an asterisk and a blank are dropped in front of a line, whatever it begins with. -/
theorem dropAsterisk_decorate (white : ∀ char ∈ indent, isSpace char = true) (line : List Char) :
    dropAsterisk (decorate indent line) = line := by
  have blank : ∀ char ∈ indent ++ [' '], isSpace char = true :=
    List.forall_mem_append.mpr ⟨white, List.forall_mem_singleton.mpr rfl⟩
  have begins : trimStart ((indent ++ [' ']) ++ '*' :: ' ' :: line) = '*' :: ' ' :: line :=
    trimStart_append blank (by simp; decide)
  rw [List.append_assoc] at begins
  change trimStart (decorate indent line) = _ at begins
  rw [dropAsterisk, begins]
  rfl

/-- A line of white space stays as it is. -/
theorem dropAsterisk_white (white : ∀ char ∈ line, isSpace char = true) :
    dropAsterisk line = line := by
  rw [dropAsterisk, trimStart_white white]

/-! ## A whole comment -/

/-- A documentation comment without its delimiters has what is between them left. -/
theorem dropClosing_dropOpening (inner : List Char) :
    dropClosing (dropOpening (['/', '*', '*'] ++ inner ++ ['*', '/'])) = inner := by
  change dropClosing (inner ++ ['*', '/']) = inner
  rw [dropClosing, List.reverse_append]
  change inner.reverse.reverse = inner
  exact List.reverse_reverse inner

variable {lines : List (List Char)}

/-- Between the delimiters of a comment are its decorated lines, after an empty one and before the
indentation of the closing delimiter. -/
theorem block_eq (occupied : lines ≠ []) (indent : List Char) :
    block indent lines = ['/', '*', '*'] ++
      joinLines ([] :: lines.map (decorate indent) ++ [indent ++ [' ']]) ++ ['*', '/'] := by
  have written : lines.map (decorate indent) ≠ [] := by simpa using occupied
  rw [block, ← joinLines_eq_intercalate, joinLines_framed written, joinLines_framed written]
  simp

/-- Without the asterisks of its lines a comment has the lines left that it was written from. -/
theorem map_dropAsterisk (indents : Indents indent) (lines : List (List Char)) :
    ([] :: lines.map (decorate indent) ++ [indent ++ [' ']]).map dropAsterisk =
      [] :: lines ++ [indent ++ [' ']] := by
  have ending : dropAsterisk (indent ++ [' ']) = indent ++ [' '] :=
    dropAsterisk_white (List.forall_mem_append.mpr
      ⟨indents.white, List.forall_mem_singleton.mpr rfl⟩)
  have inner : lines.map (dropAsterisk ∘ decorate indent) = lines := by
    conv_rhs => rw [← List.map_id lines]
    exact List.map_congr_left fun line _ => dropAsterisk_decorate indents.white line
  simp only [List.cons_append, List.map_cons, List.map_append, List.map_map, inner, ending,
    List.map_nil]
  rfl

/-- A documentation comment that was written from lines is cleaned to just these lines. They may
hold whatever ends no line, even what would close the comment; only the first must begin and the
last must end with something else than white space. -/
theorem clean_block (indents : Indents indent) (unbroken : ∀ line ∈ lines, Unbroken line)
    (opens : ∃ first ∈ lines.head?, ∃ char ∈ first.head?, isSpace char = false)
    (closes : ∃ last ∈ lines.getLast?, ∃ char ∈ last.getLast?, isSpace char = false) :
    clean (block indent lines) = ['\n'].intercalate lines := by
  obtain ⟨first, leads, one, begins, solid⟩ := opens
  obtain ⟨last, follows, other, ends, firm⟩ := closes
  have occupied : lines ≠ [] := by
    rintro rfl
    contradiction
  have split : Text.lines (joinLines ([] :: lines.map (decorate indent) ++ [indent ++ [' ']])) =
      [] :: lines.map (decorate indent) ++ [indent ++ [' ']] := by
    refine lines_joinLines (List.forall_mem_cons.mpr ⟨List.forall_mem_nil _, ?_⟩) ?_ (by simp)
    · exact List.forall_mem_map.mpr fun line inside =>
        indents.unbroken_decorate (unbroken line inside)
    · exact List.forall_mem_append.mpr
        ⟨indents.unbroken, List.forall_mem_singleton.mpr rfl⟩
  have around : joinLines ([] :: lines ++ [indent ++ [' ']]) =
      ['\n'] ++ joinLines lines ++ '\n' :: (indent ++ [' ']) := by
    rw [joinLines_framed occupied]
    simp
  have blank : ∀ char ∈ '\n' :: (indent ++ [' ']), isSpace char = true :=
    List.forall_mem_cons.mpr ⟨rfl, List.forall_mem_append.mpr
      ⟨indents.white, List.forall_mem_singleton.mpr rfl⟩⟩
  rw [← joinLines_eq_intercalate, clean, block_eq occupied, dropClosing_dropOpening, split,
    map_dropAsterisk indents, around]
  refine trim_surrounded (List.forall_mem_singleton.mpr rfl) blank ?_ ?_
  · rw [head?_joinLines leads begins]
    rintro char ⟨⟩
    exact solid
  · rw [getLast?_joinLines follows ends]
    rintro char ⟨⟩
    exact firm

/-- Lines that begin with an asterisk, with nothing, and with white space and a slash. -/
def oddLines : List (List Char) :=
  ["*starred".toList, [], "   /indented * ".toList, "@last".toList]

/-- Lines come back from a comment with the asterisks and the white space that they begin with. -/
theorem clean_block_oddLines :
    Indents ['\t', ' '] ∧ (∀ line ∈ oddLines, Unbroken line) ∧
      (∃ first ∈ oddLines.head?, ∃ char ∈ first.head?, isSpace char = false) ∧
      (∃ last ∈ oddLines.getLast?, ∃ char ∈ last.getLast?, isSpace char = false) ∧
      String.ofList (block ['\t', ' '] oddLines) =
        "/**\n\t  * *starred\n\t  * \n\t  *    /indented * \n\t  * @last\n\t  */" ∧
      clean (block ['\t', ' '] oddLines) = "*starred\n\n   /indented * \n@last".toList := by
  have indents : Indents ['\t', ' '] :=
    List.forall_mem_cons.mpr ⟨.inr rfl, List.forall_mem_singleton.mpr (.inl rfl)⟩
  have unbroken : ∀ line ∈ oddLines, Unbroken line :=
    List.forall_mem_cons.mpr ⟨unbroken_of_all rfl, List.forall_mem_cons.mpr
      ⟨unbroken_of_all rfl, List.forall_mem_cons.mpr
        ⟨unbroken_of_all rfl, List.forall_mem_singleton.mpr (unbroken_of_all rfl)⟩⟩⟩
  have opens : ∃ first ∈ oddLines.head?, ∃ char ∈ first.head?, isSpace char = false :=
    ⟨_, rfl, '*', rfl, rfl⟩
  have closes : ∃ last ∈ oddLines.getLast?, ∃ char ∈ last.getLast?, isSpace char = false :=
    ⟨_, rfl, 't', rfl, rfl⟩
  exact ⟨indents, unbroken, opens, closes, rfl, clean_block indents unbroken opens closes⟩

end CodeAtlas.Extract.Comment
