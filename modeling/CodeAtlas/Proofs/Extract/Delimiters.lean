import CodeAtlas.Extract.Documentation
import CodeAtlas.Proofs.Text.Lines
import Mathlib.Data.List.Flatten

/-!
# Cleaning takes the delimiters off comments

Nothing but white space comes into a comment when it is cleaned, so what is left of it was between
its delimiters if both are dropped: `solid_clean`. Where nothing is between the delimiters they have
an asterisk in common, the opening one takes it, and the slash of the closing one stays:
`solid_clean_delimited_iff`.
-/
namespace CodeAtlas.Text

/-! ## Solid characters -/

/-- Solid characters of two parts are those of each. -/
theorem solid_append (front back : List Char) : solid (front ++ back) = solid front ++ solid back :=
  List.filter_append ..

/-- What is left of characters has solid characters of them. -/
theorem solid_sublist {some all : List Char} (left : some.Sublist all) :
    (solid some).Sublist (solid all) :=
  left.filter _

/-- White space in front is not solid. -/
theorem solid_cons_of_isSpace {char : Char} (white : isSpace char = true) (chars : List Char) :
    solid (char :: chars) = solid chars := by
  rw [solid, List.filter_cons_of_neg (by simp [white])]
  rfl

/-- What ends a line is white space. -/
theorem isSpace_of_isLineBoundary {char : Char} (ends : isLineBoundary char = true) :
    isSpace char = true := by
  simp only [isLineBoundary, Bool.or_eq_true, Bool.and_eq_true, decide_eq_true_eq] at ends
  simp only [isSpace, Bool.or_eq_true, Bool.and_eq_true, decide_eq_true_eq]
  omega

/-- Joining lines adds nothing solid. -/
theorem solid_joinLines (lines : List (List Char)) :
    solid (joinLines lines) = lines.flatMap solid := by
  fun_induction joinLines lines with
  | case1 => rfl
  | case2 line => rw [List.flatMap_singleton]
  | case3 line rest more ih =>
    rw [solid_append, solid_cons_of_isSpace (by decide), ih, List.flatMap_cons]

/-- Splitting into lines loses nothing solid. -/
theorem flatMap_solid_linesFrom (current chars : List Char) :
    (linesFrom current chars).flatMap solid = solid (current.reverse ++ chars) := by
  fun_induction linesFrom current chars with
  | case1 current empty =>
    rw [List.isEmpty_iff.mp empty]
    rfl
  | case2 current => rw [List.flatMap_singleton, List.append_nil]
  | case3 current rest ih =>
    have carriage : isSpace '\r' = true := by decide
    have lineFeed : isSpace '\n' = true := by decide
    rw [List.flatMap_cons, ih, solid_append current.reverse ('\r' :: _),
      solid_cons_of_isSpace carriage,
      solid_cons_of_isSpace lineFeed]
    rfl
  | case4 current char rest _ ends ih =>
    rw [List.flatMap_cons, ih, solid_append current.reverse (char :: rest),
      solid_cons_of_isSpace (isSpace_of_isLineBoundary ends)]
    rfl
  | case5 current char rest _ _ ih =>
    rw [ih, List.reverse_cons, List.append_assoc, List.singleton_append]

/-- The lines of a text have its solid characters. -/
theorem flatMap_solid_lines (chars : List Char) : (lines chars).flatMap solid = solid chars :=
  flatMap_solid_linesFrom [] chars

end CodeAtlas.Text

namespace CodeAtlas.Extract.Comment

open Text

/-- Of a line the leading asterisk and white space may be missing. -/
theorem dropAsterisk_sublist (line : List Char) : (dropAsterisk line).Sublist line := by
  have trimmed : (trimStart line).Sublist line := List.dropWhile_sublist _
  unfold dropAsterisk
  split
  · exact .refl line
  · rename_i begins
    rw [begins] at trimmed
    have inner := (List.sublist_cons_self '*' _).trans trimmed
    split
    · exact (List.sublist_cons_self _ _).trans inner
    · exact inner
  · exact List.nil_sublist line
  · exact .refl line

/-- What is solid in a cleaned comment is what is solid in it without its delimiters, or less. -/
theorem solid_clean (chars : List Char) :
    (solid (clean chars)).Sublist (solid (dropClosing (dropOpening chars))) := by
  have each : ((lines (dropClosing (dropOpening chars))).flatMap fun line =>
      solid (dropAsterisk line)).Sublist
        ((lines (dropClosing (dropOpening chars))).flatMap solid) :=
    List.Sublist.flatMap_right _ fun line _ => solid_sublist (dropAsterisk_sublist line)
  have joined := solid_joinLines ((lines (dropClosing (dropOpening chars))).map dropAsterisk)
  rw [List.flatMap_map] at joined
  rw [flatMap_solid_lines, ← joined] at each
  exact (solid_sublist (trim_within _).sublist).trans each

/-! ## Delimiters -/

/-- Characters between the delimiters of a comment. -/
def delimited (inner : List Char) : List Char := ['/', '*'] ++ inner ++ ['*', '/']

/-- A closing delimiter is dropped. -/
theorem dropClosing_append (inner : List Char) : dropClosing (inner ++ ['*', '/']) = inner := by
  rw [dropClosing, List.reverse_append]
  exact List.reverse_reverse inner

/-- A comment with something between its delimiters has that left without them, but for an asterisk
that it begins with. -/
theorem dropClosing_dropOpening_delimited {inner : List Char} (occupied : inner ≠ []) :
    (dropClosing (dropOpening (delimited inner))).Sublist inner := by
  obtain ⟨char, rest, rfl⟩ := List.exists_cons_of_ne_nil occupied
  by_cases star : char = '*'
  · subst star
    change (dropClosing (rest ++ ['*', '/'])).Sublist _
    rw [dropClosing_append]
    exact List.sublist_cons_self '*' rest
  · have opens : dropOpening (delimited (char :: rest)) = char :: rest ++ ['*', '/'] := by
      rw [delimited, List.append_assoc, List.cons_append, List.cons_append, dropOpening]
      · rfl
      · rintro _ ⟨⟩
        exact star rfl
    rw [opens, dropClosing_append]

/-- The slash of the closing delimiter stays if there is nothing before it. -/
theorem clean_delimited_nil : clean (delimited []) = ['/'] := by decide +kernel

/-- Cleaning a comment leaves solid characters of what is between its delimiters, in order, and no
others, exactly if there is something between them. -/
theorem solid_clean_delimited_iff (inner : List Char) :
    (solid (clean (delimited inner))).Sublist (solid inner) ↔ inner ≠ [] := by
  constructor
  · rintro kept rfl
    rw [clean_delimited_nil] at kept
    exact absurd kept (by decide)
  · intro occupied
    exact (solid_clean _).trans (solid_sublist (dropClosing_dropOpening_delimited occupied))

/-- The empty text closes no comment early, but the comment that holds it is not cleaned to it. -/
theorem solid_clean_delimited_empty :
    ¬['*', '/'] <:+: ([] : List Char) ∧ clean (delimited []) = ['/'] ∧
      ¬(solid (clean (delimited []))).Sublist (solid []) := by
  refine ⟨by decide, clean_delimited_nil, ?_⟩
  rw [clean_delimited_nil]
  decide

end CodeAtlas.Extract.Comment
