import CodeAtlas.Proofs.Text.Blank
import Mathlib.Data.List.TakeWhile

/-!
# Lines and the texts that are joined of them

Splitting undoes joining: lines that hold no line boundary come back from the text that they are
joined to, `lines_joinLines`. White space around a text that begins and ends with other characters
is all that trimming takes away, `trim_surrounded`.
-/
namespace CodeAtlas.Text

/-- A line that no character of it ends. -/
def Unbroken (line : List Char) : Prop := ∀ char ∈ line, isLineBoundary char = false

/-- A line of which no character is found to end a line is unbroken. -/
theorem unbroken_of_all {line : List Char}
    (found : (line.all fun char => !isLineBoundary char) = true) : Unbroken line := by
  intro char inside
  simpa using List.all_eq_true.mp found char inside

/-! ## Joining -/

/-- Lines are joined by line feeds between them. -/
theorem joinLines_eq_intercalate (lines : List (List Char)) :
    joinLines lines = ['\n'].intercalate lines := by
  fun_induction joinLines lines with
  | case1 => rfl
  | case2 line => rw [List.intercalate_singleton]
  | case3 line rest more ih =>
    rw [List.intercalate_cons_of_ne_nil fun nothing => more nothing, ih]
    simp

/-- A line before others is joined to them by a line feed. -/
theorem joinLines_cons {line : List Char} {lines : List (List Char)} (more : lines ≠ []) :
    joinLines (line :: lines) = line ++ '\n' :: joinLines lines := by
  cases lines with
  | nil => contradiction
  | cons next lines => rfl

/-- What is joined of two parts is what is joined of each, with a line feed between. -/
theorem joinLines_append {front back : List (List Char)} (first : front ≠ []) (more : back ≠ []) :
    joinLines (front ++ back) = joinLines front ++ '\n' :: joinLines back := by
  induction front with
  | nil => contradiction
  | cons line front ih =>
    cases front with
    | nil => exact joinLines_cons more
    | cons next front =>
      rw [List.cons_append, joinLines_cons (by simp), ih (by simp),
        joinLines_cons (List.cons_ne_nil _ _), List.append_assoc, List.cons_append]

/-- Lines between a first and a last one are joined between line feeds. -/
theorem joinLines_framed {lines : List (List Char)} (occupied : lines ≠ []) (first last : List Char) :
    joinLines (first :: lines ++ [last]) = first ++ '\n' :: (joinLines lines ++ '\n' :: last) := by
  rw [joinLines_append (List.cons_ne_nil _ _) (List.cons_ne_nil _ _), joinLines_cons occupied,
    joinLines, List.append_assoc, List.cons_append]

/-- Joined lines begin as the first one does, unless it is empty. -/
theorem head?_joinLines {lines : List (List Char)} {first : List Char} {char : Char}
    (opens : first ∈ lines.head?) (begins : char ∈ first.head?) :
    (joinLines lines).head? = some char := by
  obtain ⟨rest, rfl⟩ := List.head?_eq_some_iff.mp opens
  cases rest with
  | nil => exact begins
  | cons next rest =>
    rw [joinLines_cons (List.cons_ne_nil _ _), List.head?_append, Option.mem_def.mp begins,
      Option.some_or]

/-- Joined lines end as the last one does, unless it is empty. -/
theorem getLast?_joinLines {lines : List (List Char)} {last : List Char} {char : Char}
    (closes : last ∈ lines.getLast?) (ends : char ∈ last.getLast?) :
    (joinLines lines).getLast? = some char := by
  obtain ⟨front, rfl⟩ := List.getLast?_eq_some_iff.mp closes
  cases front with
  | nil => exact ends
  | cons line front =>
    rw [joinLines_append (List.cons_ne_nil _ _) (List.cons_ne_nil _ _), List.getLast?_append,
      joinLines, List.getLast?_cons, Option.mem_def.mp ends]
    rfl

/-! ## Splitting -/

/-- Characters that do not end a line belong to the line so far. -/
theorem linesFrom_append {line : List Char} (unbroken : Unbroken line) (current rest : List Char) :
    linesFrom current (line ++ rest) = linesFrom (line.reverse ++ current) rest := by
  induction line generalizing current with
  | nil => rfl
  | cons char line ih =>
    obtain ⟨inside, others⟩ := List.forall_mem_cons.mp unbroken
    have plain : char ≠ '\r' := by
      rintro rfl
      exact absurd inside (by decide)
    rw [List.cons_append, linesFrom, if_neg (ne_true_of_eq_false inside), ih others,
      List.reverse_cons, List.append_assoc, List.singleton_append]
    exact fun _ carriage _ => plain carriage

/-- A line feed ends the line so far. -/
theorem linesFrom_lineFeed (current rest : List Char) :
    linesFrom current ('\n' :: rest) = current.reverse :: linesFrom [] rest := by
  rw [linesFrom, if_pos (by decide)]
  exact fun _ carriage _ => absurd carriage (by decide)

/-- A text without a line boundary is one line, unless it is empty. -/
theorem lines_of_unbroken {line : List Char} (unbroken : Unbroken line) (occupied : line ≠ []) :
    lines line = [line] := by
  have read := linesFrom_append unbroken [] []
  rw [List.append_nil, List.append_nil] at read
  rw [lines, read, linesFrom, if_neg (by simpa using occupied), List.reverse_reverse]

/-- Lines that hold no line boundary come back from the text that they are joined to, unless the
last one is empty. -/
theorem lines_joinLines {front : List (List Char)} {last : List Char}
    (unbroken : ∀ line ∈ front, Unbroken line) (ended : Unbroken last) (occupied : last ≠ []) :
    lines (joinLines (front ++ [last])) = front ++ [last] := by
  induction front with
  | nil => exact lines_of_unbroken ended occupied
  | cons line front ih =>
    obtain ⟨here, others⟩ := List.forall_mem_cons.mp unbroken
    have further := ih others
    rw [lines] at further
    rw [List.cons_append, joinLines_cons (by simp), lines, linesFrom_append here,
      linesFrom_lineFeed, further]
    simp

/-! ## Trimming -/

/-- Of white space nothing is left. -/
theorem trimStart_white {blank : List Char} (white : ∀ char ∈ blank, isSpace char = true) :
    trimStart blank = [] :=
  List.dropWhile_eq_nil_iff.mpr white

/-- White space before a text that begins with another character is dropped at the front. -/
theorem trimStart_append {blank chars : List Char} (white : ∀ char ∈ blank, isSpace char = true)
    (opens : ∀ char ∈ chars.head?, isSpace char = false) :
    trimStart (blank ++ chars) = chars := by
  rw [trimStart, List.dropWhile_append_of_pos white]
  cases chars with
  | nil => rfl
  | cons char chars => exact List.dropWhile_cons_of_neg (ne_true_of_eq_false (opens char rfl))

/-- White space after a text that ends with another character is dropped at the end. -/
theorem trimEnd_append {chars blank : List Char} (white : ∀ char ∈ blank, isSpace char = true)
    (closes : ∀ char ∈ chars.getLast?, isSpace char = false) :
    trimEnd (chars ++ blank) = chars := by
  have dropped : trimStart (blank.reverse ++ chars.reverse) = chars.reverse := by
    refine trimStart_append (fun char inside => white char (List.mem_reverse.mp inside)) ?_
    rwa [List.head?_reverse]
  rw [trimStart] at dropped
  rw [trimEnd, List.reverse_append, dropped, List.reverse_reverse]

/-- White space around a text that begins and ends with other characters is what is trimmed. -/
theorem trim_surrounded {before chars after : List Char}
    (front : ∀ char ∈ before, isSpace char = true) (back : ∀ char ∈ after, isSpace char = true)
    (opens : ∀ char ∈ chars.head?, isSpace char = false)
    (closes : ∀ char ∈ chars.getLast?, isSpace char = false) :
    trim (before ++ chars ++ after) = chars := by
  cases chars with
  | nil =>
    rw [List.append_nil, trim, trimStart_white (List.forall_mem_append.mpr ⟨front, back⟩)]
    rfl
  | cons char chars =>
    rw [trim, List.append_assoc, trimStart_append front (by simpa using opens),
      trimEnd_append back closes]

end CodeAtlas.Text
