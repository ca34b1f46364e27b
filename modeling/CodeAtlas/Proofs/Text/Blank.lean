import CodeAtlas.Text.Blank
import Mathlib.Data.List.Chain
import Mathlib.Data.List.TakeWhile

/-!
# White space around and between characters

Characters are neat if white space stands only as single blanks between others. Trimming takes white
space from both ends and nothing else, so that characters whose white space is single blanks become
neat: `neat_trim`.
-/
namespace CodeAtlas.Text

/-- Of two neighbours at most one is white space. -/
def Apart (left right : Char) : Prop := isSpace left = false ∨ isSpace right = false

/-- White space stands only as single blanks between other characters. -/
structure Neat (chars : List Char) : Prop where
  /-- No white space comes first. -/
  first : ∀ char ∈ chars.head?, isSpace char = false
  /-- None comes last. -/
  last : ∀ char ∈ chars.getLast?, isSpace char = false
  /-- All of it is blanks. -/
  blank : ∀ char ∈ chars, isSpace char = true → char = ' '
  /-- It never stands beside white space. -/
  single : chars.IsChain Apart

/-- The characters that are no white space. -/
def solid (chars : List Char) : List Char := chars.filter fun char => !isSpace char

/-! ## Trimming -/

/-- White space that is dropped at the front leaves none there. -/
theorem head?_trimStart (chars : List Char) :
    ∀ char ∈ (trimStart chars).head?, isSpace char = false := by
  intro char member
  have stopped := List.head?_dropWhile_not isSpace chars
  rw [trimStart, Option.mem_def] at member
  rw [member] at stopped
  simpa using stopped

/-- White space that is dropped at the end leaves none there. -/
theorem getLast?_trimEnd (chars : List Char) :
    ∀ char ∈ (trimEnd chars).getLast?, isSpace char = false := by
  have stopped := head?_trimStart chars.reverse
  rwa [← List.getLast?_reverse] at stopped

/-- Trimming at the end keeps what is in front. -/
theorem trimEnd_begins (chars : List Char) : trimEnd chars <+: chars := by
  have back : chars.reverse.dropWhile isSpace <:+ chars.reverse := List.dropWhile_suffix isSpace
  rwa [← List.reverse_prefix, List.reverse_reverse] at back

/-- Trimming leaves an unbroken stretch. -/
theorem trim_within (chars : List Char) : trim chars <:+: chars := by
  have front : trimStart chars <:+ chars := List.dropWhile_suffix isSpace
  exact (trimEnd_begins _).isInfix.trans front.isInfix

/-- White space that is dropped around characters leaves none in front of them. -/
theorem head?_trim (chars : List Char) : ∀ char ∈ (trim chars).head?, isSpace char = false := by
  intro char member
  obtain ⟨rest, whole⟩ := trimEnd_begins (trimStart chars)
  refine head?_trimStart chars char ?_
  rw [Option.mem_def, ← whole, List.head?_append, ← trim, Option.mem_def.mp member, Option.some_or]

/-- Characters that are no white space stay when it is dropped in front of them. -/
theorem mem_trimStart {chars : List Char} {char : Char} (member : char ∈ chars)
    (visible : isSpace char = false) : char ∈ trimStart chars := by
  rw [← List.takeWhile_append_dropWhile (p := isSpace) (l := chars), List.mem_append] at member
  rcases member with front | back
  · rw [List.mem_takeWhile_imp front] at visible
    contradiction
  · exact back

/-- Characters that are no white space stay when it is dropped around them. -/
theorem mem_trim {chars : List Char} {char : Char} (member : char ∈ chars)
    (visible : isSpace char = false) : char ∈ trim chars :=
  List.mem_reverse.mpr (mem_trimStart (List.mem_reverse.mpr (mem_trimStart member visible)) visible)

/-- Characters whose white space is single blanks are neat when they are trimmed. -/
theorem neat_trim {chars : List Char} (blank : ∀ char ∈ chars, isSpace char = true → char = ' ')
    (single : chars.IsChain Apart) : Neat (trim chars) where
  first := head?_trim chars
  last := getLast?_trimEnd (trimStart chars)
  blank char member := blank char ((trim_within chars).subset member)
  single := single.infix (trim_within chars)

end CodeAtlas.Text
