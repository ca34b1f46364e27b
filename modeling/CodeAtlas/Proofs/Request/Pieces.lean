import CodeAtlas.Proofs.Request.Body

/-!
# Code made of pieces

Code is read as plain text, string literals, comments and calls that write to the console. Each of
the three passes of compacting removes the pieces that it is meant for, as long as nothing else
looks like one of them: `stripped_of_undisturbed`. The passes know neither literals nor nesting, so
what looks alike is removed as well: `unstripped_lookalikes`.
-/
namespace CodeAtlas.Request

open Text

/-- A piece of code. -/
inductive Piece where
  /-- Text that is none of the others. -/
  | plain (text : List Char)
  /-- What stands between double quotes. -/
  | literal (text : List Char)
  /-- What stands between `/*` and `*/`. -/
  | block (text : List Char)
  /-- What stands between `//` and the end of the line. -/
  | line (text : List Char)
  /-- A call that writes to the console. -/
  | call (opening arguments : List Char)

namespace Piece

/-- What begins a comment that may go on across lines. -/
def openBlock : List Char := ['/', '*']

/-- What ends a comment that `openBlock` began. -/
def closeBlock : List Char := ['*', '/']

/-- What begins a comment that ends with its line. -/
def openLine : List Char := ['/', '/']

/-- A literal with its quotes. -/
def quoted (text : List Char) : List Char := '"' :: (text ++ ['"'])

/-- The characters of a piece. -/
def source : Piece → List Char
  | plain text => text
  | literal text => quoted text
  | block text => openBlock ++ (text ++ closeBlock)
  | line text => openLine ++ text ++ ['\n']
  | call opening arguments => opening ++ (arguments ++ [')', ';'])

/-- The characters of a piece without comments between marks; those that stand in the comment of a
line go as well. -/
def unblocked : Piece → List Char
  | block _ => []
  | line text => openLine ++ remove blockComment text ++ ['\n']
  | piece => source piece

/-- The characters of a piece without comments; the end of a line is no part of the comment. -/
def uncommented : Piece → List Char
  | line _ => ['\n']
  | piece => unblocked piece

/-- The characters of a piece without comments and calls. -/
def kept : Piece → List Char
  | call _ _ => []
  | piece => uncommented piece

/-- Whether characters have none of some marks among them. -/
def free (marks : String) (text : List Char) : Bool :=
  text.all fun char => !marks.toList.contains char

/-- Whether `depth` parentheses and those of a text are closed, none before it was opened. -/
def balanced : Nat → List Char → Bool
  | depth, [] => depth == 0
  | depth, char :: rest =>
    if char = '(' then balanced (depth + 1) rest
    else if char = ')' then depth != 0 && balanced (depth - 1) rest
    else balanced depth rest

/-- Whether a piece is what it should be. Plain text has no slashes, quotes and backticks and not
the word `console`, a literal no quote, backslash and line feed, a comment not its own end. The
arguments of a call have balanced parentheses and neither quotes nor slashes. -/
def isProper : Piece → Bool
  | plain text => free "/\"'`" text && (distanceTo? "console".toList text).isNone
  | literal text => free "\"\\\n" text
  | block text => (distanceTo? closeBlock text).isNone
  | line text => free "\n" text
  | call opening arguments =>
    consoleOpenings.contains opening && balanced 0 arguments && free "/\"'`" arguments

/-- Whether a call is opened in characters that others follow. -/
def opensCall (piece rest : List Char) : Bool :=
  consoleOpenings.any fun opening => opens opening [')'] piece rest

/-- Whether nothing in a piece looks like another one, with the pieces that follow. No comment is
opened in a literal; comments between marks that are opened in the comment of a line end there, and
none is opened by its own mark; no call is opened in plain text and literals once the comments are
gone; and the arguments of a call have no parentheses. -/
def isClear (after : List Piece) : Piece → Bool
  | plain text => !opensCall text (after.flatMap uncommented)
  | literal text =>
    !opens openBlock closeBlock (quoted text) (after.flatMap source) &&
      !opens openLine [] (quoted text) (after.flatMap unblocked) &&
        !opensCall (quoted text) (after.flatMap uncommented)
  | block _ => true
  | line text =>
    !opens openBlock closeBlock openLine (text ++ '\n' :: after.flatMap source) &&
      endsIn blockComment ('\n' :: after.flatMap source) text
  | call _ arguments => !arguments.contains '('

end Piece

open Piece

/-- Whether nothing in any piece looks like another one. -/
def undisturbed : List Piece → Bool
  | [] => true
  | piece :: after => piece.isClear after && undisturbed after

/-- Of code made of pieces, compacting leaves the plain text and the literals, but for white
space. -/
def Stripped (pieces : List Piece) : Prop :=
  compact (String.ofList (pieces.flatMap source)) =
    String.ofList (trim (squeeze (pieces.flatMap kept)))

/-! ## What the finders find -/

/-- A comment between marks goes up to the first mark that ends it. -/
theorem blockComment_eq_some_iff {chars : List Char} {length : Nat} :
    blockComment chars = some length ↔
      ∃ back place, chars = openBlock ++ back ∧ distanceTo? closeBlock back = some place ∧
        length = place + 4 := by
  constructor
  · intro found
    unfold blockComment at found
    split at found
    · rename_i back
      obtain ⟨place, closed, same⟩ := Option.map_eq_some_iff.mp found
      exact ⟨back, place, rfl, closed, same.symm⟩
    · cases found
  · rintro ⟨back, place, rfl, closed, rfl⟩
    exact congrArg (Option.map (· + 4)) closed

/-- A comment between marks is found without what follows it. -/
theorem local_blockComment : Local blockComment where
  some piece rest length found within := by
    obtain ⟨back, place, split, closed, rfl⟩ := blockComment_eq_some_iff.mp found
    have marks : openBlock.length = 2 ∧ closeBlock.length = 2 := ⟨rfl, rfl⟩
    have begins : openBlock <+: piece :=
      List.prefix_of_prefix_length_le (split ▸ List.prefix_append openBlock back)
        (List.prefix_append piece rest) (by omega)
    obtain ⟨front, rfl⟩ := begins
    rw [List.append_assoc] at split
    obtain rfl := List.append_cancel_left split
    rw [List.length_append] at within
    have inside := distanceTo?_of_append closed (by omega)
    exact blockComment_eq_some_iff.mpr ⟨front, place, rfl, inside, rfl⟩
  none piece rest nothing := by
    refine Option.eq_none_iff_forall_ne_some.mpr fun length found => ?_
    obtain ⟨back, place, rfl, closed, -⟩ := blockComment_eq_some_iff.mp found
    have inside : closeBlock <:+: back :=
      isSome_distanceTo?_iff.mp (closed ▸ Option.isSome_some)
    have further : closeBlock <:+: back ++ rest :=
      inside.trans (List.prefix_append back rest).isInfix
    obtain ⟨other, later⟩ := Option.isSome_iff_exists.mp (isSome_distanceTo?_iff.mpr further)
    have longer : blockComment (openBlock ++ back ++ rest) = some (other + 4) :=
      blockComment_eq_some_iff.mpr ⟨back ++ rest, other, List.append_assoc _ _ _, later, rfl⟩
    cases nothing.symm.trans longer

theorem delimited_blockComment : Delimited blockComment [openBlock] closeBlock := by
  intro chars found
  obtain ⟨length, same⟩ := Option.ne_none_iff_exists'.mp found
  obtain ⟨back, place, split, closed, -⟩ := blockComment_eq_some_iff.mp same
  exact ⟨openBlock, List.mem_singleton_self _, back, split, closed ▸ rfl⟩

theorem delimited_lineComment : Delimited lineComment [openLine] [] := by
  intro chars found
  unfold lineComment at found
  split at found
  · rename_i back
    refine ⟨openLine, List.mem_singleton_self _, back, rfl, ?_⟩
    cases back <;> rfl
  · exact absurd rfl found

theorem delimited_consoleCall : Delimited consoleCall consoleOpenings [')'] := by
  intro chars found
  unfold consoleCall at found
  cases first : consoleOpenings.find? (·.isPrefixOf chars) with
  | none =>
    rw [first] at found
    exact absurd rfl found
  | some opening =>
    have begins : opening.isPrefixOf chars = true := by simpa using List.find?_some first
    obtain ⟨back, split⟩ := List.isPrefixOf_iff_prefix.mp begins
    refine ⟨opening, List.mem_of_find?_eq_some first, back, split.symm, ?_⟩
    cases closed : distanceTo? [')'] back with
    | none =>
      rw [first, ← split] at found
      simp only [bind, Option.bind, List.drop_left, closed] at found
      exact absurd rfl found
    | some place => rfl

/-- A comment between marks is found up to the mark that ends it. -/
theorem blockComment_source {text : List Char} (proper : (block text).isProper = true)
    (rest : List Char) :
    blockComment ((block text).source ++ rest) = some (block text).source.length := by
  have unclosed : ¬ closeBlock <:+: text := by
    rw [← isSome_distanceTo?_iff, Bool.not_eq_true, Option.isSome_eq_false_iff]
    exact proper
  have first : distanceTo? closeBlock (text ++ (closeBlock ++ rest)) = some text.length := by
    refine distanceTo?_append fun tail filled suffix begins => ?_
    match tail, filled with
    | [char], _ =>
      -- The star of the mark is no slash.
      simp [closeBlock] at begins
    | char :: next :: tail, _ =>
      have within : closeBlock <+: char :: next :: tail :=
        List.prefix_of_prefix_length_le begins (List.prefix_append _ _) (by simp [closeBlock])
      exact unclosed (within.isInfix.trans suffix.isInfix)
  have whole : (block text).source ++ rest = '/' :: '*' :: (text ++ (closeBlock ++ rest)) := by
    simp [source, openBlock]
  have length : (block text).source.length = text.length + 4 := by
    simp [source, openBlock, closeBlock]
  rw [whole, length]
  exact blockComment_eq_some_iff.mpr ⟨_, _, rfl, first, rfl⟩

/-- A comment that ends with its line is found up to there. -/
theorem lineComment_source {text : List Char} (proper : (line text).isProper = true)
    (rest : List Char) :
    lineComment (openLine ++ text ++ '\n' :: rest) = some (openLine ++ text).length := by
  have within : ∀ char ∈ text, char ≠ '\n' := by simpa [isProper, free] using proper
  have stop : (text ++ '\n' :: rest).takeWhile (· ≠ '\n') = text := by
    rw [List.takeWhile_append_of_pos (by simpa using within)]
    simp
  have whole : openLine ++ text ++ '\n' :: rest = '/' :: '/' :: (text ++ '\n' :: rest) := by
    simp [openLine]
  rw [whole, lineComment, stop]
  simp [openLine]

/-- No text begins with two of the openings of calls. -/
theorem find?_consoleOpenings {opening : List Char} (known : opening ∈ consoleOpenings)
    (rest : List Char) :
    consoleOpenings.find? (·.isPrefixOf (opening ++ rest)) = some opening := by
  simp only [consoleOpenings, List.map_cons, List.map_nil, List.mem_cons, List.not_mem_nil,
    or_false] at known
  rcases known with rfl | rfl | rfl | rfl | rfl <;> rfl

/-- Balanced text in which no parenthesis is opened has none that is closed. -/
theorem not_mem_close {text : List Char} (balance : balanced 0 text = true) (flat : '(' ∉ text) :
    ')' ∉ text := by
  induction text with
  | nil => exact List.not_mem_nil
  | cons char rest ih =>
    obtain ⟨opened, later⟩ := not_or.mp (mt List.mem_cons.mpr flat)
    rw [balanced, if_neg (Ne.symm opened)] at balance
    split_ifs at balance with closed
    · cases balance
    · exact List.not_mem_cons_of_ne_of_not_mem (Ne.symm closed) (ih balance later)

/-- A call without parentheses in its arguments is found up to its semicolon. -/
theorem consoleCall_source {opening arguments : List Char}
    (proper : (call opening arguments).isProper = true) (flat : '(' ∉ arguments)
    (rest : List Char) :
    consoleCall ((call opening arguments).source ++ rest) =
      some (call opening arguments).source.length := by
  simp only [isProper, Bool.and_eq_true, List.contains_iff_mem] at proper
  obtain ⟨⟨known, balance⟩, -⟩ := proper
  have first : distanceTo? [')'] (arguments ++ ([')'] ++ ';' :: rest)) = some arguments.length := by
    refine distanceTo?_append fun tail filled suffix begins => ?_
    cases tail with
    | nil => exact filled rfl
    | cons char tail =>
      obtain ⟨rfl, -⟩ := List.cons_prefix_cons.mp begins
      exact not_mem_close balance flat (suffix.subset List.mem_cons_self)
  have whole : (call opening arguments).source ++ rest =
      opening ++ (arguments ++ ([')'] ++ ';' :: rest)) := by simp [source]
  have semicolon : ((arguments ++ ([')'] ++ ';' :: rest)).drop (arguments.length + 1)).head? =
      some ';' := by simp [← List.drop_drop]
  rw [whole, consoleCall, find?_consoleOpenings known]
  simp only [bind, Option.bind, List.drop_left, first, semicolon, if_true]
  have length : (call opening arguments).source.length =
      opening.length + (arguments.length + 2) := by simp [source]
  rw [length, Nat.add_assoc, Nat.add_assoc]

/-! ## What each pass removes -/

/-- A mark is not among characters that are free of it. -/
theorem not_mem_of_free {marks : String} {text : List Char} (clean : free marks text = true)
    {mark : Char} (known : mark ∈ marks.toList) : mark ∉ text := by
  intro member
  have other : (!marks.toList.contains mark) = true := List.all_eq_true.mp clean mark member
  rw [List.contains_iff_mem.mpr known] at other
  cases other

/-- The characters of a proper call have no slash. -/
theorem not_mem_source_call {opening arguments : List Char}
    (proper : (call opening arguments).isProper = true) :
    '/' ∉ (call opening arguments).source := by
  simp only [isProper, Bool.and_eq_true, List.contains_iff_mem] at proper
  obtain ⟨⟨known, -⟩, clean⟩ := proper
  have openings : consoleOpenings.all (free "/") = true := by decide
  have front : '/' ∉ opening :=
    not_mem_of_free (List.all_eq_true.mp openings opening known) (by decide)
  have between : '/' ∉ arguments := not_mem_of_free clean (by decide)
  simp [source, front, between]

variable {after : List Piece} {piece : Piece}

/-- The first pass removes comments between marks. -/
theorem remove_blockComment (proper : piece.isProper = true) (clear : piece.isClear after = true) :
    remove blockComment (piece.source ++ after.flatMap source) =
      piece.unblocked ++ remove blockComment (after.flatMap source) := by
  -- Only a comment opens between marks: elsewhere no slash stands, or what follows is clear.
  have stays {text : List Char}
      (unopened : opens openBlock closeBlock text (after.flatMap source) = false) :
      remove blockComment (text ++ after.flatMap source) =
        text ++ remove blockComment (after.flatMap source) :=
    remove_of_not_opens delimited_blockComment (List.forall_mem_singleton.mpr unopened)
  cases piece with
  | plain text =>
    rw [isProper, Bool.and_eq_true] at proper
    exact stays (opens_eq_false (not_mem_of_free proper.1 (by decide)))
  | literal text =>
    simp only [isClear, Bool.and_eq_true, Bool.not_eq_true'] at clear
    exact stays clear.1.1
  | block text => exact remove_stretch (List.cons_ne_nil _ _) (blockComment_source proper _)
  | line text =>
    simp only [isClear, Bool.and_eq_true, Bool.not_eq_true'] at clear
    have mark := remove_of_not_opens delimited_blockComment (List.forall_mem_singleton.mpr clear.1)
    have noSlash : '/' ∉ ['\n'] := by decide
    have lineEnd := stays (opens_eq_false noSlash)
    calc
      remove blockComment ((line text).source ++ after.flatMap source)
        = remove blockComment (openLine ++ (text ++ '\n' :: after.flatMap source)) := by
          simp [source]
      _ = openLine ++ remove blockComment (text ++ '\n' :: after.flatMap source) := mark
      _ = openLine ++ (remove blockComment text ++
            remove blockComment ('\n' :: after.flatMap source)) := by
          rw [remove_of_endsIn local_blockComment clear.2]
      _ = (line text).unblocked ++ remove blockComment (after.flatMap source) := by
          rw [← List.singleton_append, lineEnd]
          simp [unblocked]
  | call opening arguments => exact stays (opens_eq_false (not_mem_source_call proper))

/-- The second pass removes comments that end with their line. -/
theorem remove_lineComment (proper : piece.isProper = true) (clear : piece.isClear after = true) :
    remove lineComment (piece.unblocked ++ after.flatMap unblocked) =
      piece.uncommented ++ remove lineComment (after.flatMap unblocked) := by
  have stays {text : List Char}
      (unopened : opens openLine [] text (after.flatMap unblocked) = false) :
      remove lineComment (text ++ after.flatMap unblocked) =
        text ++ remove lineComment (after.flatMap unblocked) :=
    remove_of_not_opens delimited_lineComment (List.forall_mem_singleton.mpr unopened)
  cases piece with
  | plain text =>
    rw [isProper, Bool.and_eq_true] at proper
    exact stays (opens_eq_false (not_mem_of_free proper.1 (by decide)))
  | literal text =>
    simp only [isClear, Bool.and_eq_true, Bool.not_eq_true'] at clear
    exact stays clear.1.2
  | block text => rfl
  | line text =>
    let left := remove blockComment text
    have stillProper : (line left).isProper = true :=
      List.all_eq_true.mpr fun char member =>
        List.all_eq_true.mp proper char ((remove_sublist blockComment text).subset member)
    have whole : (line text).unblocked ++ after.flatMap unblocked =
        (openLine ++ left) ++ '\n' :: after.flatMap unblocked := by simp [unblocked, left]
    have gone : remove lineComment ((openLine ++ left) ++ '\n' :: after.flatMap unblocked) =
        remove lineComment ('\n' :: after.flatMap unblocked) :=
      remove_stretch (List.cons_ne_nil _ _) (lineComment_source stillProper _)
    have noSlash : '/' ∉ ['\n'] := by decide
    rw [whole, gone]
    exact stays (opens_eq_false noSlash)
  | call opening arguments => exact stays (opens_eq_false (not_mem_source_call proper))

/-- The third pass removes calls that write to the console. -/
theorem remove_consoleCall (proper : piece.isProper = true) (clear : piece.isClear after = true) :
    remove consoleCall (piece.uncommented ++ after.flatMap uncommented) =
      piece.kept ++ remove consoleCall (after.flatMap uncommented) := by
  have stays {text : List Char} (unopened : opensCall text (after.flatMap uncommented) = false) :
      remove consoleCall (text ++ after.flatMap uncommented) =
        text ++ remove consoleCall (after.flatMap uncommented) := by
    refine remove_of_not_opens delimited_consoleCall fun opening known => ?_
    exact Bool.eq_false_iff.mpr (List.any_eq_false.mp unopened opening known)
  cases piece with
  | plain text =>
    rw [isClear, Bool.not_eq_true'] at clear
    exact stays clear
  | literal text =>
    simp only [isClear, Bool.and_eq_true, Bool.not_eq_true'] at clear
    exact stays clear.2
  | block text => rfl
  | line text =>
    refine stays (List.any_eq_false.mpr fun opening known => ?_)
    have openings : consoleOpenings.all (·.head? == some 'c') = true := by decide
    have first : opening.head? = some 'c' :=
      beq_iff_eq.mp (List.all_eq_true.mp openings opening known)
    obtain ⟨rest, rfl⟩ := List.head?_eq_some_iff.mp first
    have noLetter : 'c' ∉ ['\n'] := by decide
    exact Bool.eq_false_iff.mp (opens_eq_false noLetter)
  | call opening arguments =>
    have flat : '(' ∉ arguments := by
      rw [isClear, Bool.not_eq_true'] at clear
      exact fun member => Bool.eq_false_iff.mp clear (List.contains_iff_mem.mpr member)
    have filled : (call opening arguments).source ≠ [] := by simp [source]
    exact remove_stretch filled (consoleCall_source proper flat _)

/-- Code made of pieces in which nothing looks like another one is stripped. -/
theorem stripped_of_undisturbed {pieces : List Piece} (proper : pieces.all isProper = true)
    (clear : undisturbed pieces = true) : Stripped pieces := by
  have passes : remove blockComment (pieces.flatMap source) = pieces.flatMap unblocked ∧
      remove lineComment (pieces.flatMap unblocked) = pieces.flatMap uncommented ∧
      remove consoleCall (pieces.flatMap uncommented) = pieces.flatMap kept := by
    induction pieces with
    | nil => exact ⟨rfl, rfl, rfl⟩
    | cons piece after ih =>
      rw [List.all_cons, Bool.and_eq_true] at proper
      rw [undisturbed, Bool.and_eq_true] at clear
      obtain ⟨blocks, lines, calls⟩ := ih proper.2 clear.2
      simp only [List.flatMap_cons]
      rw [remove_blockComment proper.1 clear.1, remove_lineComment proper.1 clear.1,
        remove_consoleCall proper.1 clear.1, blocks, lines, calls]
      exact ⟨rfl, rfl, rfl⟩
  obtain ⟨blocks, lines, calls⟩ := passes
  rw [Stripped, compact, String.toList_ofList, blocks, lines, calls]

/-- Code with a piece of every kind. -/
def annotated : List Piece :=
  [plain "let s = ".toList, literal "a b".toList, block " twice * ".toList, plain ";".toList,
    line " see /* above */ or /* below".toList, call "console.log(".toList "s, 1".toList,
    plain "\tf(s);".toList]

/-- Code with a piece of every kind is stripped. -/
theorem stripped_annotated :
    annotated.all isProper = true ∧ undisturbed annotated = true ∧ Stripped annotated ∧
      compact (String.ofList (annotated.flatMap source)) = "let s = \"a b\"; f(s);" := by
  have proper : annotated.all isProper = true := by decide +kernel
  have clear : undisturbed annotated = true := by decide +kernel
  exact ⟨proper, clear, stripped_of_undisturbed proper clear, by decide +kernel⟩

/-- Pieces of code of which some look like others: literals with a comment of either kind and with a
call, comments of lines with the opening of another one, in the text and in the mark, a call in the
arguments of a call, and text that a comment separates. -/
def lookalikes : List (List Piece) :=
  [[literal "http://x".toList, plain " + 1".toList],
    [literal "/* in string */".toList, plain " + 1".toList],
    [literal "console.log(1)".toList],
    [line " see /* above".toList, plain "f();".toList, block "".toList],
    [line "* twice */ f".toList],
    [call "console.log(".toList "f(1)".toList],
    [plain "con".toList, block "".toList, plain "sole.log(1)x".toList]]

/-- Code is not always stripped, although its pieces are what they should be. -/
theorem unstripped_lookalikes :
    lookalikes.all (·.all isProper) = true ∧ ∀ pieces ∈ lookalikes, ¬ Stripped pieces := by
  have differ : (lookalikes.all fun pieces =>
      compact (String.ofList (pieces.flatMap source)) !=
        String.ofList (trim (squeeze (pieces.flatMap kept)))) = true := by decide +kernel
  refine ⟨by decide +kernel, fun pieces member => ?_⟩
  exact bne_iff_ne.mp (List.all_eq_true.mp differ pieces member)

end CodeAtlas.Request
