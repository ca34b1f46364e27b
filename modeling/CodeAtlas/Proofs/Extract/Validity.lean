import CodeAtlas.Proofs.Extract.Placement
import CodeAtlas.Proofs.Syntax.Clear
import CodeAtlas.SourceParser

/-!
# Sources have an analysis or a fault

The tree that is read from a source is enclosed in it, so that whatever is found in a source without
a syntax error is valid and in its place: `SourceParser.parse_extracts`. A tree with an error has a
fault that is found. A source of a covered language therefore has an analysis, or it has a syntax
error on some line: `SourceParser.parse_ok_or_syntaxFault`.
-/
namespace CodeAtlas

open Syntax

namespace Extract

/-- The extents of the tree of a source without a syntax error are those of the source. -/
theorem enclosed_parse (source : SourceFile)
    (readable : (parse source.language source.bytes.toList).hasError = false) :
    Enclosed source (parse source.language source.bytes.toList) := by
  have ordered := (parse_wellFormed readable).ordered
  refine ⟨fun node listed => ?_, fun node listed child below => ?_,
    fun node listed child below _ => ?_⟩
  · exact (parse_joined readable node listed).isOf (ordered node listed).le
  · obtain ⟨start_le, _, le_stop⟩ := (ordered node listed).bounds child below
    exact ⟨start_le, le_stop⟩
  · exact ((ordered node listed).bounds child below).2.1

end Extract

/-! ## Sources -/

namespace SourceParser

open Extract

/-- An enclosed tree without an error has its analysis: every entity of it is valid. -/
theorem ofTree_of_enclosed (levels : Nat) {source : SourceFile} {root : Node}
    (readable : root.hasError = false) (enclosed : Enclosed source root) :
    ofTree levels source root = .ok (source.analysis root) := by
  rw [ofTree, if_neg (ne_true_of_eq_false readable)]
  exact if_pos enclosed.analysis_placed.valid

/-- The tree of a source has an analysis, or a fault on some line that the search finds. -/
theorem ofTree_ok_or_syntaxFault {levels : Nat} (enough : 2 ≤ levels) (source : SourceFile)
    {root : Node} (tree : Syntax.parse source.language source.bytes.toList = root) :
    ofTree levels source root = .ok (source.analysis root) ∨
      ∃ line, ofTree levels source root = .error (.syntaxFault source.path line) := by
  subst tree
  by_cases faulty : (Syntax.parse source.language source.bytes.toList).hasError = true
  · obtain ⟨level, fault, first⟩ := Node.exists_firstFault? faulty
    have found : (Syntax.parse source.language source.bytes.toList).firstError? levels = _ :=
      firstError?_parse enough
    rw [← Node.map_firstFault?, first] at found
    rw [ofTree, if_pos faulty, found]
    exact .inr ⟨_, rfl⟩
  · have readable := eq_false_of_ne_true faulty
    exact .inl (ofTree_of_enclosed levels readable (enclosed_parse source readable))

/-- A source of a covered language is analyzed by its tree. -/
theorem parse_of_covered {parser : SourceParser} {path : String} {language : Language}
    (covered : parser.language? path = some language) (bytes : ByteArray) :
    parser.parse bytes path =
      ofTree parser.searching.levels ⟨path, language, bytes⟩
        (Syntax.parse language bytes.toList) := by
  unfold SourceParser.parse
  rw [covered]

/-- A source of a covered language has the analysis of a tree, or a syntax error on some line. -/
theorem parse_ok_or_syntaxFault {parser : SourceParser} {path : String} {language : Language}
    (covered : parser.language? path = some language) (bytes : ByteArray) :
    (∃ root, parser.parse bytes path = .ok (SourceFile.analysis ⟨path, language, bytes⟩ root)) ∨
      ∃ line, parser.parse bytes path = .error (.syntaxFault path line) := by
  rw [parse_of_covered covered]
  generalize tree : Syntax.parse language bytes.toList = root
  have enough : 2 ≤ parser.searching.levels := Nat.le_trans (by decide) parser.searching.roomy
  rcases ofTree_ok_or_syntaxFault enough ⟨path, language, bytes⟩ tree with analyzed | faulty
  · exact .inl ⟨root, analyzed⟩
  · exact .inr faulty

/-- The outcome of a source is the analysis of a tree, with every entity in its place. -/
structure Extracts (source : SourceFile) (root : Node) (outcome : Except SourceError Analysis) :
    Prop where
  /-- No entity is refused. -/
  outcome_eq : outcome = .ok (source.analysis root)
  /-- Entities have names and take lines of the source, methods those of their classes. -/
  placed : (source.analysis root).Placed (source.bytes.toList.count lineFeed)
  /-- In sources without types none is told. -/
  untyped : source.language = .javascript → (source.analysis root).Untyped

/-- An enclosed tree without an error is extracted. -/
theorem extracts_ofTree (levels : Nat) {source : SourceFile} {root : Node}
    (readable : root.hasError = false) (enclosed : Enclosed source root) :
    Extracts source root (ofTree levels source root) :=
  ⟨ofTree_of_enclosed levels readable enclosed, enclosed.analysis_placed, fun javascript =>
    SourceFile.analysis_untyped (congrArg Language.typed javascript) root⟩

/-- On a covered path the entities of a tree without an error are all valid and in their places, for
every tree that is enclosed in the source, and so for the tree that is read from the source. -/
theorem parse_extracts {parser : SourceParser} {path : String} {language : Language}
    (covered : parser.language? path = some language) (bytes : ByteArray) :
    (∀ levels, ∀ root : Node, root.hasError = false → Enclosed ⟨path, language, bytes⟩ root →
      Extracts ⟨path, language, bytes⟩ root (ofTree levels ⟨path, language, bytes⟩ root)) ∧
    ((Syntax.parse language bytes.toList).hasError = false →
      Extracts ⟨path, language, bytes⟩ (Syntax.parse language bytes.toList)
        (parser.parse bytes path)) := by
  refine ⟨fun levels root readable enclosed => extracts_ofTree levels readable enclosed,
    fun readable => ?_⟩
  rw [parse_of_covered covered]
  exact extracts_ofTree _ readable (enclosed_parse ⟨path, language, bytes⟩ readable)

/-- A source with a class over several lines, and a function on the line after it. -/
def linedClass : ByteArray :=
  ("class A \x7b\n  m(x) \x7b\n    return x;\n  \x7d\n  y = 1;\n\x7d\n" ++
    "const f = z => z;").toUTF8

/-- The method is placed on three of the six lines of its class, as its tree is enclosed. -/
theorem parse_extracts_linedClass :
    (javascript .least).language? "lib/a.js" = some .javascript ∧
      (Syntax.parse .javascript linedClass.toList).hasError = false ∧
      (SourceFile.classes ⟨"lib/a.js", .javascript, linedClass⟩
        (Syntax.parse .javascript linedClass.toList)).map
          (fun cls => (cls.location, cls.methods.map (·.location))) =
        [(⟨"lib/a.js", 1, 6⟩, [⟨"lib/a.js", 2, 4⟩])] ∧
      Extracts ⟨"lib/a.js", .javascript, linedClass⟩
        (Syntax.parse .javascript linedClass.toList)
        (ofTree 0 ⟨"lib/a.js", .javascript, linedClass⟩
          (Syntax.parse .javascript linedClass.toList)) ∧
      Extracts ⟨"lib/a.js", .javascript, linedClass⟩
        (Syntax.parse .javascript linedClass.toList)
        ((javascript .least).parse linedClass "lib/a.js") :=
  have covered : (javascript .least).language? "lib/a.js" = some .javascript := by decide +kernel
  have readable : (Syntax.parse .javascript linedClass.toList).hasError = false := by
    decide +kernel
  ⟨covered, readable, by decide +kernel,
    (parse_extracts covered linedClass).1 0 _ readable
      (enclosed_parse ⟨"lib/a.js", .javascript, linedClass⟩ readable),
    (parse_extracts covered linedClass).2 readable⟩

end SourceParser

end CodeAtlas
