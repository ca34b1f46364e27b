import CodeAtlas.Proofs.Extract.Validity

/-!
# Faults are reported by their lines

A tree with a fault is a syntax error, and a tree without one never is. The error says on which line
the first fault of the tree begins, as a scan of all its nodes meets them, so that no syntax error
is without a line: `SourceParser.faults_reported`.
-/
namespace CodeAtlas

open Syntax

/-- The error says that a source does not follow its grammar. -/
def SourceError.IsSyntaxError : SourceError → Prop
  | .syntaxFault _ _ | .hiddenFault _ => True
  | .unsupported _ | .tooDeep _ | .invalidEntity _ => False

/-- The outcome of a source tells whether its tree has a fault, and where the first one is. -/
structure ReportsFaults (path : String) (root : Node) (outcome : Except SourceError Analysis) :
    Prop where
  /-- There is a syntax error exactly if a node of the tree is a fault. -/
  syntaxError_iff : (∃ error, outcome = .error error ∧ error.IsSyntaxError) ↔
    ∃ node ∈ root.preorder, node.isFault = true
  /-- Every syntax error has the line on which the first of those nodes begins. -/
  line_eq : ∀ error, outcome = .error error → error.IsSyntaxError →
    ∃ fault, root.preorder.find? (·.isFault) = some fault ∧
      error = .syntaxFault path (fault.span.startRow + 1)

namespace SourceParser

open Extract

variable {source : SourceFile} {root : Node} {levels : Nat}

/-- A tree of which a scan meets a fault that the search finds is a syntax error on the line of the
fault. -/
theorem ofTree_of_fault {fault : Node} (first : root.preorder.find? (·.isFault) = some fault)
    (found : root.firstError? levels = .ok (some fault)) :
    ofTree levels source root = .error (.syntaxFault source.path (fault.span.startRow + 1)) := by
  have faulty : root.hasError = true :=
    Node.hasError_iff.mpr ⟨fault, List.mem_of_find?_eq_some first, List.find?_some first⟩
  rw [ofTree, if_pos faulty, found]

/-- A tree of which a scan meets no fault is no syntax error. -/
theorem not_isSyntaxError_of_sound (sound : root.preorder.find? (·.isFault) = none)
    {error : SourceError} (failed : ofTree levels source root = .error error) :
    ¬ error.IsSyntaxError := by
  have clean : ¬ root.hasError = true := by
    rw [Node.hasError_iff]
    rintro ⟨node, inside, faulty⟩
    exact List.find?_eq_none.mp sound node inside faulty
  unfold ofTree at failed
  rw [if_neg clean] at failed
  dsimp only at failed
  split at failed
  · cases failed
  · cases failed
    exact id

/-- The outcome of a tree reports its faults, if the search finds what a scan meets first. -/
theorem reportsFaults_ofTree (source : SourceFile)
    (found : ∀ fault, root.preorder.find? (·.isFault) = some fault →
      root.firstError? levels = .ok (some fault)) :
    ReportsFaults source.path root (ofTree levels source root) := by
  cases first : root.preorder.find? (·.isFault) with
  | none =>
    refine ⟨⟨?_, ?_⟩, ?_⟩
    · rintro ⟨error, failed, syntaxError⟩
      exact absurd syntaxError (not_isSyntaxError_of_sound first failed)
    · rintro ⟨node, inside, faulty⟩
      exact absurd faulty (List.find?_eq_none.mp first node inside)
    · intro error failed syntaxError
      exact absurd syntaxError (not_isSyntaxError_of_sound first failed)
  | some fault =>
    have outcome : ofTree levels source root =
        .error (.syntaxFault source.path (fault.span.startRow + 1)) :=
      ofTree_of_fault first (found fault first)
    refine ⟨⟨fun _ => ?_, fun _ => ⟨_, outcome, trivial⟩⟩, fun error failed _ => ?_⟩
    · exact ⟨fault, List.mem_of_find?_eq_some first, List.find?_some first⟩
    · rw [outcome] at failed
      exact ⟨fault, first, (Except.error.inj failed).symm⟩

/-- With any number of levels the faults of a tree are reported, unless the first one stands on a
deeper level, which ends the search. -/
theorem ofTree_reports_or_tooDeep (source : SourceFile) (root : Node) (levels : Nat) :
    ReportsFaults source.path root (ofTree levels source root) ∨
      ∃ level fault, root.firstFault? = some (level, fault) ∧ levels < level ∧
        ofTree levels source root = .error (.tooDeep source.path) := by
  cases first : root.firstFault? with
  | none =>
    refine .inl (reportsFaults_ofTree source fun fault met => ?_)
    rw [← Node.map_firstFault?, first] at met
    contradiction
  | some found =>
    obtain ⟨level, fault⟩ := found
    have met : root.preorder.find? (·.isFault) = some fault := by
      rw [← Node.map_firstFault?, first]
      rfl
    have faulty : root.hasError = true :=
      Node.hasError_iff.mpr ⟨fault, List.mem_of_find?_eq_some met, List.find?_some met⟩
    have search : root.firstError? levels = Node.reached levels root.firstFault? :=
      Node.firstError?_eq (.inl faulty)
    rw [first] at search
    by_cases deep : level ≤ levels
    · refine .inl (reportsFaults_ofTree source fun other met' => ?_)
      rw [met] at met'
      cases met'
      rw [search, Node.reached_of_le deep]
    · refine .inr ⟨level, fault, rfl, Nat.lt_of_not_le deep, ?_⟩
      rw [ofTree, if_pos faulty, search, Node.reached_of_lt (Nat.lt_of_not_le deep)]

/-- In every tree the mark of an error tells of the nodes below, and a search for the first fault
with room enough finds what a scan of all nodes meets first; with less room it reports the same or
ends at a fault that stands too deep. So on a covered path a source is a syntax error exactly if its
tree has a fault, always with the line of the first one. -/
theorem faults_reported {parser : SourceParser} {path : String} {language : Language}
    (covered : parser.language? path = some language) (bytes : ByteArray) :
    (∀ root : Node,
      (∀ node ∈ root.preorder, node.hasError = true ↔
        ∃ each ∈ node.preorder, each.isFault = true) ∧
      (∃ enough, ∀ levels, enough ≤ levels →
        (root.hasError = true → ∃ fault, root.firstError? levels = .ok (some fault)) ∧
        root.firstError? levels = .ok (root.preorder.find? (·.isFault)) ∧
        ReportsFaults path root (ofTree levels ⟨path, language, bytes⟩ root)) ∧
      ∀ levels, ReportsFaults path root (ofTree levels ⟨path, language, bytes⟩ root) ∨
        ∃ level fault, root.firstFault? = some (level, fault) ∧ levels < level ∧
          ofTree levels ⟨path, language, bytes⟩ root = .error (.tooDeep path)) ∧
    ReportsFaults path (Syntax.parse language bytes.toList) (parser.parse bytes path) := by
  refine ⟨fun root => ⟨fun node _ => Node.hasError_iff, ?_,
    ofTree_reports_or_tooDeep ⟨path, language, bytes⟩ root⟩, ?_⟩
  · obtain ⟨enough, found⟩ := Node.exists_firstError?_eq_find? root
    refine ⟨enough, fun levels room => ⟨fun faulty => ?_, found levels room, ?_⟩⟩
    · obtain ⟨level, fault, first⟩ := Node.exists_firstFault? faulty
      refine ⟨fault, ?_⟩
      rw [found levels room, ← Node.map_firstFault?, first]
      rfl
    · refine reportsFaults_ofTree ⟨path, language, bytes⟩ fun fault met => ?_
      rw [found levels room, met]
  · rw [parse_of_covered covered]
    have enough : 2 ≤ parser.searching.levels := Nat.le_trans (by decide) parser.searching.roomy
    refine reportsFaults_ofTree ⟨path, language, bytes⟩ fun fault met => ?_
    rw [firstError?_parse enough, met]

/-- A source of two statements, of which the second lacks a value. -/
def unfinishedValue : ByteArray := "const a = 1;\nconst b = (;".toUTF8

/-- A source with a fault in its second statement is a syntax error on its second line. -/
theorem faults_reported_unfinishedValue :
    (typescript .least).language? "lib/b.ts" = some .typescript ∧
      (∃ node ∈ (Syntax.parse .typescript unfinishedValue.toList).preorder,
        node.isFault = true) ∧
      (typescript .least).parse unfinishedValue "lib/b.ts" = .error (.syntaxFault "lib/b.ts" 2) ∧
      ReportsFaults "lib/b.ts" (Syntax.parse .typescript unfinishedValue.toList)
        ((typescript .least).parse unfinishedValue "lib/b.ts") :=
  have covered : (typescript .least).language? "lib/b.ts" = some .typescript := by decide +kernel
  ⟨covered, Node.hasError_iff.mp (by decide +kernel), by decide +kernel,
    (faults_reported covered unfinishedValue).2⟩

end SourceParser

end CodeAtlas
