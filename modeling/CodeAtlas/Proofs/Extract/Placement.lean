import CodeAtlas.Proofs.Extract.Classes
import CodeAtlas.Proofs.Source.Decoding
import CodeAtlas.Proofs.Source.Extent

/-!
# Where entities stand

A tree is enclosed in a source if its extents are stretches of the source, each within that of the
node above, and the names in it are not empty. Whatever is found in such a tree has a name and takes
lines of the source, and methods take lines of their classes, whichever shape the tree has:
`Extract.Enclosed.analysis_placed`.
-/
namespace CodeAtlas

/-! ## Entities in their places -/

/-- A place takes lines of a source with some line feeds. -/
structure Location.InSource (feeds : Nat) (location : Location) : Prop where
  /-- Its first line is a line. -/
  one_le : 1 ≤ location.startLine
  /-- Its last line is not before its first one. -/
  ordered : location.startLine ≤ location.endLine
  /-- Its last line is one of the source. -/
  le_feeds : location.endLine ≤ 1 + feeds

/-- The lines of one place are among those of another. -/
structure Location.Encloses (outer inner : Location) : Prop where
  /-- It does not begin before the other. -/
  start_le : outer.startLine ≤ inner.startLine
  /-- It does not end after the other. -/
  le_end : inner.endLine ≤ outer.endLine

/-- A function has a name and takes lines of a source. -/
structure Function.Placed (feeds : Nat) (function : Function) : Prop where
  /-- It has a name. -/
  named : function.name ≠ ""
  /-- It takes lines of the source. -/
  inSource : function.location.InSource feeds

/-- A class has a name and takes lines of a source, among them those of its methods. -/
structure Class.Placed (feeds : Nat) (cls : Class) : Prop where
  /-- It has a name. -/
  named : cls.name ≠ ""
  /-- It takes lines of the source. -/
  inSource : cls.location.InSource feeds
  /-- Its methods are placed as functions are, on lines among its own. -/
  methods : ∀ method ∈ cls.methods, method.Placed feeds ∧ cls.location.Encloses method.location

/-- All entities have names and take lines of a source. -/
structure Analysis.Placed (feeds : Nat) (analysis : Analysis) : Prop where
  /-- Its functions are placed. -/
  functions : ∀ function ∈ analysis.functions, function.Placed feeds
  /-- Its classes are placed. -/
  classes : ∀ cls ∈ analysis.classes, cls.Placed feeds

variable {feeds : Nat}

/-- A function that is placed is valid. -/
theorem Function.Placed.valid {function : Function} (placed : function.Placed feeds) :
    function.Valid :=
  ⟨Wording.isName_string.mpr placed.named, placed.inSource.one_le, placed.inSource.ordered⟩

/-- Entities that are placed are valid. -/
theorem Analysis.Placed.valid {analysis : Analysis} (placed : analysis.Placed feeds) :
    analysis.Valid := by
  refine ⟨fun function listed => (placed.functions function listed).valid, fun cls listed => ?_⟩
  have own := placed.classes cls listed
  exact ⟨Wording.isName_string.mpr own.named, ⟨own.inSource.one_le, own.inSource.ordered⟩,
    fun method inside => (own.methods method inside).1.valid⟩

/-- A function says nothing of types. -/
structure Function.Untyped (function : Function) : Prop where
  /-- The type of its result is not known. -/
  returnType_eq : function.returnType = unresolvedType
  /-- The types of its parameters are not known. -/
  parameters : ∀ parameter ∈ function.parameters, parameter.type = unresolvedType

/-- A class says nothing of types. -/
structure Class.Untyped (cls : Class) : Prop where
  /-- Its methods say nothing of types. -/
  methods : ∀ method ∈ cls.methods, method.Untyped
  /-- The types of its fields are not known. -/
  properties : ∀ property ∈ cls.properties, property.type = unresolvedType

/-- Entities say nothing of types. -/
structure Analysis.Untyped (analysis : Analysis) : Prop where
  /-- Its functions say nothing of types. -/
  functions : ∀ function ∈ analysis.functions, function.Untyped
  /-- Its classes say nothing of types. -/
  classes : ∀ cls ∈ analysis.classes, cls.Untyped

/-! ## Texts -/

/-- The list of an array has as many bytes as the array. -/
theorem length_toList (bytes : ByteArray) : bytes.toList.length = bytes.size := by
  rw [toList_eq_data]
  rfl

/-- Bytes have a character, if there are any. -/
theorem Utf8.decodeChars_ne_nil {bytes : List UInt8} (occupied : bytes ≠ []) :
    decodeChars bytes ≠ [] := by
  cases bytes with
  | nil => contradiction
  | cons lead rest =>
    rw [decodeChars]
    split <;> simp

namespace Extract

open Syntax Focus

/-- An extent that is not empty has characters. -/
theorem SourceFile.chars_ne_nil (source : SourceFile) {span : Span}
    (occupied : span.start < span.stop) (within : span.stop ≤ source.bytes.size) :
    source.chars span ≠ [] := by
  refine Utf8.decodeChars_ne_nil fun nothing => ?_
  have length := length_toList (source.bytes.extract span.start span.stop)
  rw [nothing, ByteArray.size_extract, Nat.min_eq_left within] at length
  simp only [List.length_nil] at length
  omega

/-- A member has a name, if only that of what has none. -/
theorem SourceFile.memberName_ne_empty (source : SourceFile) (member : Node) (field : Field) :
    source.memberName member field ≠ "" := by
  unfold memberName
  dsimp only
  split
  · decide
  · rename_i occupied
    simpa using occupied

/-! ## Trees of a source -/

/-- The extents of a tree are those of a source. -/
structure Enclosed (source : SourceFile) (root : Node) : Prop where
  /-- The extents of all nodes are stretches of the source. -/
  isOf : ∀ node ∈ root.preorder, node.span.IsOf source.bytes.toList
  /-- The extents of children are within those of the nodes above. -/
  within : ∀ node ∈ root.preorder, ∀ child ∈ node.children, node.span.Within child.span
  /-- The tokens that name functions and classes are not empty. -/
  occupied : ∀ node ∈ root.preorder, ∀ child ∈ node.children,
    child.kind = .identifier ∨ child.kind = .typeIdentifier → child.span.start < child.span.stop

variable {source : SourceFile} {root : Node} {focus : Focus}

/-- The nodes below a place of a tree are nodes of the tree. -/
theorem Focus.Occurs.preorder_subset (occurs : Occurs root focus) :
    focus.node.preorder ⊆ root.preorder := by
  induction occurs with
  | root => exact List.Subset.refl _
  | child _ member ih =>
    exact fun node inside =>
      ih (Node.mem_preorder.mpr (.inr ⟨_, node_mem_children member, inside⟩))

/-- The node of a place of a tree is a node of the tree. -/
theorem Focus.Occurs.mem_preorder (occurs : Occurs root focus) : focus.node ∈ root.preorder :=
  occurs.preorder_subset (Node.mem_preorder.mpr (.inl rfl))

/-- The children of a place of a tree are nodes of the tree. -/
theorem Focus.Occurs.child_mem_preorder (occurs : Occurs root focus) {child : Node}
    (below : child ∈ focus.node.children) : child ∈ root.preorder :=
  occurs.preorder_subset
    (Node.mem_preorder.mpr (.inr ⟨child, below, Node.mem_preorder.mpr (.inl rfl)⟩))

/-- A function that is reported is at a place of the tree, and named by a node below a place. -/
theorem Reported.occurs {found : NamedFunction} (reported : Reported root found) :
    Occurs root found.focus ∧
      ∃ place, Occurs root place ∧ place.node.child? .name = some found.label := by
  cases reported with
  | declared occurs _ _ named _ => exact ⟨occurs, _, occurs, named⟩
  | bound occurs _ named _ value _ =>
    exact ⟨occurs.child (List.mem_of_find?_eq_some value), _, occurs, named⟩

/-- The kinds of tokens that name classes are those of tokens that are not empty. -/
theorem classNameKind_cases (language : Language) :
    classNameKind language = .identifier ∨ classNameKind language = .typeIdentifier := by
  cases language <;> simp [classNameKind, Language.typed]

namespace Enclosed

/-- Nodes of an enclosed tree take lines of the source. -/
theorem location_inSource (enclosed : Enclosed source root) {node : Node}
    (listed : node ∈ root.preorder) :
    (source.location node).InSource (source.bytes.toList.count lineFeed) := by
  have isOf := enclosed.isOf node listed
  have rows := isOf.startRow_le
  have last := isOf.stopRow_le
  refine ⟨Nat.le_add_left 1 _, Nat.succ_le_succ rows, ?_⟩
  rw [Nat.add_comm 1]
  exact Nat.succ_le_succ last

/-- A child of a child of a place takes lines among those of the place. -/
theorem location_encloses (enclosed : Enclosed source root) (occurs : Occurs root focus)
    {body member : Focus} (inside : body ∈ focus.children) (below : member ∈ body.children) :
    (source.location focus.node).Encloses (source.location member.node) := by
  have around := occurs.child inside
  have within := (enclosed.within _ occurs.mem_preorder _ (node_mem_children inside)).trans
    (enclosed.within _ around.mem_preorder _ (node_mem_children below))
  have outer := enclosed.isOf _ occurs.mem_preorder
  have inner := enclosed.isOf _ (around.child below).mem_preorder
  exact ⟨Nat.succ_le_succ (within.startRow_le outer inner),
    Nat.succ_le_succ (within.stopRow_le outer inner)⟩

/-- What names a place of an enclosed tree has a text. -/
theorem name_ne_empty (enclosed : Enclosed source root) (occurs : Occurs root focus) {label : Node}
    (named : focus.node.child? .name = some label)
    (kind : label.kind = .identifier ∨ label.kind = .typeIdentifier) : source.text label ≠ "" := by
  have below := List.mem_of_find?_eq_some named
  have occupied := enclosed.occupied _ occurs.mem_preorder label below kind
  have within := (enclosed.isOf label (occurs.child_mem_preorder below)).within
  rw [length_toList] at within
  have chars := source.chars_ne_nil occupied within
  exact fun nothing => chars (String.ofList_eq_empty_iff.mp nothing)

/-- Functions that are found in an enclosed tree are placed. -/
theorem functions_placed (enclosed : Enclosed source root) :
    ∀ function ∈ source.functions root, function.Placed (source.bytes.toList.count lineFeed) := by
  refine List.forall_mem_map.mpr fun found listed => ?_
  have reported := reported_of_mem_allFunctions (List.mem_mergeSort.mp listed)
  obtain ⟨occurs, place, outer, named⟩ := reported.occurs
  exact ⟨enclosed.name_ne_empty outer named (.inl reported.placed.1),
    enclosed.location_inSource occurs.mem_preorder⟩

/-- A class that is found in an enclosed tree is placed. -/
theorem classOf_placed (enclosed : Enclosed source root) {label : Node}
    (cls : ClassAt source.language root focus label)
    (kind : label.kind = classNameKind source.language) :
    (source.classOf focus label).Placed (source.bytes.toList.count lineFeed) := by
  refine ⟨enclosed.name_ne_empty cls.occurs cls.named ?_,
    enclosed.location_inSource cls.occurs.mem_preorder, ?_⟩
  · rw [kind]
    exact classNameKind_cases source.language
  · refine List.forall_mem_map.mpr fun member listed => ?_
    obtain ⟨body, found, below⟩ := mem_members.mp (List.mem_of_mem_filter listed)
    have inside := List.mem_of_find?_eq_some found
    have occurs := (cls.occurs.child inside).child below
    exact ⟨⟨source.memberName_ne_empty _ _, enclosed.location_inSource occurs.mem_preorder⟩,
      enclosed.location_encloses cls.occurs inside below⟩

/-- Everything that is found in an enclosed tree is placed. -/
theorem analysis_placed (enclosed : Enclosed source root) :
    (source.analysis root).Placed (source.bytes.toList.count lineFeed) := by
  refine ⟨enclosed.functions_placed, List.forall_mem_map.mpr fun entry listed => ?_⟩
  obtain ⟨cls, kind⟩ := classAt_of_mem_classNodes listed
  exact enclosed.classOf_placed cls kind

end Enclosed

/-! ## Untyped sources -/

namespace SourceFile

/-- No type is read in an untyped source. -/
theorem typeIn_eq (untyped : source.language.typed = false) (node : Node) (field : Field) :
    source.typeIn node field = unresolvedType := by
  rw [typeIn, untyped]
  rfl

/-- The types of parameters are not known in an untyped source. -/
theorem parameters_untyped (untyped : source.language.typed = false) (node : Node) :
    ∀ parameter ∈ source.parameters node, parameter.type = unresolvedType := by
  unfold parameters
  split
  · refine List.forall_mem_map.mpr fun child _ => ?_
    unfold parameter
    split
    · exact typeIn_eq untyped child .type
    · rfl
  · split
    · exact List.forall_mem_singleton.mpr rfl
    · exact List.forall_mem_nil _

/-- Functions of an untyped source say nothing of types. -/
theorem function_untyped (untyped : source.language.typed = false) (name : String)
    (focus : Focus) : (source.function name focus).Untyped :=
  ⟨typeIn_eq untyped focus.node .returnType, parameters_untyped untyped focus.node⟩

/-- What is found in an untyped source says nothing of types. -/
theorem analysis_untyped (untyped : source.language.typed = false) (root : Node) :
    (source.analysis root).Untyped := by
  refine ⟨List.forall_mem_map.mpr fun found _ => function_untyped untyped _ found.focus,
    List.forall_mem_map.mpr fun entry _ => ⟨?_, ?_⟩⟩
  · exact List.forall_mem_map.mpr fun member _ => function_untyped untyped _ member
  · exact List.forall_mem_map.mpr fun member _ => typeIn_eq untyped member.node .type

end SourceFile

end Extract

end CodeAtlas
