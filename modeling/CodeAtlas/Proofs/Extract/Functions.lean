import CodeAtlas.Extract.Declarations
import CodeAtlas.Proofs.Extract.Positions
import CodeAtlas.Proofs.Syntax.Parse
import Mathlib.Data.List.Flatten

/-!
# Which functions are reported

`Reported` says which nodes of a tree count as functions, without regard to how they are looked
for. Of a source without a syntax error the functions that are reported are exactly those, each
once, in the order of their beginnings: `SourceFile.functions_exact`.
-/
namespace CodeAtlas.Extract

open CodeAtlas.Syntax Focus

/-- A statement of the program, or the declaration that one exports. -/
def Focus.Exposed (focus : Focus) : Prop :=
  focus.above.map (·.kind) = [.program] ∨
    focus.above.map (·.kind) = [.exportStatement, .program] ∧
      focus.node.field = some .declaration

/-- A function of a tree with the node that names it and the place it is ordered by. -/
inductive Reported (root : Node) : NamedFunction → Prop where
  /-- A function or generator that the program declares or exports. -/
  | declared {focus : Focus} {label : Node} (occurs : Occurs root focus) (exposed : focus.Exposed)
      (kind : focus.node.kind = .functionDeclaration ∨
        focus.node.kind = .generatorFunctionDeclaration)
      (named : focus.node.child? .name = some label) (identifier : label.kind = .identifier) :
      Reported root ⟨focus, label, focus.start⟩
  /-- A function that is the value of a variable, wherever the variable is declared. -/
  | bound {binding focus : Focus} {label : Node} (occurs : Occurs root binding)
      (declarator : binding.node.kind = .variableDeclarator)
      (named : binding.node.child? .name = some label) (identifier : label.kind = .identifier)
      (value : binding.child? .value = some focus)
      (kind : focus.node.kind = .arrowFunction ∨ focus.node.kind = .functionExpression ∨
        focus.node.kind = .generatorFunction) :
      Reported root ⟨focus, label, label.span.start⟩

/-! ## What is looked for at one place -/

/-- The name of a node is the node in the place of the name, if it has the kind. -/
theorem nameOfKind?_eq_some {kind : Kind} {node label : Node} :
    nameOfKind? kind node = some label ↔ node.child? .name = some label ∧ label.kind = kind := by
  simp [nameOfKind?, Option.filter_eq_some_iff]

/-- A function is declared at a place that is a declaration with a name. -/
theorem declaredFunction?_eq_some {focus : Focus} {found : NamedFunction} :
    declaredFunction? focus = some found ↔
      (focus.node.kind = .functionDeclaration ∨
        focus.node.kind = .generatorFunctionDeclaration) ∧
      ∃ label, focus.node.child? .name = some label ∧ label.kind = .identifier ∧
        ⟨focus, label, focus.start⟩ = found := by
  unfold declaredFunction?
  by_cases declares : declaresFunction focus.node = true
  · rw [if_pos declares, Option.map_eq_some_iff]
    simp only [declaresFunction, Bool.or_eq_true, beq_iff_eq] at declares
    simp only [nameOfKind?_eq_some, declares, true_and, and_assoc]
    rfl
  · rw [if_neg declares]
    simp only [declaresFunction, Bool.or_eq_true, beq_iff_eq] at declares
    simp [declares]

/-- A function is bound at a place that is a variable with a name and a function as its value. -/
theorem boundFunction?_eq_some {binding : Focus} {found : NamedFunction} :
    boundFunction? binding = some found ↔
      binding.node.kind = .variableDeclarator ∧
      ∃ label focus, binding.node.child? .name = some label ∧ label.kind = .identifier ∧
        binding.child? .value = some focus ∧
        (focus.node.kind = .arrowFunction ∨ focus.node.kind = .functionExpression ∨
          focus.node.kind = .generatorFunction) ∧
        ⟨focus, label, label.span.start⟩ = found := by
  unfold boundFunction?
  by_cases declarator : binding.node.kind = .variableDeclarator
  · rw [if_pos (by simpa using declarator)]
    cases name : nameOfKind? .identifier binding.node with
    | none =>
      have missing (label : Node) : ¬ (binding.node.child? .name = some label ∧
          label.kind = .identifier) := by
        rw [← nameOfKind?_eq_some, name]
        simp
      simp only [reduceCtorEq, false_iff]
      rintro ⟨_, label, _, named, identifier, _⟩
      exact missing label ⟨named, identifier⟩
    | some label =>
      obtain ⟨named, identifier⟩ := nameOfKind?_eq_some.mp name
      cases value : binding.child? .value with
      | none => simp
      | some focus =>
        by_cases function : isFunctionValue focus.node = true
        · simp only [if_pos function, Option.some.injEq]
          simp only [isFunctionValue, Bool.or_eq_true, beq_iff_eq, or_assoc] at function
          simp [declarator, named, identifier, function]
        · simp only [if_neg function]
          simp only [isFunctionValue, Bool.or_eq_true, beq_iff_eq, or_assoc] at function
          simp [function]
  · rw [if_neg (by simpa using declarator)]
    simp [declarator]

/-! ## What is looked for in a tree -/

variable {language : Language} {root : Node}

/-- The functions of a statement are declared by it or by its children that it exports. -/
theorem mem_topLevelFunctions {statement : Focus} {found : NamedFunction} :
    found ∈ topLevelFunctions statement ↔ declaredFunction? statement = some found ∨
      statement.node.kind = .exportStatement ∧ ∃ focus ∈ statement.children,
        focus.node.field = some .declaration ∧ declaredFunction? focus = some found := by
  unfold topLevelFunctions
  rw [List.mem_append, Option.mem_toList]
  by_cases exporting : statement.node.kind = .exportStatement
  · simp [exporting, and_assoc]
  · simp [exporting]

/-- A place below others is the child of a place. -/
theorem Focus.Occurs.exists_parent {focus : Focus} (occurs : Occurs root focus) {step : Above}
    {above : List Above} (surroundings : focus.above = step :: above) :
    ∃ parent, Occurs root parent ∧ focus ∈ parent.children ∧ parent.node.kind = step.kind ∧
      parent.above = above := by
  cases occurs with
  | root => contradiction
  | @child parent _ inside member =>
    obtain ⟨_, _, _, around⟩ := mem_children.mp member
    rw [around] at surroundings
    obtain ⟨rfl, rfl⟩ := List.cons.inj surroundings
    exact ⟨parent, inside, member, rfl, rfl⟩

/-- The kinds above a child are that of its parent and those above the parent. -/
theorem Focus.map_kind_above {parent focus : Focus} (member : focus ∈ parent.children) :
    focus.above.map (·.kind) = parent.node.kind :: parent.above.map (·.kind) := by
  obtain ⟨_, _, _, above⟩ := mem_children.mp member
  rw [above]
  rfl

/-- A place with kinds above it is the child of one, with the others above that. -/
theorem Focus.Occurs.exists_parent_of_kinds {focus : Focus} (occurs : Occurs root focus)
    {kind : Kind} {kinds : List Kind} (above : focus.above.map (·.kind) = kind :: kinds) :
    ∃ parent, Occurs root parent ∧ focus ∈ parent.children ∧ parent.node.kind = kind ∧
      parent.above.map (·.kind) = kinds := by
  obtain ⟨step, rest, surroundings, rfl, rfl⟩ := List.map_eq_cons_iff.mp above
  obtain ⟨parent, inside, member, same, rfl⟩ := occurs.exists_parent surroundings
  exact ⟨parent, inside, member, same, rfl⟩

/-- Nothing is above the root only. -/
theorem Focus.Occurs.eq_root {focus : Focus} (occurs : Occurs root focus)
    (above : focus.above.map (·.kind) = []) : focus = ⟨root, []⟩ :=
  occurs.eq_of_above .root (List.map_eq_nil_iff.mp above)

/-- The statements of the program declare the functions at the places that are exposed. -/
theorem mem_flatMap_topLevelFunctions (program : root.kind = .program) {found : NamedFunction} :
    found ∈ (Focus.children ⟨root, []⟩).flatMap topLevelFunctions ↔
      ∃ focus, Occurs root focus ∧ focus.Exposed ∧ declaredFunction? focus = some found := by
  simp only [List.mem_flatMap, mem_topLevelFunctions]
  constructor
  · rintro ⟨statement, member, declared | ⟨exporting, focus, below, exported, declared⟩⟩
    · refine ⟨statement, Occurs.root.child member, .inl ?_, declared⟩
      rw [map_kind_above member, program]
      rfl
    · refine ⟨focus, (Occurs.root.child member).child below, .inr ⟨?_, exported⟩, declared⟩
      rw [map_kind_above below, map_kind_above member, exporting, program]
      rfl
  · rintro ⟨focus, occurs, above | ⟨above, exported⟩, declared⟩
    · obtain ⟨top, inside, member, _, nothing⟩ := occurs.exists_parent_of_kinds above
      rw [inside.eq_root nothing] at member
      exact ⟨focus, member, .inl declared⟩
    · obtain ⟨statement, inside, below, exporting, around⟩ := occurs.exists_parent_of_kinds above
      obtain ⟨top, outside, member, _, nothing⟩ := inside.exists_parent_of_kinds around
      rw [outside.eq_root nothing] at member
      exact ⟨statement, member, .inr ⟨exporting, focus, below, exported, declared⟩⟩

/-- A function that is bound at a place of a tree counts. -/
theorem reported_of_boundFunction? {binding : Focus} {found : NamedFunction}
    (occurs : Occurs root binding) (bound : boundFunction? binding = some found) :
    Reported root found := by
  obtain ⟨declarator, label, focus, named, identifier, value, kind, rfl⟩ :=
    boundFunction?_eq_some.mp bound
  exact .bound occurs declarator named identifier value kind

/-- Exactly the functions that count are looked up. -/
theorem mem_allFunctions (program : root.kind = .program) {found : NamedFunction} :
    found ∈ allFunctions root ↔ Reported root found := by
  rw [allFunctions, if_pos (by simpa using program), List.mem_append,
    mem_flatMap_topLevelFunctions program, List.mem_filterMap]
  constructor
  · rintro (⟨focus, occurs, exposed, declared⟩ | ⟨binding, listed, bound⟩)
    · obtain ⟨kind, label, named, identifier, rfl⟩ := declaredFunction?_eq_some.mp declared
      exact .declared occurs exposed kind named identifier
    · exact reported_of_boundFunction? (mem_descendants_iff.mp listed) bound
  · rintro (⟨occurs, exposed, kind, named, identifier⟩ |
      ⟨occurs, declarator, named, identifier, value, kind⟩)
    · exact .inl ⟨_, occurs, exposed,
        declaredFunction?_eq_some.mpr ⟨kind, _, named, identifier, rfl⟩⟩
    · exact .inr ⟨_, mem_descendants_iff.mpr occurs,
        boundFunction?_eq_some.mpr ⟨declarator, _, _, named, identifier, value, kind, rfl⟩⟩

/-- What is looked up counts, even in a tree that is no program. -/
theorem reported_of_mem_allFunctions {found : NamedFunction} (listed : found ∈ allFunctions root) :
    Reported root found := by
  by_cases program : root.kind = .program
  · exact (mem_allFunctions program).mp listed
  · rw [allFunctions, if_neg (by simpa using program), List.nil_append] at listed
    obtain ⟨binding, inside, bound⟩ := List.mem_filterMap.mp listed
    exact reported_of_boundFunction? (mem_descendants_iff.mp inside) bound

/-! ## Their order -/

/-- A function that is declared at a place begins where the place does, which is a declaration. -/
theorem declares_of_declaredFunction? {focus : Focus} {found : NamedFunction}
    (declared : declaredFunction? focus = some found) :
    focus.Declares ∧ focus.node.kind ≠ .variableDeclarator ∧ found.start = focus.start := by
  obtain ⟨kind, label, _, _, rfl⟩ := declaredFunction?_eq_some.mp declared
  rcases kind with kind | kind <;> simp [Declares, kind, Kind.isDeclaration]

/-- A function that is bound at a place begins where the place does, which is a declaration. -/
theorem declares_of_boundFunction? (wellFormed : root.WellFormed language) {binding : Focus}
    {found : NamedFunction} (occurs : Occurs root binding)
    (bound : boundFunction? binding = some found) :
    binding.Declares ∧ binding.node.kind = .variableDeclarator ∧ found.start = binding.start := by
  obtain ⟨declarator, label, focus, named, _, _, _, rfl⟩ := boundFunction?_eq_some.mp bound
  refine ⟨by rw [Declares, declarator]; rfl, declarator, ?_⟩
  rcases occurs.eq_root_or_sound wellFormed with rfl | sound
  · rw [wellFormed.program] at declarator
    contradiction
  · exact (sound binding.node (Node.mem_preorder.mpr (.inl rfl))).named declarator label named

/-- Places are listed among all places below them. -/
theorem sublist_flatMap_subtree (places : List Focus) :
    places.Sublist (places.flatMap subtree) := by
  induction places with
  | nil => exact .slnil
  | cons place places ih =>
    rw [List.flatMap_cons, subtree_eq]
    exact (ih.trans (List.sublist_append_right _ _)).cons_cons place

/-- The functions of a statement are declared at it and below it. -/
theorem topLevelFunctions_sublist_subtree (statement : Focus) :
    (topLevelFunctions statement).Sublist (statement.subtree.filterMap declaredFunction?) := by
  have here : (declaredFunction? statement).toList = [statement].filterMap declaredFunction? := by
    cases found : declaredFunction? statement <;> simp [found]
  rw [subtree_eq, ← List.singleton_append, List.filterMap_append, topLevelFunctions, here]
  refine (List.Sublist.refl _).append ?_
  split
  · exact (List.filter_sublist.trans (sublist_flatMap_subtree _)).filterMap _
  · exact List.nil_sublist _

/-- The functions that the program declares or exports are declared at its places. -/
theorem topLevelFunctions_sublist (root : Node) :
    ((Focus.children ⟨root, []⟩).flatMap topLevelFunctions).Sublist
      ((descendants root).filterMap declaredFunction?) := by
  have listed : descendants root = Focus.subtree ⟨root, []⟩ := rfl
  rw [listed, subtree_eq]
  refine List.Sublist.trans ?_ ((List.sublist_cons_self _ _).filterMap _)
  rw [List.filterMap_flatMap]
  exact List.Sublist.flatMap_right _ fun statement _ =>
    topLevelFunctions_sublist_subtree statement

/-- In a well-formed tree no two functions that are looked up begin together. -/
theorem allFunctions_apart (wellFormed : root.WellFormed language) :
    (allFunctions root).Pairwise fun first second => first.start ≠ second.start := by
  have ascending := descendants_ascending wellFormed
  rw [allFunctions, if_pos (by simpa using wellFormed.program), List.pairwise_append]
  refine ⟨?_, ?_, ?_⟩
  · refine List.Pairwise.sublist (topLevelFunctions_sublist root) ?_
    rw [List.pairwise_filterMap]
    refine ascending.imp fun {first second} before one declared other also => ?_
    obtain ⟨declares, _, start⟩ := declares_of_declaredFunction? declared
    obtain ⟨follows, _, starts⟩ := declares_of_declaredFunction? also
    have apart := before declares follows
    omega
  · rw [List.pairwise_filterMap]
    refine ascending.imp_of_mem fun {first second} listed also before one bound other again => ?_
    obtain ⟨declares, _, start⟩ :=
      declares_of_boundFunction? wellFormed (mem_descendants_iff.mp listed) bound
    obtain ⟨follows, _, starts⟩ :=
      declares_of_boundFunction? wellFormed (mem_descendants_iff.mp also) again
    have apart := before declares follows
    omega
  · intro one declared other bound same
    obtain ⟨focus, occurs, _, declared⟩ :=
      (mem_flatMap_topLevelFunctions wellFormed.program).mp declared
    obtain ⟨binding, listed, bound⟩ := List.mem_filterMap.mp bound
    have inside := mem_descendants_iff.mp listed
    obtain ⟨declares, plain, start⟩ := declares_of_declaredFunction? declared
    obtain ⟨binds, declarator, starts⟩ := declares_of_boundFunction? wellFormed inside bound
    have together : focus.start = binding.start := by omega
    rw [eq_of_start wellFormed occurs inside declares binds together] at plain
    exact plain declarator

/-- In a well-formed tree the functions are in the order of their beginnings. -/
theorem orderedFunctions_ascending (wellFormed : root.WellFormed language) :
    (orderedFunctions root).Pairwise fun first second => first.start < second.start := by
  have sorted : (orderedFunctions root).Pairwise fun first second =>
      decide (first.start ≤ second.start) = true :=
    List.pairwise_mergeSort (by simp; omega) (by simp; omega) _
  have apart : (orderedFunctions root).Pairwise fun first second => first.start ≠ second.start :=
    ((List.mergeSort_perm _ _).pairwise_iff fun {_ _} => Ne.symm).mpr
      (allFunctions_apart wellFormed)
  refine (sorted.and apart).imp fun {first second} both => ?_
  simp only [decide_eq_true_eq] at both
  omega

/-- No node is reported as two functions. -/
theorem Reported.eq_of_focus {first second : NamedFunction} (left : Reported root first)
    (right : Reported root second) (same : first.focus = second.focus) : first = second := by
  cases left with
  | declared _ _ kind named _ =>
    cases right with
    | declared _ _ _ also _ =>
      cases same
      rw [named] at also
      cases also
      rfl
    | bound _ _ _ _ _ other =>
      cases same
      rcases kind with kind | kind <;> simp [kind] at other
  | bound occurs _ named _ value kind =>
    cases right with
    | declared _ _ other _ _ =>
      cases same
      rcases other with other | other <;> simp [other] at kind
    | bound inside _ also _ again _ =>
      cases same
      obtain rfl := occurs.parent_unique inside (List.mem_of_find?_eq_some value)
        (List.mem_of_find?_eq_some again)
      rw [named] at also
      cases also
      rfl

/-- A function that is reported is a declaration in the program or in what it exports, or it is the
value of a variable; what names it is a plain name. -/
theorem Reported.placed {found : NamedFunction} (reported : Reported root found) :
    found.label.kind = .identifier ∧
      (declaresFunction found.focus.node = true ∧ found.focus.Exposed ∨
        isFunctionValue found.focus.node = true ∧
          found.focus.parentKind? = some .variableDeclarator ∧
          found.focus.node.field = some .value) := by
  cases reported with
  | declared _ exposed kind _ identifier =>
    exact ⟨identifier, .inl ⟨by simpa [declaresFunction] using kind, exposed⟩⟩
  | bound occurs declarator _ identifier value kind =>
    have member := List.mem_of_find?_eq_some value
    have field := List.find?_some value
    obtain ⟨_, _, _, above⟩ := mem_children.mp member
    refine ⟨identifier, .inr ⟨by simpa [isFunctionValue, or_assoc] using kind, ?_, ?_⟩⟩
    · simp [parentKind?, above, declarator]
    · simpa using field

/-- A list holds the functions that a source reports of a tree. -/
structure Functions (source : SourceFile) (root : Node) (found : List NamedFunction) : Prop where
  /-- The entities are made of them, one of each. -/
  functions_eq : source.functions root =
    found.map fun each => source.function (source.text each.label) each.focus
  /-- They are the functions that count. -/
  mem_iff (each : NamedFunction) : each ∈ found ↔ Reported root each
  /-- They are in the order of their beginnings. -/
  ascending : found.Pairwise fun first second => first.start < second.start
  /-- No node is among them twice. -/
  nodup : (found.map (·.focus)).Nodup
  /-- Declarations are only those of the program and of what it exports, other functions only the
  values of variables, and none is named by a pattern. -/
  placed : ∀ each ∈ found, each.label.kind = .identifier ∧
    (declaresFunction each.focus.node = true ∧ each.focus.Exposed ∨
      isFunctionValue each.focus.node = true ∧
        each.focus.parentKind? = some .variableDeclarator ∧ each.focus.node.field = some .value)

/-- In a well-formed tree the functions that are reported are those that count, each once, in the
order of their beginnings. -/
theorem SourceFile.functions_of_wellFormed (source : SourceFile)
    (wellFormed : root.WellFormed language) :
    Functions source root (orderedFunctions root) := by
  have listed (each : NamedFunction) : each ∈ orderedFunctions root ↔ Reported root each := by
    rw [orderedFunctions, List.mem_mergeSort, mem_allFunctions wellFormed.program]
  have ascending := orderedFunctions_ascending wellFormed
  refine ⟨rfl, listed, ascending, ?_, fun each inside => ((listed each).mp inside).placed⟩
  rw [List.nodup_iff_pairwise_ne, List.pairwise_map]
  refine ascending.imp_of_mem fun {first second} inside within before same => ?_
  rw [((listed first).mp inside).eq_of_focus ((listed second).mp within) same] at before
  exact Nat.lt_irrefl _ before

/-- Of every well-formed tree exactly the functions that count are reported, each once, in the order
of their beginnings, and so they are of every source that is read without a syntax error. -/
theorem SourceFile.functions_exact (source : SourceFile) :
    (∀ (language : Language) (root : Node), root.WellFormed language →
      ∃ found, Functions source root found) ∧
    ((parse source.language source.bytes.toList).hasError = false →
      ∃ found, Functions source (parse source.language source.bytes.toList) found) := by
  refine ⟨fun language root wellFormed => ?_, fun readable => ?_⟩
  · exact ⟨_, source.functions_of_wellFormed wellFormed⟩
  · exact ⟨_, source.functions_of_wellFormed (parse_wellFormed readable)⟩

/-- A source with a function that is exported and one in it, and two variables with functions, of
which one is a pattern. -/
def nestedFunctions : SourceFile where
  path := "nested.ts"
  language := .typescript
  bytes := ("export function f() \x7b function g() \x7b\x7d \x7d\n" ++
    "const a = () => 1, [b] = function () \x7b\x7d;").toUTF8

/-- Of a source with four functions those two are reported that are not nested and have a name. -/
theorem functions_nested :
    (parse nestedFunctions.language nestedFunctions.bytes.toList).hasError = false ∧
      (allFunctions (parse nestedFunctions.language nestedFunctions.bytes.toList)).map
        (nestedFunctions.text ·.label) = ["f", "a"] ∧
      ∃ found, Functions nestedFunctions
        (parse nestedFunctions.language nestedFunctions.bytes.toList) found :=
  have readable : (parse nestedFunctions.language nestedFunctions.bytes.toList).hasError = false :=
    by decide +kernel
  ⟨readable, by decide +kernel, nestedFunctions.functions_exact.2 readable⟩

end CodeAtlas.Extract
