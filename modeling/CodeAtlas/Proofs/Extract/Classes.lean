import CodeAtlas.Proofs.Extract.Functions

/-!
# Which classes are reported

`ClassAt` says which nodes of a tree count as classes, and `Focus.IsMember` what belongs to one. In
a well-formed tree the classes that are reported are exactly those, each once, in the order of
their beginnings, and each with its own members: `SourceFile.classes_exact`.
-/
namespace CodeAtlas.Extract

open CodeAtlas.Syntax Focus

/-- A class declaration of a tree, at any depth, with the node that names it. -/
structure ClassAt (language : Language) (root : Node) (focus : Focus) (label : Node) : Prop where
  /-- It is a place of the tree. -/
  occurs : Occurs root focus
  /-- It is a class declaration, in typed sources perhaps an abstract one. -/
  kind : focus.node.kind = .classDeclaration ∨
    language.typed = true ∧ focus.node.kind = .abstractClassDeclaration
  /-- It has a name. -/
  named : focus.node.child? .name = some label

/-- A direct child of the body of a class. -/
def Focus.IsMember (focus member : Focus) : Prop :=
  ∃ body, focus.child? .body = some body ∧ member ∈ body.children

variable {language : Language} {root : Node}

/-- The members of a class are the direct children of its body. -/
theorem mem_members {focus member : Focus} :
    member ∈ SourceFile.members focus ↔ focus.IsMember member := by
  unfold SourceFile.members IsMember
  cases focus.child? .body <;> simp

/-- A class declaration is a declaration. -/
theorem ClassAt.declares {focus : Focus} {label : Node}
    (cls : ClassAt language root focus label) : focus.Declares := by
  rcases cls.kind with kind | ⟨_, kind⟩ <;> simp [Declares, kind, Kind.isDeclaration]

/-- A node declares a class if it is a class declaration, in typed sources perhaps an abstract
one. -/
theorem declaresClass_iff {node : Node} :
    declaresClass language node = true ↔ node.kind = .classDeclaration ∨
      language.typed = true ∧ node.kind = .abstractClassDeclaration := by
  simp [declaresClass]

/-- What is looked for at a place is a class declaration there with its name. -/
theorem entry_eq_some {place : Focus} {entry : Focus × Node} :
    (if declaresClass language place.node then
      (nameOfKind? (classNameKind language) place.node).map (place, ·) else none) = some entry ↔
      place = entry.1 ∧ declaresClass language place.node = true ∧
        nameOfKind? (classNameKind language) place.node = some entry.2 := by
  by_cases declares : declaresClass language place.node = true
  · rw [if_pos declares, Option.map_eq_some_iff]
    constructor
    · rintro ⟨label, named, rfl⟩
      exact ⟨rfl, declares, named⟩
    · rintro ⟨rfl, _, named⟩
      exact ⟨entry.2, named, rfl⟩
  · rw [if_neg declares]
    simp [declares]

/-- In a well-formed tree the name of a class is one of a class of the language. -/
theorem ClassAt.label_kind (wellFormed : root.WellFormed language) {focus : Focus} {label : Node}
    (cls : ClassAt language root focus label) : label.kind = classNameKind language := by
  have isClass : focus.node.kind.isClass = true := by
    rcases cls.kind with kind | ⟨_, kind⟩ <;> rw [kind] <;> rfl
  rcases cls.occurs.eq_root_or_sound wellFormed with rfl | sound
  · rw [wellFormed.program] at isClass
    contradiction
  · have headed := sound focus.node (Node.mem_preorder.mpr (.inl rfl))
    exact headed.labelled isClass label cls.named

/-- A class that is looked up counts, and has a name of a class of the language. -/
theorem classAt_of_mem_classNodes {entry : Focus × Node}
    (listed : entry ∈ classNodes language root) :
    ClassAt language root entry.1 entry.2 ∧ entry.2.kind = classNameKind language := by
  simp only [classNodes, List.mem_filterMap, entry_eq_some] at listed
  obtain ⟨_, inside, rfl, declares, label⟩ := listed
  obtain ⟨named, kind⟩ := nameOfKind?_eq_some.mp label
  exact ⟨⟨mem_descendants_iff.mp inside, declaresClass_iff.mp declares, named⟩, kind⟩

/-- In a well-formed tree exactly the classes that count are looked up. -/
theorem mem_classNodes (wellFormed : root.WellFormed language) {entry : Focus × Node} :
    entry ∈ classNodes language root ↔ ClassAt language root entry.1 entry.2 := by
  constructor
  · intro listed
    exact (classAt_of_mem_classNodes listed).1
  · intro cls
    simp only [classNodes, List.mem_filterMap, entry_eq_some]
    exact ⟨entry.1, mem_descendants_iff.mpr cls.occurs, rfl, declaresClass_iff.mpr cls.kind,
      nameOfKind?_eq_some.mpr ⟨cls.named, cls.label_kind wellFormed⟩⟩

/-- A place is a class under one name only. -/
theorem ClassAt.label_unique {focus : Focus} {first second : Node}
    (left : ClassAt language root focus first) (right : ClassAt language root focus second) :
    first = second :=
  Option.some.inj (left.named.symm.trans right.named)

/-- In a well-formed tree the classes are in the order of their beginnings. -/
theorem classNodes_ascending (wellFormed : root.WellFormed language) :
    (classNodes language root).Pairwise fun first second => first.1.start < second.1.start := by
  rw [classNodes, List.pairwise_filterMap]
  refine (descendants_ascending wellFormed).imp_of_mem
    fun {first second} listed also before one found other again => ?_
  have left := (mem_classNodes wellFormed).mp (List.mem_filterMap.mpr ⟨first, listed, found⟩)
  have right := (mem_classNodes wellFormed).mp (List.mem_filterMap.mpr ⟨second, also, again⟩)
  rw [(entry_eq_some.mp found).1, (entry_eq_some.mp again).1] at before
  exact before left.declares right.declares

/-- A member belongs to one class only. -/
theorem Focus.Occurs.owner_unique {first second member : Focus} (left : Occurs root first)
    (right : Occurs root second) (inside : first.IsMember member)
    (again : second.IsMember member) : first = second := by
  obtain ⟨body, found, member'⟩ := inside
  obtain ⟨other, also, member''⟩ := again
  have below := List.mem_of_find?_eq_some found
  have under := List.mem_of_find?_eq_some also
  obtain rfl := (left.child below).parent_unique (right.child under) member' member''
  exact left.parent_unique right below under

/-- The members of a class that a report holds: its methods and its properties are the direct
members of their kinds, in the order of their beginnings, and none is both. -/
structure HasMembers (source : SourceFile) (focus : Focus) (cls : Class)
    (methods properties : List Focus) : Prop where
  /-- The methods of the class are made of the methods among the members. -/
  methods_eq : cls.methods = methods.map source.method
  /-- The properties of the class are made of the properties among the members. -/
  properties_eq : cls.properties = properties.map source.property
  /-- The methods are the members that are method definitions. -/
  mem_methods (member : Focus) : member ∈ methods ↔
    focus.IsMember member ∧ member.node.kind = .methodDefinition
  /-- The properties are the members that are field definitions of the language. -/
  mem_properties (member : Focus) : member ∈ properties ↔
    focus.IsMember member ∧ member.node.kind = propertyKind source.language
  /-- The methods are in order. -/
  methods_ascending : methods.Pairwise fun first second => first.start < second.start
  /-- The properties are in order. -/
  properties_ascending : properties.Pairwise fun first second => first.start < second.start
  /-- No member is both. -/
  disjoint : methods.Disjoint properties

/-- In a well-formed tree the members of a class are in the order of their beginnings. -/
theorem members_ascending (wellFormed : root.WellFormed language) {focus : Focus}
    (occurs : Occurs root focus) :
    (SourceFile.members focus).Pairwise fun first second => first.start < second.start := by
  unfold SourceFile.members
  cases found : focus.child? .body with
  | none => exact .nil
  | some body =>
    have inside := occurs.child (List.mem_of_find?_eq_some found)
    have orderly := inside.orderly wellFormed
    refine orderly.pairwise.imp_of_mem fun {first second} member _ before => ?_
    have occupied := (orderly.bounds member).2.1
    omega

/-- In a well-formed tree a class is reported with its direct members. -/
theorem SourceFile.classOf_members (source : SourceFile) (wellFormed : root.WellFormed language)
    {focus : Focus} (occurs : Occurs root focus) (label : Node) :
    ∃ methods properties, HasMembers source focus (source.classOf focus label)
      methods properties := by
  have ascending := members_ascending wellFormed occurs
  have different : propertyKind source.language ≠ .methodDefinition := by
    unfold propertyKind
    split <;> decide
  refine ⟨_, _, {
    methods_eq := rfl
    properties_eq := rfl
    mem_methods := fun member => by simp [mem_members]
    mem_properties := fun member => by simp [mem_members]
    methods_ascending := ascending.filter _
    properties_ascending := ascending.filter _
    disjoint := ?_ }⟩
  intro member method property
  have isMethod := (List.mem_filter.mp method).2
  have isProperty := (List.mem_filter.mp property).2
  simp only [beq_iff_eq] at isMethod isProperty
  exact different (isProperty.symm.trans isMethod)

/-- A list holds the classes that a source reports of a tree, with their names. -/
structure Classes (source : SourceFile) (root : Node) (found : List (Focus × Node)) : Prop where
  /-- The entities are made of them, one of each. -/
  classes_eq : source.classes root = found.map fun each => source.classOf each.1 each.2
  /-- They are the classes that count. -/
  mem_iff (focus : Focus) (label : Node) :
    (focus, label) ∈ found ↔ ClassAt source.language root focus label
  /-- They are in the order of their beginnings. -/
  ascending : found.Pairwise fun first second => first.1.start < second.1.start
  /-- No node is among them twice. -/
  nodup : (found.map (·.1)).Nodup
  /-- None is a class in an expression. -/
  declared : ∀ each ∈ found, each.1.node.kind ≠ .classExpression
  /-- Each holds the methods and the properties among its direct members. -/
  members : ∀ each ∈ found, ∃ methods properties,
    HasMembers source each.1 (source.classOf each.1 each.2) methods properties
  /-- No member belongs to two of them. -/
  owner_unique : ∀ first ∈ found, ∀ second ∈ found, ∀ member, first.1.IsMember member →
    second.1.IsMember member → first = second

/-- In a well-formed tree the classes that are reported are those that count, each once, in the
order of their beginnings and with its own members. -/
theorem SourceFile.classes_of_wellFormed (source : SourceFile)
    (wellFormed : root.WellFormed source.language) :
    Classes source root (classNodes source.language root) := by
  have ascending := classNodes_ascending wellFormed
  refine ⟨rfl, fun focus label => mem_classNodes wellFormed, ascending, ?_, fun each listed => ?_,
    fun each listed => ?_, fun first listed second also member inside again => ?_⟩
  · rw [List.nodup_iff_pairwise_ne, List.pairwise_map]
    refine ascending.imp fun {first second} before same => ?_
    rw [same] at before
    exact Nat.lt_irrefl _ before
  · rcases ((mem_classNodes wellFormed).mp listed).kind with kind | ⟨_, kind⟩ <;> simp [kind]
  · exact source.classOf_members wellFormed ((mem_classNodes wellFormed).mp listed).occurs each.2
  · have left := (mem_classNodes wellFormed).mp listed
    have right := (mem_classNodes wellFormed).mp also
    have same := left.occurs.owner_unique right.occurs inside again
    rw [← same] at right
    exact Prod.ext same (left.label_unique right)

/-- Of every well-formed tree of a source's language exactly the classes that count are reported,
each once, in the order of their beginnings and with its own members, and so they are of every source
that is read without a syntax error. -/
theorem SourceFile.classes_exact (source : SourceFile) :
    (∀ root : Node, root.WellFormed source.language → ∃ found, Classes source root found) ∧
    ((parse source.language source.bytes.toList).hasError = false →
      ∃ found, Classes source (parse source.language source.bytes.toList) found) := by
  refine ⟨fun root wellFormed => ?_, fun readable => ?_⟩
  · exact ⟨_, source.classes_of_wellFormed wellFormed⟩
  · exact ⟨_, source.classes_of_wellFormed (parse_wellFormed readable)⟩

/-- A source with a class that has a class in its method and one as the value of its field. -/
def nestedClasses : SourceFile where
  path := "nested.js"
  language := .javascript
  bytes := ("class A \x7b m() \x7b class B \x7b n() \x7b\x7d \x7d \x7d " ++
    "x = class \x7b\x7d; \x7d").toUTF8

/-- The class in a method is reported with its own members, and the one in an expression not. -/
theorem classes_nested :
    (parse nestedClasses.language nestedClasses.bytes.toList).hasError = false ∧
      (nestedClasses.classes (parse nestedClasses.language nestedClasses.bytes.toList)).map
        (fun cls => (cls.name, cls.methods.map (·.name), cls.properties.map (·.name))) =
          [("A", ["m"], ["x"]), ("B", ["n"], [])] ∧
      ∃ found, Classes nestedClasses
        (parse nestedClasses.language nestedClasses.bytes.toList) found :=
  have readable : (parse nestedClasses.language nestedClasses.bytes.toList).hasError = false :=
    by decide +kernel
  ⟨readable, by decide +kernel, nestedClasses.classes_exact.2 readable⟩

end CodeAtlas.Extract
