import CodeAtlas.Proofs.Syntax.Terminal

/-!
# Trees built of drafts

A draft is laid between two offsets if its tokens and their comments stand in order there and its
constructs begin as constructs do. The tree that is built of it then has its parts in order, and
comments find their places between them: `Draft.Laid.outline`.
-/
namespace CodeAtlas.Syntax

open Node

namespace Draft

/-- The place of the draft in its parent. -/
def place : Draft → Option Field
  | .leaf _ field _ _ => field
  | .branch _ field _ => field

/-- A construct of a kind begins with a part that is written and declares nothing, a variable with
its name, and a class has no name but one of a class. -/
def Headed (language : Language) (kind : Kind) (children : List Draft) : Prop :=
  ∃ first rest, children = first :: rest ∧ first.kind ≠ .insertedSemicolon ∧
    first.kind.isDeclaration = false ∧ (kind = .variableDeclarator → first.place = some .name) ∧
    (kind.isClass = true → ∀ child ∈ children, child.place = some .name →
      child.kind = classLabel language)

mutual

/-- The tokens of a draft and their comments stand in order between two offsets, and its constructs
begin as constructs do. -/
def Laid (language : Language) (first last : Nat) : Draft → Prop
  | .leaf kind _ span trivia =>
    Chained first span.start (triviaNodes trivia) ∧ span.start ≤ span.stop ∧ span.stop ≤ last ∧
      (kind ≠ .insertedSemicolon → span.start < span.stop)
  | .branch kind _ children =>
    kind ≠ .insertedSemicolon ∧ Headed language kind children ∧
      LaidAll language first last children

/-- The drafts of a list are laid one after the other. -/
def LaidAll (language : Language) (first last : Nat) : List Draft → Prop
  | [] => first ≤ last
  | draft :: drafts =>
    ∃ middle, Laid language first middle draft ∧ LaidAll language middle last drafts

end

variable {language : Language} {first middle last : Nat} {draft : Draft} {drafts : List Draft}

mutual

/-- The offsets between which a draft is laid may be moved apart. -/
theorem Laid.widen {least most : Nat} : ∀ {first last : Nat} {draft : Draft},
    Laid language first last draft → least ≤ first → last ≤ most → Laid language least most draft
  | _, _, .leaf _ _ _ _, ⟨passed, forward, within, occupied⟩, before, after =>
    ⟨passed.widen before (Nat.le_refl _), forward, Nat.le_trans within after, occupied⟩
  | _, _, .branch _ _ _, ⟨written, headed, laid⟩, before, after =>
    ⟨written, headed, laid.widen before after⟩

/-- The offsets between which drafts are laid may be moved apart. -/
theorem LaidAll.widen {least most : Nat} : ∀ {first last : Nat} {drafts : List Draft},
    LaidAll language first last drafts → least ≤ first → last ≤ most →
      LaidAll language least most drafts
  | _, _, [], ordered, before, after => Nat.le_trans before (Nat.le_trans ordered after)
  | _, _, _ :: _, ⟨middle, laid, rest⟩, before, after =>
    ⟨middle, laid.widen before (Nat.le_refl _), rest.widen (Nat.le_refl _) after⟩

end

mutual

/-- A draft is laid forward. -/
theorem Laid.le : ∀ {first last : Nat} {draft : Draft},
    Laid language first last draft → first ≤ last
  | _, _, .leaf _ _ _ _, ⟨passed, forward, within, _⟩ =>
    Nat.le_trans passed.le (Nat.le_trans forward within)
  | _, _, .branch _ _ _, ⟨_, _, laid⟩ => laid.le

/-- Drafts are laid forward. -/
theorem LaidAll.le : ∀ {first last : Nat} {drafts : List Draft},
    LaidAll language first last drafts → first ≤ last
  | _, _, [], ordered => ordered
  | _, _, _ :: _, ⟨_, laid, rest⟩ => Nat.le_trans laid.le rest.le

end

/-- Drafts that are laid one after the other. -/
theorem LaidAll.append {left right : List Draft} (before : LaidAll language first middle left)
    (after : LaidAll language middle last right) : LaidAll language first last (left ++ right) := by
  induction left generalizing first with
  | nil => exact after.widen before (Nat.le_refl _)
  | cons draft drafts ih =>
    obtain ⟨between, laid, rest⟩ := before
    exact ⟨between, laid, ih rest⟩

/-- One draft that is laid. -/
theorem Laid.single (laid : Laid language first last draft) : LaidAll language first last [draft] :=
  ⟨last, laid, Nat.le_refl _⟩

/-- A draft stays what it is in a place. -/
theorem kind_inField (field : Field) (draft : Draft) :
    (draft.inField field).kind = draft.kind := by
  cases draft <;> rfl

/-- A draft in a place has the place. -/
theorem place_inField (field : Field) (draft : Draft) :
    (draft.inField field).place = some field := by
  cases draft <;> rfl

/-- The draft in a place is laid like the draft. -/
theorem Laid.inField (laid : Laid language first last draft) (field : Field) :
    Laid language first last (draft.inField field) := by
  cases draft <;> exact laid

/-- The drafts in a place are laid like the drafts. -/
theorem LaidAll.inField (laid : LaidAll language first last drafts) (field : Field) :
    LaidAll language first last (drafts.map (·.inField field)) := by
  induction drafts generalizing first with
  | nil => exact laid
  | cons draft drafts ih =>
    obtain ⟨middle, here, rest⟩ := laid
    exact ⟨middle, here.inField field, ih rest⟩

/-! ## Building -/

/-- A node with its children in order, which begins as a construct does. -/
def Regular (language : Language) (node : Node) : Prop :=
  ∀ each ∈ node.preorder, each.Ordered ∧ each.Headed language

/-- A node without children that does not run backwards is regular. -/
theorem regular_leaf {kind : Kind} {field : Option Field} {span : Span}
    (forward : span.start ≤ span.stop) : Regular language (.mk kind field span []) := by
  intro each member
  rcases mem_preorder.mp member with rfl | ⟨_, inside, _⟩
  · exact ⟨forward, ⟨by rintro _ ⟨⟩, by rintro _ _ ⟨⟩, by rintro _ _ ⟨⟩⟩⟩
  · contradiction

/-- What is built of a draft that is laid between two offsets, over an extent. -/
structure Outline (language : Language) (first last : Nat) (draft : Draft) (span : Span) :
    Prop where
  /-- The draft has the extent. -/
  span_eq : draft.span? = some span
  /-- The comments before it stand before the extent. -/
  before : Chained first span.start (triviaNodes draft.leading)
  /-- The extent does not run backwards. -/
  forward : span.start ≤ span.stop
  /-- It is within the offsets. -/
  within : span.stop ≤ last
  /-- It is not empty and is that of the node, unless the draft is the end of a statement. -/
  occupied : draft.kind ≠ .insertedSemicolon →
    span.start < span.stop ∧ draft.build.span = span
  /-- The node is regular. -/
  regular : Regular language draft.build

/-- What is built of drafts that are laid between two offsets, over an extent. -/
structure OutlineAll (language : Language) (first last : Nat) (drafts : List Draft) (span : Span) :
    Prop where
  /-- The drafts have the extent. -/
  span_eq : spanAll? drafts = some span
  /-- The comments before the first stand before the extent. -/
  before : Chained first span.start (triviaNodes (leadingFirst drafts))
  /-- The extent is within the offsets. -/
  within : span.stop ≤ last
  /-- The node of the first draft begins with the extent, unless it is the end of a statement. -/
  starts : ∀ first ∈ drafts.head?, first.kind ≠ .insertedSemicolon →
    first.build.span.start = span.start ∧ span.start < span.stop
  /-- The nodes stand in order in the extent. -/
  inside : Chained span.start span.stop (buildFirst drafts)
  /-- The nodes are regular. -/
  regular : ∀ node ∈ buildFirst drafts, Regular language node

/-- The nodes of drafts are the comments before the first and the nodes without them. -/
theorem buildRest_eq (drafts : List Draft) :
    buildRest drafts = triviaNodes (leadingFirst drafts) ++ buildFirst drafts := by
  cases drafts with
  | nil => rfl
  | cons draft drafts => rw [buildRest, leadingFirst, buildFirst, List.append_assoc]

/-- The nodes of drafts with the comments before them stand in order. -/
theorem OutlineAll.chained {span : Span} (outline : OutlineAll language first last drafts span) :
    Chained first span.stop (buildRest drafts) := by
  rw [buildRest_eq]
  exact outline.before.append outline.inside

/-- Comments that stand in order are regular. -/
theorem regular_of_mem_triviaNodes {trivia : List Trivia}
    (chained : Chained first last (triviaNodes trivia)) :
    ∀ node ∈ triviaNodes trivia, Regular language node := by
  intro node member
  have occupied := (chained.bounds node member).2.1
  obtain ⟨comment, _, rfl⟩ := List.mem_map.mp member
  exact regular_leaf (Nat.le_of_lt occupied)

/-- All nodes of drafts, with the comments, are regular. -/
theorem OutlineAll.regular_rest {span : Span}
    (outline : OutlineAll language first last drafts span) :
    ∀ node ∈ buildRest drafts, Regular language node := by
  rw [buildRest_eq]
  intro node member
  rcases List.mem_append.mp member with member | member
  · exact regular_of_mem_triviaNodes outline.before node member
  · exact outline.regular node member

/-- The node of a draft, unless it is the end of a statement. -/
def written (draft : Draft) : List Node :=
  if draft.kind == .insertedSemicolon then [] else [build draft]

/-- The node of an outlined draft takes its extent, if there is one. -/
theorem Outline.written_chained {span : Span} (outline : Outline language first last draft span) :
    Chained span.start span.stop draft.written := by
  unfold written
  split
  · exact outline.forward
  · rename_i kind
    obtain ⟨occupied, built⟩ := outline.occupied (by simpa using kind)
    rw [← built] at occupied ⊢
    exact ⟨Nat.le_refl _, occupied, Nat.le_refl _⟩

/-- The node of an outlined draft is regular. -/
theorem Outline.written_regular {span : Span} (outline : Outline language first last draft span) :
    ∀ node ∈ draft.written, Regular language node := by
  unfold written
  split
  · exact List.forall_mem_nil _
  · exact List.forall_mem_singleton.mpr outline.regular

/-- An outlined draft, with others after it or alone. -/
theorem Outline.cons {span : Span} (outline : Outline language first middle draft span)
    (rest : drafts = [] ∧ middle ≤ last ∨ ∃ span, OutlineAll language middle last drafts span) :
    ∃ whole, OutlineAll language first last (draft :: drafts) whole := by
  rcases rest with ⟨rfl, ordered⟩ | ⟨final, others⟩
  · have nodes : buildFirst [draft] = draft.written := List.append_nil _
    refine ⟨span, ?_, outline.before, Nat.le_trans outline.within ordered, ?_, ?_, ?_⟩
    · rw [spanAll?, outline.span_eq]
      rfl
    · rintro _ ⟨⟩ kind
      obtain ⟨occupied, built⟩ := outline.occupied kind
      exact ⟨by rw [built], occupied⟩
    · rw [nodes]
      exact outline.written_chained
    · rw [nodes]
      exact outline.written_regular
  · have nodes : buildFirst (draft :: drafts) = draft.written ++ buildRest drafts := rfl
    have after := others.chained.widen outline.within (Nat.le_refl _)
    refine ⟨span.through final, ?_, outline.before, others.within, ?_, ?_, ?_⟩
    · rw [spanAll?, outline.span_eq, others.span_eq]
    · rintro _ ⟨⟩ kind
      obtain ⟨occupied, built⟩ := outline.occupied kind
      exact ⟨by rw [built]; rfl, Nat.lt_of_lt_of_le occupied after.le⟩
    · rw [nodes]
      exact outline.written_chained.append after
    · rw [nodes]
      exact List.forall_mem_append.mpr ⟨outline.written_regular, others.regular_rest⟩

/-- The kind of a node is that of its draft. -/
theorem kind_build (draft : Draft) : draft.build.kind = draft.kind := by
  cases draft <;> rfl

/-- The place of a node is that of its draft. -/
theorem field_build (draft : Draft) : draft.build.field = draft.place := by
  cases draft <;> rfl

/-- A node in a place among the nodes of drafts is that of a draft. -/
theorem exists_of_mem_buildRest {node : Node} {place : Field} (member : node ∈ buildRest drafts)
    (placed : node.field = some place) : ∃ draft ∈ drafts, node = draft.build := by
  induction drafts with
  | nil => contradiction
  | cons draft drafts ih =>
    rw [buildRest, List.mem_append, List.mem_append] at member
    rcases member with (comment | here) | later
    · obtain ⟨_, _, rfl⟩ := List.mem_map.mp comment
      contradiction
    · split at here
      · contradiction
      · exact ⟨draft, .head _, List.mem_singleton.mp here⟩
    · obtain ⟨other, inside, same⟩ := ih later
      exact ⟨other, .tail _ inside, same⟩

/-- A construct of outlined drafts is outlined. -/
theorem OutlineAll.branch {span : Span} {kind : Kind} {field : Option Field}
    (outline : OutlineAll language first last drafts span)
    (headed : Headed language kind drafts) :
    Outline language first last (.branch kind field drafts) span := by
  obtain ⟨head, rest, rfl, visible, plain, named, labelled⟩ := headed
  obtain ⟨starts, occupied⟩ := outline.starts head rfl visible
  have built : (Draft.branch kind field (head :: rest)).build =
      .mk kind field span (buildFirst (head :: rest)) := by
    rw [build, outline.span_eq]
    rfl
  have nodes : buildFirst (head :: rest) = head.build :: buildRest rest := by
    rw [buildFirst, if_neg (by simpa using visible)]
    rfl
  refine ⟨outline.span_eq, outline.before, Nat.le_of_lt occupied, outline.within,
    fun _ => ⟨occupied, by rw [built]; rfl⟩, ?_⟩
  intro each member
  rw [built, mem_preorder] at member
  rcases member with rfl | ⟨child, below, member⟩
  · refine ⟨outline.inside, ⟨?_, ?_, ?_⟩⟩
    · change ∀ first ∈ (buildFirst (head :: rest)).head?, _
      rw [nodes]
      rintro _ ⟨⟩
      rw [kind_build]
      exact plain
    · intro declarator label found
      change (buildFirst (head :: rest)).find? _ = some label at found
      rw [nodes, List.find?_cons_of_pos (by simp [field_build, named declarator])] at found
      cases found
      exact starts
    · intro cls label found
      change (buildFirst (head :: rest)).find? _ = some label at found
      have placed : label.field = some .name := by simpa using List.find?_some found
      have member : label ∈ buildRest (head :: rest) := by
        rw [buildRest_eq]
        exact List.mem_append_right _ (List.mem_of_find?_eq_some found)
      obtain ⟨child, inside, rfl⟩ := exists_of_mem_buildRest member placed
      rw [field_build] at placed
      rw [kind_build]
      exact labelled cls child inside placed
  · exact outline.regular child below each member

mutual

/-- A draft that is laid is outlined. -/
theorem Laid.outline : ∀ {first last : Nat} {draft : Draft}, Laid language first last draft →
    ∃ span, Outline language first last draft span
  | _, _, .leaf kind field span trivia, ⟨passed, forward, within, occupied⟩ =>
    ⟨span, rfl, passed, forward, within, fun written => ⟨occupied written, rfl⟩,
      regular_leaf forward⟩
  | _, _, .branch kind field children, ⟨_, headed, laid⟩ => by
    rcases laid.outline with ⟨rfl, _⟩ | ⟨span, outline⟩
    · obtain ⟨_, _, nothing, _⟩ := headed
      contradiction
    · exact ⟨span, outline.branch headed⟩

/-- Drafts that are laid are outlined, if there are any. -/
theorem LaidAll.outline : ∀ {first last : Nat} {drafts : List Draft},
    LaidAll language first last drafts →
      drafts = [] ∧ first ≤ last ∨ ∃ span, OutlineAll language first last drafts span
  | _, _, [], ordered => .inl ⟨rfl, ordered⟩
  | _, _, _ :: _, ⟨_, laid, rest⟩ => by
    obtain ⟨_, outline⟩ := laid.outline
    exact .inr (outline.cons rest.outline)

end

/-- The tree of a program whose drafts are laid in its extent is well formed. -/
theorem LaidAll.wellFormed {span : Span} (laid : LaidAll language span.start span.stop drafts) :
    (root .program span drafts).WellFormed language := by
  have nodes : Chained span.start span.stop (buildRest drafts) ∧
      ∀ node ∈ buildRest drafts, Regular language node := by
    rcases laid.outline with ⟨rfl, ordered⟩ | ⟨inner, outline⟩
    · exact ⟨ordered, List.forall_mem_nil _⟩
    · exact ⟨outline.chained.widen (Nat.le_refl _) outline.within, outline.regular_rest⟩
  refine ⟨rfl, fun node member => ?_, fun child below node member => ?_⟩
  · rcases mem_preorder.mp member with rfl | ⟨child, below, member⟩
    · exact nodes.1
    · exact (nodes.2 child below node member).1
  · exact (nodes.2 child below node member).2

end Draft

end CodeAtlas.Syntax
