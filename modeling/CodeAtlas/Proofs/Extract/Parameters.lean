import CodeAtlas.Extract.Callable
import CodeAtlas.Proofs.Source.Decoding
import CodeAtlas.Proofs.Syntax.Parameters
import CodeAtlas.Proofs.Text.Blank

/-!
# How parameters are reported

`ReportedAs` says how a parameter is reported, without regard to how it is looked at: under the
text of the identifier that it binds, or of its pattern, and with the type that is written behind
its colon. Of a source without a syntax error all parameters of a list are reported so, one after
the other, and so is a single one: `SourceFile.parameters_reported`.
-/
namespace CodeAtlas.Extract

open CodeAtlas.Syntax Draft

/-- The pattern of a parameter, with the other parts of the parameter: what modifies it, its type
and its default. -/
inductive PatternOf (language : Language) : Node → Node → List Node → Prop where
  /-- In typed sources a construct stands around the pattern. -/
  | wrapped {child pattern : Node} {before after : List Node} (typed : language.typed = true)
      (kind : child.kind = .requiredParameter ∨ child.kind = .optionalParameter)
      (placed : child.child? .pattern = some pattern)
      (around : child.children = before ++ pattern :: after) :
      PatternOf language child pattern (before ++ after)
  /-- In untyped sources a default makes a construct of the pattern. -/
  | defaulted {child pattern : Node} {before after : List Node} (untyped : language.typed = false)
      (kind : child.kind = .assignmentPattern) (placed : child.child? .left = some pattern)
      (around : child.children = before ++ pattern :: after) :
      PatternOf language child pattern (before ++ after)
  /-- Without one the parameter is the pattern. -/
  | bare {child : Node} (untyped : language.typed = false)
      (kind : child.kind ≠ .assignmentPattern) : PatternOf language child child []

/-- The node that a pattern is named by. -/
inductive NamedBy : Node → Node → Prop where
  /-- What one value is bound to is named by itself, and so is the word for the object itself. -/
  | whole {pattern : Node} (kind : pattern.kind ∈ targetKinds ∨ pattern.kind = .this) :
      NamedBy pattern pattern
  /-- Dots before an identifier are named by the identifier. -/
  | identifier {pattern target : Node} (kind : pattern.kind = .restPattern)
      (only : (pattern.namedChildren.filter fun child => !child.kind.isComment) = [target])
      (identifier : target.kind = .identifier) : NamedBy pattern target
  /-- Dots before anything else are named by the whole. -/
  | rest {pattern target : Node} (kind : pattern.kind = .restPattern)
      (only : (pattern.namedChildren.filter fun child => !child.kind.isComment) = [target])
      (bound : target.kind ∈ targetKinds) (other : target.kind ≠ .identifier) :
      NamedBy pattern pattern

/-- The type that a parameter is reported with. -/
inductive TypedAs (source : SourceFile) (child : Node) : String → Prop where
  /-- In typed sources it is what is written behind the colon, without white space around it. -/
  | written {ascribed : Node} {rest : List Char} (typed : source.language.typed = true)
      (placed : child.child? .type = some ascribed)
      (colon : source.nodeChars ascribed = ':' :: rest) :
      TypedAs source child (String.ofList (Text.trim rest))
  /-- Where none is written it is not known. -/
  | unwritten (typed : source.language.typed = true) (missing : child.child? .type = none) :
      TypedAs source child "any"
  /-- In untyped sources it is not known either. -/
  | untyped (untyped : source.language.typed = false) : TypedAs source child "any"

/-- How a named node of a list of parameters is reported. -/
inductive ReportedAs (source : SourceFile) (child : Node) : Parameter → Prop where
  /-- A parameter is reported by its name, which takes in nothing of its other parts, and by its
  type. -/
  | parameter {pattern named : Node} {others : List Node} {type : String}
      (holds : PatternOf source.language child pattern others) (names : NamedBy pattern named)
      (apart : ∀ other ∈ others,
        other.span.stop ≤ named.span.start ∨ named.span.stop ≤ other.span.start)
      (types : TypedAs source child type) : ReportedAs source child ⟨source.text named, type⟩
  /-- A comment between angle brackets is reported as if it were a parameter. -/
  | comment (kind : child.kind = .htmlComment) : ReportedAs source child ⟨source.text child, "any"⟩

namespace SourceFile

/-! ## What patterns bind -/

/-- What is neither defaulted nor the values that are left is named by itself. -/
theorem bound_eq_self {node : Node} (plain : node.kind ≠ .assignmentPattern)
    (one : node.kind ≠ .restPattern) : bound node = node := by
  obtain ⟨kind, field, span, children⟩ := node
  rw [bound]
  · rintro _ _ _ ⟨⟩
    exact plain rfl
  · rintro _ _ _ ⟨⟩
    exact one rfl

/-- The values that are left are named by what they are bound to, if it is an identifier. -/
theorem bound_rest {node target : Node} (kind : node.kind = .restPattern)
    (only : (node.namedChildren.filter fun child => !child.kind.isComment) = [target]) :
    bound node = if target.kind = .identifier then target else node := by
  have among : node.children.find? (·.kind == .identifier) =
      [target].find? (·.kind == .identifier) := by
    rw [← only, Node.namedChildren, List.filter_filter, List.find?_filter]
    congr 1
    funext child
    cases identifier : child.kind == .identifier with
    | false => simp
    | true => simp [beq_iff_eq.mp identifier, Kind.isComment, Kind.isNamed]
  have looked : bound node = (node.children.find? (·.kind == .identifier)).getD node := by
    obtain ⟨_, field, span, children⟩ := node
    obtain rfl : _ = Kind.restPattern := kind
    rw [bound]
    rfl
  rw [looked, among]
  by_cases identifier : target.kind = .identifier
  · rw [if_pos identifier, List.find?_cons_of_pos (by simpa using identifier), Option.getD_some]
  · rw [if_neg identifier, List.find?_cons_of_neg (by simpa using identifier), List.find?_nil,
      Option.getD_none]

/-- The first node on the left is looked at. -/
theorem boundLeft_eq (whole : Node) (nodes : List Node) :
    boundLeft whole nodes =
      ((nodes.find? (·.field == some .left)).map bound).getD whole := by
  induction nodes with
  | nil => rw [boundLeft, List.find?_nil, Option.map_none, Option.getD_none]
  | cons node nodes ih =>
    rw [boundLeft, List.find?_cons]
    cases placed : node.field == some .left with
    | true => rfl
    | false => exact ih

/-- What is defaulted is named as its left side. -/
theorem bound_defaulted {node left : Node} (kind : node.kind = .assignmentPattern)
    (placed : node.child? .left = some left) : bound node = bound left := by
  obtain ⟨_, field, span, children⟩ := node
  obtain rfl : _ = Kind.assignmentPattern := kind
  have found : children.find? (·.field == some .left) = some left := placed
  rw [bound, boundLeft_eq, found]
  rfl

variable {holds : Draft → Prop} {draft : Draft}

/-- A target is neither defaulted nor the values that are left. -/
theorem ne_of_mem_targetKinds {kind : Kind} (member : kind ∈ targetKinds) :
    kind ≠ .assignmentPattern ∧ kind ≠ .restPattern ∧ kind.isNamed = true ∧
      kind.isComment = false := by
  have each : ∀ kind ∈ targetKinds, kind ≠ .assignmentPattern ∧ kind ≠ .restPattern ∧
      kind.isNamed = true ∧ kind.isComment = false := by decide
  exact each kind member

/-- The tree of dots before a target has both as children, with comments between them. -/
theorem children_rest {field : Option Field} {dots target : Draft}
    (mark : dots.kind = .symbol "...") (kind : target.kind ∈ targetKinds) :
    (branch .restPattern field [dots, target]).build.children =
      dots.build :: (triviaNodes target.leading ++ [target.build]) := by
  have visible : target.kind ≠ .insertedSemicolon := by
    intro same
    rw [same] at kind
    exact absurd kind (by decide)
  change buildFirst [dots, target] = _
  rw [buildFirst, buildRest, buildRest, if_neg (by simp [mark]), if_neg (by simpa using visible),
    List.append_nil]
  rfl

/-- The tree of a pattern is named as it should be. -/
theorem namedBy_bound (throughout : draft.Throughout holds)
    (forms : draft.IsPattern ∨ draft.kind = .this) :
    NamedBy draft.build (bound draft.build) := by
  rcases forms with (target | @⟨field, dots, target, mark, kind⟩) | this
  · obtain ⟨plain, one, _⟩ := ne_of_mem_targetKinds target
    rw [bound_eq_self (by rwa [kind_build]) (by rwa [kind_build])]
    exact .whole (.inl (by rwa [kind_build]))
  · obtain ⟨_, _, named, visible⟩ := ne_of_mem_targetKinds kind
    have children : (branch .restPattern field [dots, target]).build.children =
        dots.build :: (triviaNodes target.leading ++ [target.build]) := children_rest mark kind
    have part : target.Throughout holds := throughout.of_mem_children (.tail _ (.head _))
    have comments : ∀ node ∈ triviaNodes target.leading, node.kind.isComment = true := by
      intro node member
      obtain ⟨comment, inside, rfl⟩ := List.mem_map.mp member
      exact part.leading comment inside
    have only : ((branch .restPattern field [dots, target]).build.namedChildren.filter
        fun child => !child.kind.isComment) = [target.build] := by
      have silent : (triviaNodes target.leading).filter
          (fun child => !child.kind.isComment && child.kind.isNamed) = [] := by
        refine List.filter_eq_nil_iff.mpr fun node member => ?_
        rw [comments node member]
        exact Bool.false_ne_true
      rw [Node.namedChildren, children, List.filter_filter, List.filter_cons_of_neg,
        List.filter_append, silent, List.filter_cons_of_pos, List.filter_nil, List.nil_append]
      · rw [kind_build, named, visible]
        rfl
      · rw [kind_build, mark]
        simp [Kind.isNamed]
    rw [bound_rest rfl only]
    split
    · exact .identifier rfl only ‹_›
    · exact .rest rfl only (by rwa [kind_build]) ‹_›
  · rw [bound_eq_self (by rw [kind_build, this]; decide) (by rw [kind_build, this]; decide)]
    exact .whole (.inr (by rwa [kind_build]))

/-! ## Types behind colons -/

variable {source : SourceFile} {root : Node}

/-- The characters of a node are those of its bytes. -/
theorem nodeChars_eq (source : SourceFile) (node : Node) :
    source.nodeChars node = Utf8.decodeChars
      ((source.bytes.toList.drop node.span.start).take (node.span.stop - node.span.start)) := by
  rw [nodeChars, chars, toList_extract]

/-- The tree of a type after a colon is written so: a colon, and then what is more than white space
and begins with no colon. -/
theorem exists_of_isAscription {ascribed : Node}
    (joined : ascribed.span.Joins (Cursor.start source.bytes.toList))
    (ordered : ascribed.Ordered)
    (ascription : draft.IsAscription (Cursor.start source.bytes.toList))
    (built : draft.build = ascribed) :
    ∃ rest, source.nodeChars ascribed = ':' :: rest ∧ rest.head? ≠ some ':' ∧
      Text.trim rest ≠ [] := by
  obtain ⟨placed, here, unmarked, first, others, place, rfl, written, begins, reached, onset⟩ :=
    ascription
  rename_i field trivia colon
  have starts : ascribed.span.start = colon.offset := by
    rw [← built]
    have leaf : (Draft.leaf (.symbol ":") none (colon.spanTo colon.next) trivia).BeginsAt
        colon.offset := ⟨_, rfl, rfl⟩
    exact (leaf.branch .typeAscription field).start_build
  -- The type is the second child, so that it stands behind the colon and within the whole.
  have bounds : colon.next.offset ≤ place.offset ∧ place.offset < ascribed.span.stop := by
    rw [Node.Ordered, ← built] at ordered
    obtain ⟨_, _, rest⟩ := ordered
    have inside : first.build ∈ buildRest (first :: others) :=
      build_mem_buildRest (.head _) written
    have within := rest.bounds _ inside
    rw [begins.start_build, built] at within
    exact ⟨within.1, Nat.lt_of_lt_of_le within.2.1 within.2.2⟩
  have divides (cursor : Cursor) (reaches : (Cursor.start source.bytes.toList).Reaches cursor) :
      cursor.Divides source.bytes.toList :=
    reaches.divides (Cursor.divides_start _)
  have next := placed.trans (Cursor.reaches_next colon)
  have forward := (Cursor.reaches_next colon).offset_le
  have after : colon.offset < ascribed.span.stop := by omega
  obtain ⟨_, chars⟩ :=
    (divides colon placed).decodeChars_of_at? here (by decide) (by decide) after
  refine ⟨_, by rw [nodeChars_eq, starts, chars], fun again => ?_, fun nothing => ?_⟩
  · rw [(divides _ next).at?_of_decodeChars (by decide) (by decide) again] at unmarked
    contradiction
  · obtain ⟨char, found, solid⟩ : ∃ char, place.char? = some char ∧ isOnset char = true := by
      rw [Lexeme.startsWith, Option.any_eq_true] at onset
      exact onset
    have within : place.next.offset ≤ ascribed.span.stop := by
      obtain ⟨_, last, _, ended, extent⟩ := joined
      have stop : ascribed.span.stop = last.offset := by rw [extent]; rfl
      rw [stop] at bounds ⊢
      exact reached.next_offset_le ended bounds.2
    have member := (divides place reached).mem_decodeChars found bounds.1 within
    simp only [isOnset, Bool.and_eq_true, Bool.not_eq_true'] at solid
    have kept := Text.mem_trim member solid.2
    rw [nothing] at kept
    contradiction

/-- What is written behind a single colon is the text of a type. -/
theorem typeText_eq {ascribed : Node} {rest : List Char}
    (colon : source.nodeChars ascribed = ':' :: rest) (single : rest.head? ≠ some ':')
    (occupied : Text.trim rest ≠ []) :
    source.typeText ascribed = String.ofList (Text.trim rest) := by
  have dropped : (':' :: rest).dropWhile (· = ':') = rest := by
    rw [List.dropWhile_cons_of_pos (by simp)]
    cases rest with
    | nil => rfl
    | cons char rest =>
      rw [List.dropWhile_cons_of_neg]
      simpa using single
  unfold typeText
  rw [colon, dropped, if_neg (by simpa using occupied)]

/-- The type that a parameter is reported with is the one that is written, if one is. -/
theorem typedAs_typeIn {child : Node}
    (written : ∀ ascribed, child.child? .type = some ascribed →
      ∃ rest, source.nodeChars ascribed = ':' :: rest ∧ rest.head? ≠ some ':' ∧
        Text.trim rest ≠ []) : TypedAs source child (source.typeIn child .type) := by
  unfold typeIn
  cases typed : source.language.typed with
  | false => exact .untyped typed
  | true =>
    cases placed : child.child? .type with
    | none => exact .unwritten typed placed
    | some ascribed =>
      obtain ⟨rest, colon, single, occupied⟩ := written ascribed placed
      rw [if_pos rfl]
      change TypedAs source child (source.typeText ascribed)
      rw [typeText_eq colon single occupied]
      exact .written typed placed colon

/-! ## Parameters of lists -/

/-- What names a pattern is within it. -/
theorem within_of_namedBy {pattern named : Node} (ordered : pattern.Ordered)
    (names : NamedBy pattern named) : pattern.span.Within named.span := by
  cases names with
  | whole | rest => exact ⟨Nat.le_refl _, Nat.le_refl _⟩
  | identifier kind only identifier =>
    have member : named ∈ [named] := .head _
    rw [← only] at member
    have child := List.mem_of_mem_filter (List.mem_of_mem_filter member)
    obtain ⟨starts, _, stops⟩ := ordered.bounds named child
    exact ⟨starts, stops⟩

/-- What is within one of some nodes in order is apart from the others. -/
theorem apart_of_around {child pattern named : Node} {before after : List Node}
    (ordered : child.Ordered) (around : child.children = before ++ pattern :: after)
    (within : pattern.span.Within named.span) : ∀ other ∈ before ++ after,
      other.span.stop ≤ named.span.start ∨ named.span.stop ≤ other.span.start := by
  have apart := ordered.pairwise
  rw [around, List.pairwise_append, List.pairwise_cons] at apart
  intro other member
  rcases List.mem_append.mp member with front | back
  · exact .inl (Nat.le_trans (apart.2.2 other front pattern (.head _)) within.start_le)
  · exact .inr (Nat.le_trans within.le_stop (apart.2.1.1 other back))

/-- A tree of a source has its nodes in order and between places of the source. -/
structure Grounded (source : SourceFile) (root : Node) : Prop where
  /-- The nodes have their children in order. -/
  ordered : ∀ node ∈ root.preorder, node.Ordered
  /-- They are between places. -/
  joined : root.Joined (Cursor.start source.bytes.toList)

/-- A construct with patterns in a place has one there, which is named by what is within it and so
apart from the other parts. -/
theorem exists_pattern (grounded : Grounded source root) (member : draft.build ∈ root.preorder)
    (throughout : draft.Throughout holds) {place : Field}
    (each : ∀ part ∈ draft.children, part.place = some place → part.IsPattern ∨ part.kind = .this)
    (pattern : ∃ part ∈ draft.children,
      part.place = some place ∧ part.kind ≠ .insertedSemicolon) :
    ∃ found before after, draft.build.child? place = some found ∧
      draft.build.children = before ++ found :: after ∧ NamedBy found (bound found) ∧
      ∀ other ∈ before ++ after, other.span.stop ≤ (bound found).span.start ∨
        (bound found).span.stop ≤ other.span.start := by
  obtain ⟨part, inside, placed, written⟩ := pattern
  obtain ⟨found, looked⟩ := exists_child?_build inside placed written
  obtain ⟨other, among, there, rfl⟩ := throughout.exists_of_child? looked
  have names := namedBy_bound (throughout.of_mem_children among) (each other among there)
  have below := List.mem_of_find?_eq_some looked
  have ordered := grounded.ordered _ (Node.mem_preorder_of_mem_children member below)
  obtain ⟨before, after, around⟩ := List.append_of_mem below
  exact ⟨_, before, after, looked, around, names,
    apart_of_around (grounded.ordered _ member) around (within_of_namedBy ordered names)⟩

/-- The tree of a parameter is reported as it should be. -/
theorem reportedAs_parameter (grounded : Grounded source root)
    (member : draft.build ∈ root.preorder) (throughout : draft.Throughout holds)
    (parameter : draft.IsParameter source.language (Cursor.start source.bytes.toList)) :
    ReportedAs source draft.build (source.parameter draft.build) := by
  cases parameter with
  | @wrapped kind parts typed wraps each pattern =>
    obtain ⟨found, before, after, looked, around, names, apart⟩ := exists_pattern
      grounded member throughout (fun part inside => (each part inside).pattern) pattern
    have types : TypedAs source (Draft.branch kind none parts).build
        (source.typeIn (Draft.branch kind none parts).build .type) := by
      refine typedAs_typeIn fun ascribed marked => ?_
      have listed := Node.mem_preorder_of_mem_children member (List.mem_of_find?_eq_some marked)
      obtain ⟨type, inside, place, same⟩ := throughout.exists_of_child? marked
      exact exists_of_isAscription (grounded.joined ascribed listed)
        (grounded.ordered ascribed listed) ((each type inside).type place) same
    have wrapped : (kind == .requiredParameter || kind == .optionalParameter) = true := by
      rcases wraps with rfl | rfl <;> rfl
    unfold SourceFile.parameter
    rw [kind_build, Draft.kind, if_pos wrapped, looked]
    exact .parameter (.wrapped typed wraps looked around) names apart types
  | @defaulted parts untyped each pattern =>
    obtain ⟨found, before, after, looked, around, names, apart⟩ := exists_pattern
      grounded member throughout (fun part inside place => .inl (each part inside place)) pattern
    rw [← bound_defaulted rfl looked] at names apart
    exact .parameter (.defaulted untyped rfl looked around) names apart (.untyped untyped)
  | bare untyped pattern =>
    have other : draft.kind ≠ .assignmentPattern ∧ draft.kind ≠ .requiredParameter ∧
        draft.kind ≠ .optionalParameter := by
      cases pattern with
      | target kind =>
        have each : ∀ kind ∈ targetKinds, kind ≠ .assignmentPattern ∧
          kind ≠ .requiredParameter ∧ kind ≠ .optionalParameter := by decide
        exact each _ kind
      | rest => exact ⟨by rintro ⟨⟩, by rintro ⟨⟩, by rintro ⟨⟩⟩
    have plain : (draft.kind == .requiredParameter || draft.kind == .optionalParameter) =
        false := by
      simp [other.2]
    unfold SourceFile.parameter
    rw [kind_build, if_neg (by simp [plain])]
    exact .parameter (.bare untyped (by rw [kind_build]; exact other.1))
      (namedBy_bound throughout (.inl pattern)) (List.forall_mem_nil _) (.untyped untyped)

/-- A comment between angle brackets is reported. -/
theorem reportedAs_comment {child : Node} (kind : child.kind = .htmlComment) :
    ReportedAs source child (source.parameter child) := by
  have self : bound child = child :=
    bound_eq_self (by rw [kind]; decide) (by rw [kind]; decide)
  unfold SourceFile.parameter
  rw [if_neg (by rw [kind]; decide), boundName, self]
  exact .comment kind

/-- In a source without a syntax error each named node of a list of parameters is reported as it
should be, one after the other, but for comments between other marks. Where a single parameter
stands instead, it is reported by its text, which in an arrow function is an identifier; and nothing
is reported of a node with neither. -/
theorem parameters_reported (source : SourceFile)
    (readable : (parse source.language source.bytes.toList).hasError = false) {node : Node}
    (member : node ∈ (parse source.language source.bytes.toList).preorder) :
    (∀ list, node.child? .parameters = some list → list.kind = .formalParameters ∧
      List.Forall₂ (ReportedAs source) (list.namedChildren.filter (·.kind != .comment))
        (source.parameters node)) ∧
    (∀ single, node.child? .parameters = none → node.child? .parameter = some single →
      source.parameters node = [⟨source.text single, "any"⟩] ∧
        (node.kind = .arrowFunction → single.kind = .identifier)) ∧
    (node.child? .parameters = none → node.child? .parameter = none →
      source.parameters node = []) := by
  have grounded : Grounded source (parse source.language source.bytes.toList) :=
    ⟨(parse_wellFormed readable).ordered, parse_joined readable⟩
  refine ⟨fun list looked => ?_, fun single missing looked => ⟨?_, fun arrow => ?_⟩,
    fun missing nothing => ?_⟩
  · have listed := Node.mem_preorder_of_mem_children member (List.mem_of_find?_eq_some looked)
    have placed : list.field = some .parameters := by simpa using List.find?_some looked
    rcases builds_of_mem_preorder readable listed with ⟨_, unplaced⟩ | comment | built
    · rw [unplaced] at placed
      contradiction
    · rw [comment.unplaced] at placed
      contradiction
    · obtain ⟨draft, throughout, rfl⟩ := built
      rw [field_build] at placed
      have formal := throughout.here.listed placed
      refine ⟨by rw [kind_build, formal], ?_⟩
      unfold SourceFile.parameters
      rw [looked, List.forall₂_map_right_iff, List.forall₂_same]
      intro child among
      obtain ⟨inside, other⟩ := List.mem_filter.mp among
      obtain ⟨below, named⟩ := List.mem_filter.mp inside
      rcases throughout.child below with comment | ⟨part, item, rfl⟩
      -- A comment that was not left out is one between angle brackets.
      · refine reportedAs_comment ?_
        have kind := comment.kind
        unfold Kind.isComment at kind
        split at kind
        · rename_i same
          rw [same] at other
          contradiction
        · assumption
        · contradiction
      · rw [kind_build] at named
        exact reportedAs_parameter grounded (Node.mem_preorder_of_mem_children listed below)
          (throughout.of_mem_children item) (throughout.here.parameters formal part item named)
  · unfold SourceFile.parameters
    rw [missing, looked]
    rfl
  · rcases builds_of_mem_preorder readable member with ⟨program, _⟩ | comment | built
    · rw [program] at arrow
      contradiction
    · have kind := comment.kind
      rw [arrow] at kind
      contradiction
    · obtain ⟨draft, throughout, rfl⟩ := built
      obtain ⟨part, inside, place, rfl⟩ := throughout.exists_of_child? looked
      rw [kind_build] at arrow ⊢
      exact throughout.here.single (by rw [arrow]; decide) part inside place
  · unfold SourceFile.parameters
    rw [missing, nothing]

/-- A source with a function whose parameters are modified, typed, defaulted and left. -/
def wrappedParameters : SourceFile where
  path := "wrapped.ts"
  language := .typescript
  bytes := "function f(@d a?: { b } , {c} = x, ...e) {}".toUTF8

/-- The parameters of the function are reported by their names and with their types. -/
theorem parameters_reported_wrapped :
    ∃ node ∈ (parse wrappedParameters.language wrappedParameters.bytes.toList).preorder,
      wrappedParameters.parameters node =
        [⟨"a", "{ b }"⟩, ⟨"{c}", "any"⟩, ⟨"e", "any"⟩] ∧
      ∃ list, node.child? .parameters = some list ∧
        List.Forall₂ (ReportedAs wrappedParameters)
          (list.namedChildren.filter (·.kind != .comment)) (wrappedParameters.parameters node) := by
  obtain ⟨readable, searched⟩ :
      (parse wrappedParameters.language wrappedParameters.bytes.toList).hasError = false ∧
      ((parse wrappedParameters.language wrappedParameters.bytes.toList).preorder.find?
        (·.kind == .functionDeclaration)).map
          (fun node => (wrappedParameters.parameters node, (node.child? .parameters).isSome)) =
        some ([⟨"a", "{ b }"⟩, ⟨"{c}", "any"⟩, ⟨"e", "any"⟩], true) := by
    decide +kernel
  obtain ⟨node, found, both⟩ := Option.map_eq_some_iff.mp searched
  obtain ⟨reported, listed⟩ := Prod.mk.inj both
  obtain ⟨list, looked⟩ := Option.isSome_iff_exists.mp listed
  have member := List.mem_of_find?_eq_some found
  exact ⟨node, member, reported, list, looked,
    ((parameters_reported wrappedParameters readable member).1 list looked).2⟩

/-- A source with a function whose only parameter stands behind a comment between angle brackets. -/
def commentedParameter : SourceFile where
  path := "commented.js"
  language := .javascript
  bytes := "function f(<!-- note\n a) {}".toUTF8

/-- A source with a function whose only parameter takes the values that are left, under a name that
is no identifier to the grammar. -/
def restUndefined : SourceFile where
  path := "rest.js"
  language := .javascript
  bytes := "function f(...undefined) {}".toUTF8

/-- A comment between angle brackets is reported as if it were a parameter, and the dots before a
name that is no identifier to the grammar are reported with it. -/
theorem parameters_reported_comment_and_dots :
    ((parse commentedParameter.language commentedParameter.bytes.toList).hasError = false ∧
      ((parse commentedParameter.language commentedParameter.bytes.toList).preorder.find?
        (·.kind == .functionDeclaration)).map
          (fun node => (commentedParameter.parameters node,
            (node.child? .parameters).map fun list =>
              (list.namedChildren.filter (!·.kind.isComment)).map commentedParameter.text)) =
        some ([⟨"<!-- note", "any"⟩, ⟨"a", "any"⟩], some ["a"])) ∧
    ((parse restUndefined.language restUndefined.bytes.toList).hasError = false ∧
      ((parse restUndefined.language restUndefined.bytes.toList).preorder.find?
        (·.kind == .functionDeclaration)).map restUndefined.parameters =
        some [⟨"...undefined", "any"⟩]) := by
  refine ⟨?_, ?_⟩ <;> decide +kernel

end SourceFile

end CodeAtlas.Extract
