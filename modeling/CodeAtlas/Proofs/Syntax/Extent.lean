import CodeAtlas.Proofs.Source.Extent
import CodeAtlas.Proofs.Syntax.Draft

/-!
# Extents in trees

The tokens and comments of a draft have extents between places of a source, and the extent of a
construct goes from its first token to its last. So every node of the tree that is built of the
draft has an extent between places: `Draft.Joined.build`.
-/
namespace CodeAtlas.Syntax

/-- All nodes of a tree have extents between places that are reached from a start. -/
def Node.Joined (start : Cursor) (node : Node) : Prop :=
  ∀ each ∈ node.preorder, each.span.Joins start

namespace Draft

mutual

/-- All tokens and comments of a draft have extents between places that are reached from a start. -/
def Joined (start : Cursor) : Draft → Prop
  | .leaf _ _ span trivia => span.Joins start ∧ ∀ comment ∈ trivia, comment.span.Joins start
  | .branch _ _ children => JoinedAll start children

/-- All tokens and comments of drafts have extents between places that are reached from a start. -/
def JoinedAll (start : Cursor) : List Draft → Prop
  | [] => True
  | draft :: drafts => Joined start draft ∧ JoinedAll start drafts

end

variable {start : Cursor} {draft : Draft} {drafts : List Draft}

/-- The tokens of drafts are those of each. -/
theorem joinedAll_iff : JoinedAll start drafts ↔ ∀ draft ∈ drafts, draft.Joined start := by
  induction drafts with
  | nil => simp [JoinedAll]
  | cons draft drafts ih => rw [JoinedAll, ih, List.forall_mem_cons]

/-- The draft in a place has the same extents. -/
theorem Joined.inField (joined : draft.Joined start) (field : Field) :
    (draft.inField field).Joined start := by
  cases draft <;> exact joined

/-- The extent of one draft and then another is between places if theirs are. -/
theorem joins_spanAll? {first rest : Option Span} (one : ∀ span ∈ first, span.Joins start)
    (two : ∀ span ∈ rest, span.Joins start) :
    ∀ span ∈ (match first, rest with
      | some first, some last => some (first.through last)
      | first, last => first.or last), span.Joins start := by
  rintro span found
  cases first with
  | none => exact two span found
  | some head =>
    cases rest with
    | none => exact one span found
    | some last =>
      obtain rfl := Option.some.inj found
      exact (one head rfl).through (two last rfl)

mutual

/-- The extent of a draft is between places. -/
theorem Joined.span? : ∀ {draft : Draft}, draft.Joined start →
    ∀ span ∈ draft.span?, span.Joins start
  | .leaf _ _ _ _, joined, _, found => by
    obtain rfl := Option.some.inj found
    exact joined.1
  | .branch _ _ _, joined, _, found => JoinedAll.span? joined _ found

/-- The extent of drafts is between places. -/
theorem JoinedAll.span? : ∀ {drafts : List Draft}, JoinedAll start drafts →
    ∀ span ∈ spanAll? drafts, span.Joins start
  | [], _, _, found => by contradiction
  | _ :: _, ⟨here, rest⟩, span, found =>
    joins_spanAll? here.span? (JoinedAll.span? rest) span found

end

mutual

/-- The comments before a draft have extents between places. -/
theorem Joined.leading : ∀ {draft : Draft}, draft.Joined start →
    ∀ comment ∈ draft.leading, comment.span.Joins start
  | .leaf _ _ _ _, joined => joined.2
  | .branch _ _ _, joined => JoinedAll.leading joined

/-- The comments before drafts have extents between places. -/
theorem JoinedAll.leading : ∀ {drafts : List Draft}, JoinedAll start drafts →
    ∀ comment ∈ leadingFirst drafts, comment.span.Joins start
  | [], _ => List.forall_mem_nil _
  | _ :: _, ⟨here, _⟩ => here.leading

end

/-- A node has extents between places if it and its children do. -/
theorem joined_mk {kind : Kind} {field : Option Field} {span : Span} {children : List Node}
    (joins : span.Joins start) (below : ∀ child ∈ children, child.Joined start) :
    (Node.mk kind field span children).Joined start := by
  intro each member
  rcases Node.mem_preorder.mp member with rfl | ⟨child, inside, member⟩
  · exact joins
  · exact below child inside each member

/-- Comments are nodes that have extents between places. -/
theorem joined_triviaNodes {trivia : List Trivia}
    (joined : ∀ comment ∈ trivia, comment.span.Joins start) :
    ∀ node ∈ triviaNodes trivia, node.Joined start := by
  intro node member
  obtain ⟨comment, inside, rfl⟩ := List.mem_map.mp member
  exact joined_mk (joined comment inside) (List.forall_mem_nil _)

mutual

/-- The tree of a draft has extents between places. -/
theorem Joined.build (empty : noSpan.Joins start) : ∀ {draft : Draft}, draft.Joined start →
    draft.build.Joined start
  | .leaf _ _ _ _, joined => joined_mk joined.1 (List.forall_mem_nil _)
  | .branch _ _ children, joined => by
    refine joined_mk ?_ (JoinedAll.buildFirst empty joined)
    cases found : spanAll? children with
    | none => exact empty
    | some span => exact JoinedAll.span? joined span found

/-- The trees of drafts, without the comments before the first, have extents between places. -/
theorem JoinedAll.buildFirst (empty : noSpan.Joins start) : ∀ {drafts : List Draft},
    JoinedAll start drafts → ∀ node ∈ buildFirst drafts, node.Joined start
  | [], _ => List.forall_mem_nil _
  | draft :: drafts, ⟨here, rest⟩ => by
    have others := List.forall_mem_append.mpr
      ⟨joined_triviaNodes (JoinedAll.leading rest), JoinedAll.buildFirst empty rest⟩
    rw [← buildRest_eq] at others
    refine List.forall_mem_append.mpr ⟨?_, others⟩
    split
    · exact List.forall_mem_nil _
    · exact List.forall_mem_singleton.mpr (Joined.build empty here)

end

/-- The tree of a whole source has extents between places. -/
theorem JoinedAll.root (empty : noSpan.Joins start) {kind : Kind} {span : Span}
    (joins : span.Joins start) (joined : JoinedAll start drafts) :
    (root kind span drafts).Joined start := by
  refine joined_mk joins ?_
  rw [buildRest_eq]
  exact List.forall_mem_append.mpr
    ⟨joined_triviaNodes (JoinedAll.leading joined), JoinedAll.buildFirst empty joined⟩

end Draft

end CodeAtlas.Syntax
