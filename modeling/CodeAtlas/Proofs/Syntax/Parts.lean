import CodeAtlas.Proofs.Syntax.Draft
import CodeAtlas.Proofs.Syntax.Meaning

/-!
# Parts of trees

What holds of a draft and all drafts in it tells of every node of the tree that is built of it: a
node is a comment or built of one of these drafts (`Draft.Throughout.builds`). What a rule yields
is told part by part as well, with one law for each way of making a rule.
-/
namespace CodeAtlas.Syntax

/-- Whether nodes of a kind are comments, between marks of either sort. -/
def Kind.isComment : Kind → Bool
  | .comment | .htmlComment => Bool.true
  | _ => Bool.false

/-- A node that is a comment. -/
structure Node.IsComment (node : Node) : Prop where
  /-- It is one by its kind. -/
  kind : node.kind.isComment = true
  /-- It has no place in its parent. -/
  unplaced : node.field = none
  /-- It has no children. -/
  childless : node.children = []

/-! ## Comments before tokens -/

namespace Terminal

variable {language : Language} {cursor : Cursor} {terminal : Terminal} {token : Token}
  {found : List Trivia}

/-- A gap has comments only. -/
theorem gap_isComment (html : Bool) (bound : List Glyph)
    (comments : ∀ comment ∈ found, comment.kind.isComment = true) :
    ∀ comment ∈ (gap html bound cursor found).1, comment.kind.isComment = true := by
  induction bound generalizing cursor found with
  | nil => exact fun comment member => comments comment (List.mem_reverse.mp member)
  | cons glyph bound ih =>
    rw [gap]
    split
    · exact ih (List.forall_mem_cons.mpr ⟨rfl, comments⟩)
    · split
      · exact ih (List.forall_mem_cons.mpr ⟨rfl, comments⟩)
      · exact fun comment member => comments comment (List.mem_reverse.mp member)

/-- The end of a statement has comments only before it. -/
theorem semicolonPlace_isComment {follow : Follow} {bound : List Glyph} {place : Cursor}
    {trivia : List Trivia} (comments : ∀ comment ∈ found, comment.kind.isComment = true)
    (inserted : semicolonPlace language follow bound cursor found = some (trivia, place)) :
    ∀ comment ∈ trivia, comment.kind.isComment = true := by
  fun_induction semicolonPlace language follow bound cursor found with
  | case1 bound cursor found ends =>
    cases inserted
    exact fun comment member => comments comment (List.mem_reverse.mp member)
  | case2 cursor found _ first glyph bound last comment ih =>
    exact ih (List.forall_mem_cons.mpr ⟨rfl, comments⟩) inserted
  | case3 => contradiction

/-- A token has comments only before it. -/
theorem isComment_of_read (read : terminal.read language cursor = .ok token) :
    ∀ comment ∈ token.trivia, comment.kind.isComment = true := by
  have opened : ∀ comment ∈ (openGap cursor).1, comment.kind.isComment = true :=
    gap_isComment true cursor.rest (List.forall_mem_nil _)
  have closed : ∀ comment ∈ (closeGap cursor).1, comment.kind.isComment = true :=
    gap_isComment false cursor.rest (List.forall_mem_nil _)
  cases terminal with
  | insertedSemicolon follow =>
    rw [Terminal.read] at read
    split at read
    · rename_i trivia place inserted
      cases read
      exact semicolonPlace_isComment (List.forall_mem_nil _) inserted
    · contradiction
  | mark | word | name | privateName | number | string | regex | hashBangLine | endOfSource =>
    rw [Terminal.read] at read
    obtain ⟨last, _, rfl⟩ := exists_of_afterGap read
    exact opened
  | operator | ternary | entity | elementName | elementString =>
    rw [Terminal.read] at read
    obtain ⟨last, _, rfl⟩ := exists_of_afterGap read
    exact closed
  | templateChars | templateEscape | elementText | lineBreak =>
    rw [Terminal.read] at read
    obtain ⟨last, _, rfl⟩ := exists_of_afterGap read
    exact List.forall_mem_nil _

end Terminal

/-! ## Drafts -/

namespace Draft

/-- The drafts that a construct is made of. -/
def children : Draft → List Draft
  | .leaf _ _ _ _ => []
  | .branch _ _ children => children

mutual

/-- Something holds of a draft and of all drafts in it, and only comments stand before tokens. -/
def Throughout (holds : Draft → Prop) : Draft → Prop
  | .leaf kind field span trivia =>
    holds (.leaf kind field span trivia) ∧ ∀ comment ∈ trivia, comment.kind.isComment = true
  | .branch kind field children =>
    holds (.branch kind field children) ∧ ThroughoutAll holds children

/-- Something holds of drafts and of all drafts in them. -/
def ThroughoutAll (holds : Draft → Prop) : List Draft → Prop
  | [] => True
  | draft :: drafts => Throughout holds draft ∧ ThroughoutAll holds drafts

end

variable {holds : Draft → Prop} {draft part : Draft} {drafts : List Draft}

/-- What holds throughout drafts holds throughout each. -/
theorem throughoutAll_iff :
    ThroughoutAll holds drafts ↔ ∀ draft ∈ drafts, draft.Throughout holds := by
  induction drafts with
  | nil => simp [ThroughoutAll]
  | cons draft drafts ih => rw [ThroughoutAll, ih, List.forall_mem_cons]

/-- What holds throughout a draft holds of it. -/
theorem Throughout.here (throughout : draft.Throughout holds) : holds draft := by
  cases draft <;> exact throughout.1

/-- What holds throughout a draft holds throughout its parts. -/
theorem Throughout.of_mem_children (throughout : draft.Throughout holds)
    (member : part ∈ draft.children) : part.Throughout holds := by
  cases draft with
  | leaf => contradiction
  | branch kind field children => exact throughoutAll_iff.mp throughout.2 part member

/-- What holds throughout a draft holds throughout it in a place where it holds of it. -/
theorem Throughout.inField (throughout : draft.Throughout holds) {field : Field}
    (here : holds (draft.inField field)) : (draft.inField field).Throughout holds := by
  cases draft <;> exact ⟨here, throughout.2⟩

/-- A draft in a place has the same parts. -/
theorem children_inField (field : Field) (draft : Draft) :
    (draft.inField field).children = draft.children := by
  cases draft <;> rfl

mutual

/-- What stands before a draft is comments. -/
theorem Throughout.leading : ∀ {draft : Draft}, draft.Throughout holds →
    ∀ comment ∈ draft.leading, comment.kind.isComment = true
  | .leaf _ _ _ _, throughout => throughout.2
  | .branch _ _ _, throughout => ThroughoutAll.leading throughout.2

/-- What stands before drafts is comments. -/
theorem ThroughoutAll.leading : ∀ {drafts : List Draft}, ThroughoutAll holds drafts →
    ∀ comment ∈ leadingFirst drafts, comment.kind.isComment = true
  | [], _ => List.forall_mem_nil _
  | _ :: _, throughout => throughout.1.leading

end

/-! ## Nodes -/

/-- The nodes of drafts are comments or built of one of them. -/
theorem isComment_or_exists_of_mem_buildRest (throughout : ThroughoutAll holds drafts)
    {node : Node} (member : node ∈ buildRest drafts) :
    node.IsComment ∨ ∃ draft ∈ drafts, draft.build = node := by
  induction drafts with
  | nil => contradiction
  | cons draft drafts ih =>
    rw [buildRest, List.mem_append, List.mem_append] at member
    rcases member with (comment | here) | later
    · obtain ⟨trivium, inside, rfl⟩ := List.mem_map.mp comment
      exact .inl ⟨throughout.1.leading trivium inside, rfl, rfl⟩
    · split at here
      · contradiction
      · exact .inr ⟨draft, .head _, (List.mem_singleton.mp here).symm⟩
    · rcases ih throughout.2 later with comment | ⟨other, inside, built⟩
      · exact .inl comment
      · exact .inr ⟨other, .tail _ inside, built⟩

/-- The children of a tree are comments or built of a part of its draft. -/
theorem Throughout.child (throughout : draft.Throughout holds) {node : Node}
    (member : node ∈ draft.build.children) :
    node.IsComment ∨ ∃ part ∈ draft.children, part.build = node := by
  cases draft with
  | leaf => contradiction
  | branch kind field children =>
    refine isComment_or_exists_of_mem_buildRest throughout.2 ?_
    rw [buildRest_eq]
    exact List.mem_append_right _ member

/-- A node that is a comment or built of a draft throughout which something holds. -/
def Builds (holds : Draft → Prop) (node : Node) : Prop :=
  node.IsComment ∨ ∃ draft : Draft, draft.Throughout holds ∧ draft.build = node

/-- A comment has no node in it but itself. -/
theorem builds_of_isComment {comment node : Node} (is : comment.IsComment)
    (member : node ∈ comment.preorder) : Builds holds node := by
  rcases Node.mem_preorder.mp member with rfl | ⟨_, inside, _⟩
  · exact .inl is
  · rw [is.childless] at inside
    contradiction

mutual

/-- Every node of the tree of a draft is a comment or built of a draft in it. -/
theorem Throughout.builds : ∀ {draft : Draft}, draft.Throughout holds →
    ∀ node ∈ draft.build.preorder, Builds holds node
  | .leaf kind field span trivia, throughout, node, member => by
    rcases Node.mem_preorder.mp member with rfl | ⟨_, inside, _⟩
    · exact .inr ⟨_, throughout, rfl⟩
    · contradiction
  | .branch kind field children, throughout, node, member => by
    rcases Node.mem_preorder.mp member with rfl | ⟨child, inside, below⟩
    · exact .inr ⟨_, throughout, rfl⟩
    · rcases throughout.child inside with comment | ⟨part, among, rfl⟩
      · exact builds_of_isComment comment below
      · exact ThroughoutAll.builds throughout.2 part among node below

/-- Every node of the trees of drafts is a comment or built of a draft in them. -/
theorem ThroughoutAll.builds : ∀ {drafts : List Draft}, ThroughoutAll holds drafts →
    ∀ draft ∈ drafts, ∀ node ∈ draft.build.preorder, Builds holds node
  | [], _, _, inside, _, _ => by contradiction
  | head :: rest, throughout, draft, inside, node, member => by
    rcases List.mem_cons.mp inside with here | later
    · rw [here] at member
      exact Throughout.builds throughout.1 node member
    · exact ThroughoutAll.builds throughout.2 draft later node member

end

/-- A child of a tree in a place is built of a part of the draft in the place. -/
theorem Throughout.exists_of_child? (throughout : draft.Throughout holds) {place : Field}
    {node : Node} (found : draft.build.child? place = some node) :
    ∃ part ∈ draft.children, part.place = some place ∧ part.build = node := by
  have placed : node.field = some place := by simpa using List.find?_some found
  rcases throughout.child (List.mem_of_find?_eq_some found) with comment | ⟨part, inside, rfl⟩
  · rw [comment.unplaced] at placed
    contradiction
  · exact ⟨part, inside, by rw [← field_build, placed], rfl⟩

/-- The node of a part that is written is among those of the parts. -/
theorem build_mem_buildRest (member : part ∈ drafts) (written : part.kind ≠ .insertedSemicolon) :
    part.build ∈ buildRest drafts := by
  induction drafts with
  | nil => contradiction
  | cons draft drafts ih =>
    rw [buildRest, List.mem_append, List.mem_append]
    rcases List.mem_cons.mp member with rfl | later
    · refine .inl (.inr ?_)
      rw [if_neg (by simpa using written)]
      exact .head _
    · exact .inr (ih later)

/-- The node of a part that is written is a child of the tree. -/
theorem build_mem_children (member : part ∈ draft.children)
    (written : part.kind ≠ .insertedSemicolon) : part.build ∈ draft.build.children := by
  cases draft with
  | leaf => contradiction
  | branch kind field children =>
    change part.build ∈ buildFirst children
    cases children with
    | nil => contradiction
    | cons head rest =>
      rw [buildFirst, List.mem_append]
      rcases List.mem_cons.mp member with rfl | later
      · rw [if_neg (by simpa using written)]
        exact .inl (.head _)
      · exact .inr (build_mem_buildRest later written)

/-- A tree has a child in the place of a part that is written. -/
theorem exists_child?_build {place : Field} (member : part ∈ draft.children)
    (placed : part.place = some place) (written : part.kind ≠ .insertedSemicolon) :
    ∃ node, draft.build.child? place = some node := by
  refine Option.isSome_iff_exists.mp (List.find?_isSome.mpr
    ⟨part.build, build_mem_children member written, ?_⟩)
  rw [field_build, placed]
  exact beq_self_eq_true _

end Draft

/-! ## Rules -/

namespace Rule

variable {Phrase : Type} {language : Language} {start : Cursor} {meaning : Meaning Phrase}

/-- What is given repeatedly has in each part what is given once has. -/
theorem Repeated.forall_mem {holds : Draft → Prop} {once : Cursor → List Draft → Cursor → Prop}
    (each : ∀ cursor drafts last, once cursor drafts last → ∀ draft ∈ drafts, holds draft)
    {drafts : List Draft} {cursor last : Cursor} (repeated : Repeated once cursor drafts last) :
    ∀ draft ∈ drafts, holds draft := by
  induction repeated with
  | none => exact List.forall_mem_nil _
  | more _ after ih => exact List.forall_mem_append.mpr ⟨ih, each _ _ _ after⟩

/-- What grows of drafts has in each part what these have, if each step goes on so. -/
theorem Grown.forall_mem {holds : Draft → Prop}
    {step : List Draft → Cursor → List Draft → Cursor → Prop} {found drafts : List Draft}
    {cursor last : Cursor} (base : ∀ draft ∈ found, holds draft)
    (each : ∀ before cursor drafts last, (∀ draft ∈ before, holds draft) →
      step before cursor drafts last → ∀ draft ∈ drafts, holds draft)
    (grown : Grown step found cursor drafts last) : ∀ draft ∈ drafts, holds draft := by
  induction grown with
  | none => exact base
  | more _ after _ ih => exact each _ _ _ _ ih after

/-- Something holds of each of the drafts that a rule gives. -/
def Yields (language : Language) (start : Cursor) (meaning : Meaning Phrase)
    (holds : Draft → Prop) (rule : Rule Phrase) : Prop :=
  ∀ before cursor drafts last, rule.Gives language start meaning before cursor drafts last →
    ∀ draft ∈ drafts, holds draft

variable {holds : Draft → Prop} {first second body : Rule Phrase}

/-- One rule and then another yield what both yield. -/
theorem Yields.seq (left : first.Yields language start meaning holds)
    (right : second.Yields language start meaning holds) :
    (seq first second).Yields language start meaning holds := by
  rintro before cursor _ last ⟨_, _, _, head, tail, rfl⟩
  exact List.forall_mem_append.mpr ⟨left _ _ _ _ head, right _ _ _ _ tail⟩

/-- The first of two rules, or else the second, yields what both yield. -/
theorem Yields.alt (left : first.Yields language start meaning holds)
    (right : second.Yields language start meaning holds) :
    (alt first second).Yields language start meaning holds := by
  rintro before cursor drafts last (gives | gives)
  · exact left _ _ _ _ gives
  · exact right _ _ _ _ gives

/-- A rule or nothing yields what the rule yields. -/
theorem Yields.opt (yields : body.Yields language start meaning holds) :
    (opt body).Yields language start meaning holds := by
  rintro before cursor drafts last (gives | ⟨rfl, _⟩)
  · exact yields _ _ _ _ gives
  · exact List.forall_mem_nil _

/-- A rule as often as it fits yields what the rule yields. -/
theorem Yields.many (yields : body.Yields language start meaning holds) :
    (many body).Yields language start meaning holds :=
  fun before _ _ _ repeated => repeated.forall_mem (yields before)

/-- A token is yielded as it was read. -/
theorem yields_token {terminal : Terminal}
    (each : ∀ cursor token, terminal.read language cursor = .ok token → holds (.ofToken token)) :
    (token terminal).Yields language start meaning holds := by
  rintro before cursor _ last ⟨_, found, read, rfl, _⟩
  exact List.forall_mem_singleton.mpr (each cursor found read)

/-- A construct of a kind is yielded. -/
theorem yields_node {kind : Kind} (each : ∀ children, holds (.branch kind none children)) :
    (node kind body).Yields language start meaning holds := by
  rintro before cursor _ last ⟨children, _, rfl⟩
  exact List.forall_mem_singleton.mpr (each children)

/-- Drafts are yielded in a place. -/
theorem yields_field {place : Field} (each : ∀ draft : Draft, holds (draft.inField place)) :
    (field place body).Yields language start meaning holds := by
  rintro before cursor _ last ⟨inner, _, rfl⟩
  exact List.forall_mem_map.mpr fun draft _ => each draft

/-- Something holds of one of the drafts that a rule gives. -/
def Contains (language : Language) (start : Cursor) (meaning : Meaning Phrase)
    (holds : Draft → Prop) (rule : Rule Phrase) : Prop :=
  ∀ before cursor drafts last, rule.Gives language start meaning before cursor drafts last →
    ∃ draft ∈ drafts, holds draft

/-- What the first of two rules contains is contained in both. -/
theorem Contains.seq_left (contains : first.Contains language start meaning holds) :
    (seq first second).Contains language start meaning holds := by
  rintro before cursor _ last ⟨_, _, _, head, _, rfl⟩
  obtain ⟨draft, member, here⟩ := contains _ _ _ _ head
  exact ⟨draft, List.mem_append_left _ member, here⟩

/-- What the second of two rules contains is contained in both. -/
theorem Contains.seq_right (contains : second.Contains language start meaning holds) :
    (seq first second).Contains language start meaning holds := by
  rintro before cursor _ last ⟨_, _, _, _, tail, rfl⟩
  obtain ⟨draft, member, here⟩ := contains _ _ _ _ tail
  exact ⟨draft, List.mem_append_right _ member, here⟩

end Rule

end CodeAtlas.Syntax
