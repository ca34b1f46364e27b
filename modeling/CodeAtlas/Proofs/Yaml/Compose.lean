import CodeAtlas.Proofs.Yaml.Step

/-!
# Composed documents

The readers of nodes make the nodes that they give. So a document that is composed is lawful: a
number belongs to one collection in it, and what has an anchor is a part of it. Composing takes
tokens, so that a text has no more documents than tokens, and it stops only where the text is
malformed, where its tokens stop or where they are too many for the room that there is.
-/
namespace CodeAtlas.Yaml

open Node

namespace Compose

variable {α : Type} {deep : Nat}

/-! ## Nodes -/

/-- A node without a number and without children may be given at once. -/
theorem given_makes {node : Node} (bare : node.children = []) (free : node.number? = none) :
    Makes deep [] (pure node) ([·]) :=
  Spec.pure fun _ => ⟨[node], (Made.idle (Nat.le_refl _) rfl).leaf bare free, rfl⟩

/-- Nothing may stand for a node. -/
theorem nothing_makes : Makes deep [] (pure nothing) ([·]) := given_makes rfl rfl

/-- A scalar is made of nothing. -/
theorem leaf_makes (anchor tag : Option String) (isPlain : Bool) (text : String) :
    Makes deep [] (leaf anchor tag isPlain text) ([·]) := by
  unfold leaf
  refine Spec.bind _ (declare_spec anchor) (fun number => complete_spec anchor number _) ?_
  rintro before number between node after ⟨-, given, kept⟩ ⟨rfl, count, anchored⟩
  have made : Made before between [] := .idle (by omega) kept
  exact ⟨_, (made.leaf rfl rfl).complete count anchored, rfl⟩

/-- A step that, after a number was given, makes the node of this number, and perhaps gives it an
anchor. -/
def Fills (deep number : Nat) (step : Compose Node) : Prop :=
  Spec deep step fun before node after => node.number? = some number ∧
    ∃ last, Made before last node.children ∧ after.count = last.count ∧
      (after.anchored = last.anchored ∨ after.anchored = (number, node) :: last.anchored)

/-- A collection is made of its children. -/
theorem numbered_makes (anchor : Option String) {rest : Nat → Compose Node}
    (fills : ∀ number, Fills deep number (rest number)) :
    Makes deep [] (declare anchor >>= rest) ([·]) := by
  refine Spec.bind _ (declare_spec anchor) fills ?_
  rintro before number between node after ⟨rfl, given, kept⟩
    ⟨numbered, last, made, count, anchored⟩
  exact ⟨_, (made.collection numbered given kept).complete count anchored, rfl⟩

/-- A collection that is complete when its parts are. -/
theorem fills_complete {inner : Compose α} {children : α → List Node} {build : α → Node}
    {anchor : Option String} {number : Nat} (first : Makes deep [] inner children)
    (parts : ∀ value, (build value).children = children value)
    (numbered : ∀ value, (build value).number? = some number) :
    Fills deep number (do complete anchor number (build (← inner))) := by
  refine Spec.bind _ first (fun value => complete_spec anchor number (build value)) ?_
  rintro before value last node after ⟨own, made, same⟩ ⟨rfl, count, anchored⟩
  rw [List.nil_append] at same
  refine ⟨numbered value, last, ?_, count, anchored⟩
  rw [parts, same]
  exact made

/-- A collection without an anchor that is made together with its parts. -/
theorem fills_of_makes {step : Compose Node} {number : Nat} (makes : Makes deep [] step children)
    (numbered : Spec deep step fun _ node _ => node.number? = some number) :
    Fills deep number step := by
  refine (numbered.and makes).mono ?_
  rintro before node after ⟨found, back, made, same⟩
  rw [List.nil_append] at same
  exact ⟨found, after, same ▸ made, rfl, .inl rfl⟩

/-- After a comma, if one is needed, what comes next is made. -/
theorem afterComma_makes {isFirst : Bool} {rest : Compose α} {nodes : α → List Node}
    (makes : Makes deep [] rest nodes) :
    Makes deep [] (do
      if !isFirst then
        if !(← take? .flowEntry) then Compose.fail
      rest) nodes := by
  split
  · refine (take?_makes _).skip fun taken => ?_
    split
    · exact .skip .fail fun _ => makes
    · exact makes
  · exact makes

/-- What the readers of nodes and of what is in them make with so much fuel, going so many levels
deep. -/
structure AllMake (deep fuel : Nat) : Prop where
  nodeUnless : ∀ stops inBlock indentless,
    Makes deep [] (nodeUnless stops inBlock indentless fuel) ([·])
  node : ∀ inBlock indentless, Makes deep [] (node inBlock indentless fuel) ([·])
  content : ∀ inBlock indentless anchor tag,
    Makes deep [] (content inBlock indentless anchor tag fuel) ([·])
  blockItems : Makes deep [] (blockItems fuel) id
  indentlessItems : Makes deep [] (indentlessItems fuel) id
  blockEntries : Makes deep [] (blockEntries fuel) (·.flatMap pair)
  flowItems : ∀ isFirst, Makes deep [] (flowItems isFirst fuel) id
  flowItem : Makes deep [] (flowItem fuel) ([·])
  flowEntries : ∀ isFirst, Makes deep [] (flowEntries isFirst fuel) (·.flatMap pair)
  flowEntry : Makes deep [] (flowEntry fuel) pair

namespace AllMake

variable {fuel : Nat} (all : AllMake deep fuel)

include all

theorem deeper : AllMake (deep + 1) fuel where
  nodeUnless stops inBlock indentless := (all.nodeUnless stops inBlock indentless).deeper
  node inBlock indentless := (all.node inBlock indentless).deeper
  content inBlock indentless anchor tag := (all.content inBlock indentless anchor tag).deeper
  blockItems := all.blockItems.deeper
  indentlessItems := all.indentlessItems.deeper
  blockEntries := all.blockEntries.deeper
  flowItems isFirst := (all.flowItems isFirst).deeper
  flowItem := all.flowItem.deeper
  flowEntries isFirst := (all.flowEntries isFirst).deeper
  flowEntry := all.flowEntry.deeper

theorem nodeUnless_succ (stops : List Token) (inBlock indentless : Bool) :
    Makes deep [] (Compose.nodeUnless stops inBlock indentless (fuel + 1)) ([·]) := by
  unfold Compose.nodeUnless
  refine peek_makes.skip fun token => ?_
  split
  · exact nothing_makes
  · exact all.node inBlock indentless

theorem node_succ (inBlock indentless : Bool) :
    Makes deep [] (Compose.node inBlock indentless (fuel + 1)) ([·]) := by
  unfold Compose.node
  refine peek_makes.skip fun token => ?_
  split
  · rename_i name
    refine advance_makes.skip fun _ => get_makes.skip fun draft => ?_
    split
    · exact given_makes rfl rfl
    · exact .fail
  · exact properties_makes.skip fun (anchor, tag) => all.content inBlock indentless anchor tag

theorem content_succ (inBlock indentless : Bool) (anchor tag : Option String) :
    Makes (deep + 1) [] (Compose.content inBlock indentless anchor tag (fuel + 1)) ([·]) := by
  have sequence {items : Compose (List Node)} (first : Makes deep [] items id) :
      Makes (deep + 1) [] (do
        let number ← declare anchor
        complete anchor number (.sequence number (collectionTag tag .seq) (← nested items)))
        ([·]) :=
    numbered_makes anchor fun number =>
      fills_complete (nested_makes first) (fun _ => rfl) fun _ => rfl
  have mapping {entries : Compose (List (Node × Node))}
      (first : Makes deep [] entries (·.flatMap pair)) :
      Makes (deep + 1) [] (do
        let number ← declare anchor
        complete anchor number (.mapping number (collectionTag tag .map) (← nested entries)))
        ([·]) :=
    numbered_makes anchor fun number =>
      fills_complete (nested_makes first) (fun _ => rfl) fun _ => rfl
  have empty : Makes (deep + 1) []
      (if anchor.isSome || tag.isSome then leaf anchor tag true "" else Compose.fail) ([·]) := by
    split
    · exact leaf_makes anchor tag true ""
    · exact .fail
  unfold Compose.content
  refine peek_makes.skip fun token => ?_
  split
  · exact advance_makes.skip fun _ => leaf_makes anchor tag _ _
  · exact advance_makes.skip fun _ => sequence (all.flowItems true)
  · exact advance_makes.skip fun _ => mapping (all.flowEntries true)
  · split
    · exact sequence all.indentlessItems
    · exact empty
  · split
    · exact advance_makes.skip fun _ => sequence all.blockItems
    · exact empty
  · split
    · exact advance_makes.skip fun _ => mapping all.blockEntries
    · exact empty
  · exact empty

theorem blockItems_succ : Makes deep [] (Compose.blockItems (fuel + 1)) id := by
  unfold Compose.blockItems
  refine (take?_makes _).skip fun taken => ?_
  split
  · exact (all.nodeUnless _ _ _).bind fun item => all.blockItems.bind fun items => .pure rfl
  · refine (take?_makes _).skip fun taken => ?_
    split
    · exact .pure rfl
    · exact .fail

theorem indentlessItems_succ : Makes deep [] (Compose.indentlessItems (fuel + 1)) id := by
  unfold Compose.indentlessItems
  refine (take?_makes _).skip fun taken => ?_
  split
  · exact (all.nodeUnless _ _ _).bind fun item => all.indentlessItems.bind fun items => .pure rfl
  · exact .pure rfl

theorem blockEntries_succ : Makes deep [] (Compose.blockEntries (fuel + 1)) (·.flatMap pair) := by
  have rest (key value : Node) :
      Makes deep [key, value] (do return (key, value) :: (← Compose.blockEntries fuel))
        (·.flatMap pair) :=
    all.blockEntries.bind fun entries => .pure rfl
  unfold Compose.blockEntries
  refine (take?_makes _).skip fun taken => ?_
  split
  · refine (all.nodeUnless _ _ _).bind fun key => (take?_makes _).skip fun taken => ?_
    split
    · exact (all.nodeUnless _ _ _).bind (rest key)
    · exact nothing_makes.bind (rest key)
  · refine (take?_makes _).skip fun taken => ?_
    split
    · exact .pure rfl
    · exact .fail

theorem flowItems_succ (isFirst : Bool) :
    Makes deep [] (Compose.flowItems isFirst (fuel + 1)) id := by
  unfold Compose.flowItems
  refine (take?_makes _).skip fun taken => ?_
  split
  · exact .pure rfl
  · refine afterComma_makes ((take?_makes _).skip fun taken => ?_)
    split
    · exact .pure rfl
    · exact all.flowItem.bind fun item => (all.flowItems _).bind fun items => .pure rfl

theorem flowItem_succ : Makes (deep + 1) [] (Compose.flowItem (fuel + 1)) ([·]) := by
  unfold Compose.flowItem
  refine (take?_makes _).skip fun taken => ?_
  split
  · refine numbered_makes none fun number => fills_of_makes (nested_makes ?_)
      (nested_spec ?_ fun _ _ _ _ _ numbered => numbered)
    · refine (all.nodeUnless _ _ _).bind fun key => (take?_makes _).skip fun taken => ?_
      split
      · exact (all.nodeUnless _ _ _).bind fun value => .pure rfl
      · exact nothing_makes.bind fun value => .pure rfl
    · refine (all.nodeUnless _ _ _).further fun key => (take?_makes _).further fun taken => ?_
      split
      · exact (all.nodeUnless _ _ _).further fun value => .pure fun _ => rfl
      · exact nothing_makes.further fun value => .pure fun _ => rfl
  · exact all.deeper.node _ _

theorem flowEntries_succ (isFirst : Bool) :
    Makes deep [] (Compose.flowEntries isFirst (fuel + 1)) (·.flatMap pair) := by
  unfold Compose.flowEntries
  refine (take?_makes _).skip fun taken => ?_
  split
  · exact .pure rfl
  · refine afterComma_makes ((take?_makes _).skip fun taken => ?_)
    split
    · exact .pure rfl
    · exact all.flowEntry.bind fun item => (all.flowEntries _).bind fun items => .pure rfl

theorem flowEntry_succ : Makes deep [] (Compose.flowEntry (fuel + 1)) pair := by
  unfold Compose.flowEntry
  refine (take?_makes _).skip fun taken => ?_
  split
  · refine (all.nodeUnless _ _ _).bind fun key => (take?_makes _).skip fun taken => ?_
    split
    · exact (all.nodeUnless _ _ _).bind fun value => .pure rfl
    · exact nothing_makes.bind fun value => .pure rfl
  · have bare (item : Node) :
        Makes deep [item] (pure nothing >>= fun value => pure (item, value)) pair :=
      nothing_makes.bind fun value => .pure rfl
    exact (all.node _ _).bind bare

end AllMake

/-- With whatever fuel, the readers of nodes make the nodes that they give, and go no deeper than
there is fuel. -/
theorem allMake (fuel : Nat) : AllMake fuel fuel := by
  induction fuel with
  | zero =>
    exact ⟨fun _ _ _ => .fail, fun _ _ => .fail, fun _ _ _ _ => .fail, .fail, .fail, .fail,
      fun _ => .fail, .fail, fun _ => .fail, .fail⟩
  | succ fuel all =>
    have more := all.deeper
    exact ⟨more.nodeUnless_succ, more.node_succ, all.content_succ, more.blockItems_succ,
      more.indentlessItems_succ, more.blockEntries_succ, more.flowItems_succ, all.flowItem_succ,
      more.flowEntries_succ, more.flowEntry_succ⟩

/-! ## Documents -/

/-- Directives make nothing. -/
theorem directives_makes (hasVersion : Bool) (handles : List (String × String)) (fuel : Nat) :
    Makes deep [] (directives hasVersion handles fuel) fun _ => [] := by
  induction fuel generalizing hasVersion handles with
  | zero => exact .fail
  | succ fuel ih =>
    unfold directives
    refine peek_makes.skip fun token => ?_
    split
    · refine advance_makes.skip fun _ => ?_
      split
      · split
        · exact .fail
        · exact ih _ _
      · split
        · exact .fail
        · exact ih _ _
      · exact ih _ _
    · exact .pure rfl

/-- Marks at ends of documents make nothing. -/
theorem skipEnds_makes (fuel : Nat) : Makes deep [] (skipEnds fuel) fun _ => [] := by
  induction fuel with
  | zero => exact .fail
  | succ fuel ih =>
    unfold skipEnds
    refine (take?_makes _).skip fun taken => ?_
    split
    · exact ih
    · exact .pure rfl

/-- Between two drafts a document was made: its nodes, and what has anchors and numbers in the
end. -/
def Finished (before : Draft) (document : Document) (after : Draft) : Prop :=
  Made before after [document.root] ∧ document.anchored = after.anchored ∧
    document.count = after.count

/-- The body of a document is finished with its node. -/
theorem body_spec {reader : Compose Node} (makes : Makes deep [] reader ([·])) :
    Spec deep (body reader) Finished := by
  have ending (root : Node) :
      Spec deep (do
        let _ ← take? .documentEnd
        let draft ← get
        return Document.mk root draft.anchored draft.count draft.room)
        fun before document after => Made before after [] ∧
          document = ⟨root, after.anchored, after.count, after.room⟩ := by
    refine .bind (fun _ before document after => after = before ∧
      document = ⟨root, after.anchored, after.count, after.room⟩) (take?_spec _) (fun _ => ?_) ?_
    · exact fun before => ⟨⟨List.suffix_refl before.tokens, rfl⟩, rfl, rfl⟩
    · rintro before _ between document after ⟨made, -⟩ ⟨rfl, same⟩
      exact ⟨made, same⟩
  unfold body
  refine .bind _ makes ending ?_
  rintro before root between document after ⟨own, first, same⟩ ⟨second, rfl⟩
  obtain rfl : [root] = own := same
  exact ⟨first.append second, rfl, rfl⟩

/-- A step that gives a document, perhaps, which is finished. -/
def Finishes (deep : Nat) (step : Compose (Option Document)) : Prop :=
  Spec deep step fun before result after => ∀ document ∈ result, Finished before document after

/-- What comes before a document may make nothing. -/
theorem Finishes.skip {step : Compose α} {next : α → Compose (Option Document)}
    (first : Makes deep [] step fun _ => []) (second : ∀ value, Finishes deep (next value)) :
    Finishes deep (step >>= next) := by
  refine Spec.bind _ first second ?_
  rintro before value between result after ⟨_, idle, same⟩ later document member
  obtain ⟨made, rest⟩ := later document member
  rw [List.nil_append] at same
  exact ⟨(same ▸ idle).append made, rest⟩

/-- A body is the end of a document. -/
theorem finishes_body {reader : Compose Node} (makes : Makes deep [] reader ([·])) :
    Finishes deep (do return some (← body reader)) := by
  refine .bind (fun document before result after => result = some document ∧ after = before)
    (body_spec makes) (fun document => .pure fun _ => ⟨rfl, rfl⟩) ?_
  rintro before document between result after finished ⟨rfl, rfl⟩ _ ⟨⟩
  exact finished

/-- A step that takes a token if it gives a document. -/
def Takes (deep : Nat) (step : Compose (Option Document)) : Prop :=
  Spec deep step fun before result after =>
    result.isSome = true → after.tokens.length < before.tokens.length

/-- What comes before puts no tokens back. -/
theorem Takes.skip {step : Compose α} {next : α → Compose (Option Document)}
    {post : Draft → α → Draft → Prop} (first : Spec deep step post)
    (second : ∀ value, Takes deep (next value)) : Takes deep (step >>= next) := by
  refine Spec.bind _ first.suffix second ?_
  rintro before value between result after ⟨short, -⟩ later some
  exact Nat.lt_of_lt_of_le (later some) short.1.length_le

/-- A change of handles makes nothing. -/
theorem handles_makes (handles : List (String × String)) :
    Makes deep [] (modify fun draft => { draft with handles := handles }) fun _ => [] :=
  fun before => ⟨⟨List.suffix_refl before.tokens, rfl⟩, [], .idle (Nat.le_refl _) rfl, rfl⟩

/-- What stands after the mark at the start of a document is a node or nothing. -/
theorem marked_makes (fuel : Nat) : Makes fuel [] (do
    match ← peek with
    | .directive _ | .documentStart | .documentEnd | .streamEnd => return nothing
    | _ => node true false fuel) ([·]) := by
  refine peek_makes.skip fun token => ?_
  split
  · exact nothing_makes
  · exact nothing_makes
  · exact nothing_makes
  · exact nothing_makes
  · exact (allMake fuel).node true false

/-- The next document is finished, from a draft without anchors on. -/
theorem documentWithin?_finishes (isFirst : Bool) (fuel : Nat) :
    Spec fuel (documentWithin? isFirst fuel) fun _ result after =>
      ∀ document ∈ result, ∃ start, start.anchored = [] ∧ Finished start document after := by
  unfold documentWithin?
  refine Spec.bind (fun _ start result after =>
    ∀ document ∈ result, Finished start document after) (Spec.modify (fun _ => rfl) fun _ => rfl)
    (fun _ => ?_) ?_
  · refine Finishes.skip peek_makes fun token => .ite (fun _ => ?_) fun _ => ?_
    · exact finishes_body ((allMake _).node _ _)
    · refine Finishes.skip (skipEnds_makes _) fun _ => .skip peek_makes fun token =>
        .ite (fun _ => .pure fun _ _ member => absurd member (Option.not_mem_none _))
          fun _ => ?_
      refine Finishes.skip (directives_makes _ _ _) fun handles =>
        .skip (take?_makes _) fun taken => .ite (fun _ => ?_) fun _ => .fail
      exact Finishes.skip (handles_makes _) fun _ => finishes_body (marked_makes _)
  · rintro before _ start result after rfl finished document member
    exact ⟨_, rfl, finished document member⟩

/-- How much fuel there is for a document. -/
def documentFuel (before : Draft) : Nat := 8 * before.tokens.length + 16

/-- The next document is read with fuel for its tokens. -/
theorem document?_eq (isFirst : Bool) (before : Draft) :
    document? isFirst before = documentWithin? isFirst (documentFuel before) before := rfl

end Compose

namespace Document

/-- A document in which a number belongs to one collection and every anchor leads to a part. -/
structure Lawful (document : Document) : Prop where
  /-- The numbers of collections are in use. -/
  numbered : ∀ part, Within part document.root → ∀ number, part.number? = some number →
    number < document.count
  /-- No two collections have one number. -/
  single : ∀ first second, Within first document.root → Within second document.root →
    ∀ number, first.number? = some number → second.number? = some number → first = second
  /-- What has an anchor is a part. -/
  anchored : ∀ entry ∈ document.anchored, Within entry.2 document.root

end Document

/-! ## What becomes of a draft -/

section

open Compose

variable {isFirst : Bool} {before after : Draft} {document : Document} {reason : Stop}

/-- What follows from the specification of a step that succeeds. -/
theorem Compose.Spec.of_ok {α : Type} {step : Compose α} {post : Draft → α → Draft → Prop}
    {deep : Nat} {value : α} (spec : Spec deep step post)
    (done : step before = .ok (value, after)) :
    (after.tokens <:+ before.tokens ∧ after.room = before.room) ∧ post before value after := by
  have outcome := spec before
  rwa [done] at outcome

/-- Composing leaves the end of the tokens and the room. -/
theorem rest_of_document? {result : Option Document}
    (composed : document? isFirst before = .ok (result, after)) :
    after.tokens <:+ before.tokens ∧ after.room = before.room :=
  ((documentWithin?_finishes isFirst _).of_ok composed).1

/-- Composing stops where the text is malformed, where the tokens stop or where there is no room for
as many levels as the tokens may have. -/
theorem halts_of_document? (stopped : document? isFirst before = .error reason) :
    Halts (documentFuel before) before reason := by
  have outcome := documentWithin?_finishes isFirst (documentFuel before) before
  rw [document?_eq] at stopped
  rwa [stopped] at outcome

end

end CodeAtlas.Yaml
