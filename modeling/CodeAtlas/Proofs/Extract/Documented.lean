import CodeAtlas.Proofs.Extract.Functions
import CodeAtlas.Proofs.Text.Lines
import Mathlib.Data.List.Infix

/-!
# Which comments document a declaration

A declaration belongs to the outermost of the nodes that wrap it: `IsAnchor`. It is documented by
the run of block comments that ends right before that node, or before the decorators there, and by
nothing else: `SourceFile.documentation_exact`.
-/
namespace CodeAtlas.Extract

open CodeAtlas.Syntax Focus

/-- Going up from a place leads through nodes of kinds, the innermost first, to another place. -/
inductive Focus.Climbs (root : Node) : List Kind → Focus → Focus → Prop where
  | here {focus : Focus} (occurs : Occurs root focus) : Climbs root [] focus focus
  | up {kinds : List Kind} {focus parent top : Focus} (member : focus ∈ parent.children)
      (further : Climbs root kinds parent top) : Climbs root (parent.node.kind :: kinds) focus top

/-- The kinds of nodes that a declaration may be wrapped in, the innermost first: the variable whose
value it is, the declaration of the variable, and an export. -/
def wrappings : List (List Kind) :=
  let unexported := [[], [.variableDeclarator], [.variableDeclarator, .lexicalDeclaration],
    [.variableDeclarator, .variableDeclaration]]
  unexported ++ unexported.map (· ++ [.exportStatement])

/-- A place is the outermost of those that wrap another, which may be that place itself. -/
structure IsAnchor (root : Node) (focus anchor : Focus) : Prop where
  /-- It wraps the other place. -/
  wraps : ∃ kinds ∈ wrappings, Climbs root kinds focus anchor
  /-- What wraps the other place is within it. -/
  outermost : ∀ kinds ∈ wrappings, ∀ place, Climbs root kinds focus place →
    ∃ rest, Climbs root rest place anchor

/-- The siblings before a place in source order. -/
def Focus.preceding (focus : Focus) : List Node := focus.before.reverse

/-- A comment that begins with the delimiter of block comments. -/
def IsBlockComment (text : Node → List Char) (node : Node) : Prop :=
  node.kind = .comment ∧ ['/', '*'] <+: text node

/-- The longest run of block comments among siblings that ends right before the decorators at their
end, of which there may be none. -/
def IsRun (text : Node → List Char) (siblings run : List Node) : Prop :=
  ∃ others decorators, siblings = others ++ run ++ decorators ∧
    (∀ node ∈ decorators, node.kind = .decorator) ∧
    (∀ node ∈ (others ++ run).getLast?, node.kind ≠ .decorator) ∧
    (∀ node ∈ run, IsBlockComment text node) ∧
    ∀ node ∈ others.getLast?, ¬ IsBlockComment text node

/-! ## Going up -/

variable {root : Node} {focus top : Focus} {kinds : List Kind}

/-- Going up ends at a place, and what is above the first place leads to what is above that. -/
theorem Focus.Climbs.exists_steps (climbs : Climbs root kinds focus top) :
    Occurs root top ∧ ∃ steps, focus.above = steps ++ top.above ∧ steps.map (·.kind) = kinds := by
  induction climbs with
  | here occurs => exact ⟨occurs, [], rfl, rfl⟩
  | @up kinds focus parent top member _ ih =>
    obtain ⟨occurs, steps, around, rfl⟩ := ih
    obtain ⟨left, _, _, above⟩ := mem_children.mp member
    refine ⟨occurs, ⟨parent.node.kind, left.reverse⟩ :: steps, ?_, rfl⟩
    rw [above, around, List.cons_append]

/-- What is above a place is gone up through. -/
theorem Focus.Occurs.exists_climbs (occurs : Occurs root focus) {steps above : List Above}
    (around : focus.above = steps ++ above) :
    ∃ top, top.above = above ∧ Climbs root (steps.map (·.kind)) focus top := by
  induction steps generalizing focus with
  | nil => exact ⟨focus, around, .here occurs⟩
  | cons step steps ih =>
    obtain ⟨parent, inside, member, kind, above'⟩ := occurs.exists_parent around
    obtain ⟨top, ends, further⟩ := ih inside above'
    refine ⟨top, ends, ?_⟩
    rw [List.map_cons, ← kind]
    exact .up member further

/-- Of two places that are gone up to the one with less above it is gone up to from the other. -/
theorem Focus.Climbs.exists_between {inner outer : Focus} {more : List Kind}
    (one : Climbs root kinds focus inner) (other : Climbs root more focus outer)
    {steps : List Above} (around : inner.above = steps ++ outer.above) :
    Climbs root (steps.map (·.kind)) inner outer := by
  obtain ⟨occurs, _⟩ := one.exists_steps
  obtain ⟨placed, _⟩ := other.exists_steps
  obtain ⟨top, above, climbs⟩ := occurs.exists_climbs around
  rwa [climbs.exists_steps.1.eq_of_above placed above] at climbs

/-! ## The outermost wrapping -/

/-- What begins a way of being wrapped is one. -/
theorem mem_wrappings_of_front {less : List Kind} (wraps : kinds ∈ wrappings)
    (begins : less <+: kinds) : less ∈ wrappings := by
  have closed : (wrappings.all fun kinds => kinds.inits.all (wrappings.contains ·)) = true := by
    decide
  have found := List.all_eq_true.mp (List.all_eq_true.mp closed kinds wraps) less
    ((List.mem_inits less kinds).mpr begins)
  simpa using found

/-- An export is wrapped by nothing more. -/
theorem not_mem_wrappings_of_export (kinds : List Kind) (kind : Kind) :
    kinds ++ [.exportStatement, kind] ∉ wrappings := by
  have last : (wrappings.all fun kinds => !kinds.dropLast.contains .exportStatement) = true := by
    decide
  intro wraps
  have found := List.all_eq_true.mp last _ wraps
  rw [List.dropLast_append_of_ne_nil (List.cons_ne_nil _ _)] at found
  simp at found

/-- What is above a place without the variable whose value it is, and the declaration of that. -/
def unbound (above : List Above) : List Above :=
  match above with
  | ⟨.variableDeclarator, _⟩ :: rest =>
    match rest with
    | ⟨.lexicalDeclaration, _⟩ :: rest => rest
    | ⟨.variableDeclaration, _⟩ :: rest => rest
    | _ => rest
  | _ => above

/-- What is above a place without an export. -/
def unexported (above : List Above) : List Above :=
  match above with
  | ⟨.exportStatement, _⟩ :: rest => rest
  | _ => above

/-- The anchor is come to by leaving a variable and then an export. -/
theorem anchor_eq (above : List Above) : anchor above = unexported (unbound above) := rfl

/-- Up to where a variable is left a declaration is wrapped so that an export may follow, but nothing
else. -/
theorem exists_steps_unbound (above : List Above) :
    ∃ steps, above = steps ++ unbound above ∧
      steps.map (·.kind) ++ [.exportStatement] ∈ wrappings ∧
      ∀ step ∈ (unbound above).head?, steps.map (·.kind) ++ [step.kind] ∈ wrappings →
        step.kind = .exportStatement := by
  unfold unbound
  split
  · split
    · exact ⟨[_, _], rfl, by simp [wrappings], by simp [wrappings]⟩
    · exact ⟨[_, _], rfl, by simp [wrappings], by simp [wrappings]⟩
    · rename_i rest lexical declared
      refine ⟨[_], rfl, by simp [wrappings], ?_⟩
      rintro ⟨kind, before⟩ first wraps
      obtain ⟨rest, rfl⟩ := List.head?_eq_some_iff.mp first
      have next : kind = .lexicalDeclaration ∨ kind = .variableDeclaration ∨
          kind = .exportStatement := by simpa [wrappings] using wraps
      rcases next with rfl | rfl | exported
      · exact absurd rfl (lexical before rest)
      · exact absurd rfl (declared before rest)
      · exact exported
  · rename_i other
    refine ⟨[], rfl, by simp [wrappings], ?_⟩
    rintro ⟨kind, before⟩ first wraps
    obtain ⟨rest, rfl⟩ := List.head?_eq_some_iff.mp first
    have next : kind = .variableDeclarator ∨ kind = .exportStatement := by
      simpa [wrappings] using wraps
    rcases next with rfl | exported
    · exact absurd rfl (other before rest)
    · exact exported

/-- An export is left, if there is one. -/
theorem unexported_cases (above : List Above) :
    (∃ before, above = ⟨.exportStatement, before⟩ :: unexported above) ∨
      unexported above = above ∧ ∀ step ∈ above.head?, step.kind ≠ .exportStatement := by
  unfold unexported
  split
  · exact .inl ⟨_, rfl⟩
  · rename_i other
    refine .inr ⟨rfl, ?_⟩
    rintro ⟨kind, before⟩ first rfl
    obtain ⟨rest, rfl⟩ := List.head?_eq_some_iff.mp first
    exact other before rest rfl

/-- Up to the anchor a declaration is wrapped, and by the next node it is not. -/
theorem exists_steps_anchor (above : List Above) :
    ∃ steps, above = steps ++ anchor above ∧ steps.map (·.kind) ∈ wrappings ∧
      ∀ step ∈ (anchor above).head?, steps.map (·.kind) ++ [step.kind] ∉ wrappings := by
  obtain ⟨steps, around, exported, next⟩ := exists_steps_unbound above
  rw [anchor_eq]
  rcases unexported_cases (unbound above) with ⟨before, left⟩ | ⟨same, other⟩
  · refine ⟨steps ++ [⟨.exportStatement, before⟩], ?_, ?_, fun step _ => ?_⟩
    · rw [List.append_assoc, List.singleton_append, ← left]
      exact around
    · rw [List.map_append]
      exact exported
    · rw [List.map_append, List.append_assoc]
      exact not_mem_wrappings_of_export _ _
  · rw [same]
    exact ⟨steps, around, mem_wrappings_of_front exported (List.prefix_append _ _),
      fun step first wraps => other step first (next step first wraps)⟩
/-- A place has an anchor, and what is above that is what is left above the place. -/
theorem Focus.Occurs.exists_isAnchor (occurs : Occurs root focus) :
    ∃ place, IsAnchor root focus place ∧ place.above = anchor focus.above := by
  obtain ⟨steps, around, wraps, free⟩ := exists_steps_anchor focus.above
  obtain ⟨top, ends, climbs⟩ := occurs.exists_climbs around
  refine ⟨top, ⟨⟨_, wraps, climbs⟩, fun kinds other place further => ?_⟩, ends⟩
  obtain ⟨_, others, split, rfl⟩ := further.exists_steps
  rw [around] at split
  rcases List.append_eq_append_iff.mp split with ⟨more, beyond, left⟩ | ⟨less, _, inside⟩
  · cases more with
    | nil =>
      have same : place.above = [] ++ top.above := left.symm.trans ends.symm
      exact ⟨_, further.exists_between climbs same⟩
    | cons step more =>
      -- The place would be reached through one more wrapping than there is.
      refine absurd (mem_wrappings_of_front other ⟨more.map (·.kind), ?_⟩) (free step ?_)
      · simp [beyond]
      · rw [left]
        rfl
  · exact ⟨_, further.exists_between climbs (inside.trans (congrArg _ ends.symm))⟩

/-- A place has one anchor. -/
theorem IsAnchor.unique {anchor other : Focus} (one : IsAnchor root focus anchor)
    (two : IsAnchor root focus other) : other = anchor := by
  obtain ⟨kinds, wraps, climbs⟩ := one.wraps
  obtain ⟨more, again, further⟩ := two.wraps
  obtain ⟨_, up⟩ := one.outermost more again other further
  obtain ⟨_, back⟩ := two.outermost kinds wraps anchor climbs
  obtain ⟨placed, steps, around, _⟩ := up.exists_steps
  obtain ⟨occurs, others, surrounded, _⟩ := back.exists_steps
  refine occurs.eq_of_above placed ?_
  have nothing : steps = [] := by
    have lengths := congrArg List.length (around.trans (congrArg _ surrounded))
    simp only [List.length_append] at lengths
    exact List.length_eq_zero_iff.mp (by omega)
  rw [around, nothing, List.nil_append]

/-! ## The run of comments -/

variable {text : Node → List Char} {siblings run : List Node}

/-- What is taken as a block comment is one. -/
theorem isBlockComment_iff {node : Node} :
    (node.kind == .comment && ['/', '*'].isPrefixOf (text node)) = true ↔
      IsBlockComment text node := by
  rw [Bool.and_eq_true, beq_iff_eq, List.isPrefixOf_iff_prefix, IsBlockComment]

/-- Taking and dropping part nodes where the first one is not taken. -/
theorem takeWhile_dropWhile_append {take : Node → Bool} {front back : List Node}
    (taken : ∀ node ∈ front, take node = true) (stops : ∀ node ∈ back.head?, ¬ take node = true) :
    (front ++ back).takeWhile take = front ∧ (front ++ back).dropWhile take = back := by
  rw [List.takeWhile_append_of_pos taken, List.dropWhile_append_of_pos taken]
  cases back with
  | nil => simp
  | cons node back =>
    have stop := stops node rfl
    rw [List.takeWhile_cons_of_neg stop, List.dropWhile_cons_of_neg stop, List.append_nil]
    exact ⟨rfl, rfl⟩

/-- Nodes consist of those that are taken and others, of which the first is not taken. -/
theorem exists_takeWhile_append (take : Node → Bool) (nodes : List Node) :
    ∃ back, nodes = nodes.takeWhile take ++ back ∧ nodes.dropWhile take = back ∧
      (∀ node ∈ nodes.takeWhile take, take node = true) ∧
      ∀ node ∈ back.head?, ¬ take node = true := by
  refine ⟨_, List.takeWhile_append_dropWhile.symm, rfl, fun node => List.mem_takeWhile_imp,
    fun node first => ?_⟩
  have stopped := List.head?_dropWhile_not take nodes
  rw [Option.mem_def.mp first] at stopped
  simpa using stopped

/-- A run before a place is what is taken there. -/
theorem IsRun.documenting_eq {before : List Node} (isRun : IsRun text before.reverse run) :
    documenting text before = run.reverse := by
  obtain ⟨others, decorators, split, decorating, undecorated, comments, stops⟩ := isRun
  obtain rfl : before = decorators.reverse ++ (run.reverse ++ others.reverse) := by
    simpa using congrArg List.reverse split
  have skipped : (decorators.reverse ++ (run.reverse ++ others.reverse)).dropWhile
      (·.kind == .decorator) = run.reverse ++ others.reverse := by
    refine (takeWhile_dropWhile_append (fun node inside => ?_) fun node first => ?_).2
    · exact beq_iff_eq.mpr (decorating node (List.mem_reverse.mp inside))
    · rw [← List.reverse_append, List.head?_reverse] at first
      exact fun decorator => undecorated node first (beq_iff_eq.mp decorator)
  rw [documenting, skipped]
  refine (takeWhile_dropWhile_append (fun node inside => ?_) fun node first => ?_).1
  · exact isBlockComment_iff.mpr (comments node (List.mem_reverse.mp inside))
  · rw [List.head?_reverse] at first
    exact fun comment => stops node first (isBlockComment_iff.mp comment)

/-- What is taken before a place is a run. -/
theorem isRun_documenting (text : Node → List Char) (before : List Node) :
    IsRun text before.reverse (documenting text before).reverse := by
  obtain ⟨rest, whole, skipped, decorating, undecorated⟩ :=
    exists_takeWhile_append (·.kind == .decorator) before
  have taken : documenting text before = rest.takeWhile fun node =>
      node.kind == .comment && ['/', '*'].isPrefixOf (text node) := by
    rw [documenting, skipped]
  obtain ⟨others, split, _, comments, stops⟩ := exists_takeWhile_append
    (fun node => node.kind == .comment && ['/', '*'].isPrefixOf (text node)) rest
  rw [← taken] at split comments
  refine ⟨others.reverse, (before.takeWhile (·.kind == .decorator)).reverse, ?_,
    fun node inside => ?_, fun node last decorator => ?_, fun node inside => ?_,
    fun node last comment => ?_⟩
  · rw [← List.reverse_append, ← split, ← List.reverse_append, ← whole]
  · exact beq_iff_eq.mp (decorating node (List.mem_reverse.mp inside))
  · rw [← List.reverse_append, ← split, List.getLast?_reverse] at last
    exact undecorated node last (beq_iff_eq.mpr decorator)
  · exact isBlockComment_iff.mp (comments node (List.mem_reverse.mp inside))
  · rw [List.getLast?_reverse] at last
    exact stops node last (isBlockComment_iff.mpr comment)

/-! ## Documentation -/

/-- The siblings before a place are told by what is above it. -/
theorem Focus.before_eq (focus : Focus) :
    focus.before = (focus.above.head?.map (·.before)).getD [] := by
  obtain ⟨node, _ | ⟨step, above⟩⟩ := focus <;> rfl

/-- A declaration with an anchor before which a run stands is documented by the run. -/
theorem IsAnchor.documentation_eq {anchor : Focus} (anchored : IsAnchor root focus anchor)
    (occurs : Occurs root focus) (isRun : IsRun text anchor.preceding run) :
    documentation text focus = ['\n'].intercalate (run.map fun node => Comment.clean (text node)) := by
  obtain ⟨place, found, above⟩ := occurs.exists_isAnchor
  obtain rfl := anchored.unique found
  have taken : documenting text place.before = run.reverse := isRun.documenting_eq
  rw [Focus.before_eq, above] at taken
  rw [documentation, ← Text.joinLines_eq_intercalate]
  rw [taken, List.reverse_reverse]

/-- Every declaration of every tree has one anchor and one run of comments before that. It is
documented by their cleaned texts, and so is every declaration before whose anchor the same run
stands, whatever else is there. -/
theorem SourceFile.documentation_exact (source : SourceFile) (occurs : Occurs root focus) :
    ∃ anchor run, IsAnchor root focus anchor ∧
      (∀ other, IsAnchor root focus other → other = anchor) ∧
      IsRun source.nodeChars anchor.preceding run ∧
      (∀ other, IsRun source.nodeChars anchor.preceding other → other = run) ∧
      source.documentation focus = String.ofList
        (['\n'].intercalate (run.map fun node => Comment.clean (source.nodeChars node))) ∧
      ∀ tree place statement, Occurs tree place → IsAnchor tree place statement →
        IsRun source.nodeChars statement.preceding run →
          source.documentation place = source.documentation focus := by
  obtain ⟨anchor, anchored, _⟩ := occurs.exists_isAnchor
  obtain ⟨run, isRun⟩ : ∃ run, IsRun source.nodeChars anchor.preceding run :=
    ⟨_, isRun_documenting source.nodeChars anchor.before⟩
  have written := anchored.documentation_eq occurs isRun
  refine ⟨anchor, run, anchored, fun other => anchored.unique, isRun, fun other again => ?_,
    congrArg String.ofList written, fun tree place statement inside stated same => ?_⟩
  · exact List.reverse_injective (again.documenting_eq.symm.trans isRun.documenting_eq)
  · exact congrArg String.ofList ((stated.documentation_eq inside same).trans written.symm)

/-- A source with comments of both forms before a function that is bound to a variable and
exported. -/
def commentedFunction : SourceFile where
  path := "commented.ts"
  language := .typescript
  bytes := ("/* far */\n// line\n/** one */ /* two\n * three */\n" ++
    "export const f = () => 1;").toUTF8

/-- A function that is bound and exported is documented by the block comments right before the
export, and not by what is before a line comment. -/
theorem documentation_commentedFunction :
    ∃ focus, Occurs (parse commentedFunction.language commentedFunction.bytes.toList) focus ∧
      focus.node.kind = .arrowFunction ∧
      commentedFunction.documentation focus = "one\ntwo\nthree" ∧
      ∃ anchor run, IsAnchor (parse commentedFunction.language commentedFunction.bytes.toList)
          focus anchor ∧
        IsRun commentedFunction.nodeChars anchor.preceding run ∧
        commentedFunction.documentation focus = String.ofList (['\n'].intercalate
          (run.map fun node => Comment.clean (commentedFunction.nodeChars node))) := by
  have searched :
      ((descendants (parse commentedFunction.language commentedFunction.bytes.toList)).find?
        (·.node.kind == .arrowFunction)).map commentedFunction.documentation =
          some "one\ntwo\nthree" := by decide +kernel
  obtain ⟨focus, found, documented⟩ := Option.map_eq_some_iff.mp searched
  have occurs := mem_descendants_iff.mp (List.mem_of_find?_eq_some found)
  have kind := List.find?_some found
  rw [beq_iff_eq] at kind
  obtain ⟨anchor, run, anchored, _, isRun, _, written, _⟩ :=
    commentedFunction.documentation_exact occurs
  exact ⟨focus, occurs, kind, documented, anchor, run, anchored, isRun, written⟩

end CodeAtlas.Extract
