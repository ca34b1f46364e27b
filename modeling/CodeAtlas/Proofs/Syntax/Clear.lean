import CodeAtlas.Proofs.Syntax.Fault
import CodeAtlas.Proofs.Syntax.Parse
import CodeAtlas.Proofs.Syntax.Parts

/-!
# What is read marks no fault

No rule of a covered language makes a node that marks a fault. So a source is either read to a tree
without one, or it is a program of a single fault, which is soon found: `firstError?_parse`.
-/
namespace CodeAtlas.Syntax

/-- Whether nodes of a kind mark no fault. -/
def Kind.isClear (kind : Kind) : Bool := kind != .error && kind != .missing

namespace Terminal

/-- Whether the tokens of a terminal mark no fault. -/
def isClear : Terminal → Bool
  | .name kind _ | .elementName kind => kind.isClear
  | _ => true

/-- A token of such a terminal marks no fault. -/
theorem isClear_of_read {language : Language} {cursor : Cursor} {terminal : Terminal}
    {token : Token} (clear : terminal.isClear = true)
    (read : terminal.read language cursor = .ok token) : token.kind.isClear = true := by
  cases terminal with
  | insertedSemicolon follow =>
    rw [Terminal.read] at read
    split at read
    · cases read
      rfl
    · contradiction
  | name kind reserved =>
    obtain ⟨last, _, rfl⟩ := exists_of_afterGap read
    exact clear
  | elementName kind =>
    obtain ⟨last, _, rfl⟩ := exists_of_afterGap read
    exact clear
  | _ =>
    rw [Terminal.read] at read
    obtain ⟨last, _, rfl⟩ := exists_of_afterGap read
    rfl

end Terminal

/-- A draft without a mark of a fault. -/
def Draft.Clear (draft : Draft) : Prop := draft.Throughout (·.kind.isClear = true)

/-- A draft without a mark has none in a place. -/
theorem Draft.Clear.inField {draft : Draft} (clear : draft.Clear) (field : Field) :
    (draft.inField field).Clear := by
  have here : (draft.inField field).kind.isClear = true := by
    rw [kind_inField]
    exact clear.here
  exact Throughout.inField clear here

namespace Rule

variable {Phrase : Type} {language : Language} {start : Cursor}

/-- Whether a rule makes no node that marks a fault, if phrases make none. -/
def isClear : Rule Phrase → Bool
  | .done | .ref _ | .ahead _ | .absent _ => true
  | .token terminal => terminal.isClear
  | .seq first second | .alt first second | .grow first second => first.isClear && second.isClear
  | .opt body | .many body | .field _ body | .only _ body => body.isClear
  | .node kind body | .onto kind body => kind.isClear && body.isClear

/-- Phrases that give drafts without a mark. -/
def clearMeaning : Meaning Phrase := fun _ _ drafts _ => ∀ draft ∈ drafts, draft.Clear

/-- A rule that makes no node that marks a fault gives drafts without a mark, if it goes on from
such. -/
theorem clear_of_gives {rule : Rule Phrase} (clear : rule.isClear = true) :
    ∀ before cursor drafts last, (∀ draft ∈ before, draft.Clear) →
      rule.Gives language start clearMeaning before cursor drafts last →
        ∀ draft ∈ drafts, draft.Clear := by
  induction rule with
  | done | ahead _ _ | absent _ _ =>
    rintro _ _ _ _ - ⟨rfl, _⟩
    exact List.forall_mem_nil _
  | token terminal =>
    rintro _ _ _ _ - ⟨_, token, read, rfl, _⟩
    exact List.forall_mem_singleton.mpr
      ⟨Terminal.isClear_of_read clear read, Terminal.isComment_of_read read⟩
  | seq first second one two =>
    rintro before _ _ _ given ⟨_, _, _, head, tail, rfl⟩
    rw [isClear, Bool.and_eq_true] at clear
    exact List.forall_mem_append.mpr
      ⟨one clear.1 _ _ _ _ given head, two clear.2 _ _ _ _ given tail⟩
  | alt first second one two =>
    rw [isClear, Bool.and_eq_true] at clear
    rintro before _ _ _ given (gives | gives)
    · exact one clear.1 _ _ _ _ given gives
    · exact two clear.2 _ _ _ _ given gives
  | opt body ih =>
    rintro before _ _ _ given (gives | ⟨rfl, _⟩)
    · exact ih clear _ _ _ _ given gives
    · exact List.forall_mem_nil _
  | many body ih =>
    intro before _ _ _ given repeated
    exact repeated.forall_mem fun _ _ _ gives => ih clear _ _ _ _ given gives
  | node kind body ih =>
    rintro before _ _ _ given ⟨children, gives, rfl⟩
    rw [isClear, Bool.and_eq_true] at clear
    have inner := ih clear.2 _ _ _ _ given gives
    exact List.forall_mem_singleton.mpr ⟨clear.1, Draft.throughoutAll_iff.mpr inner⟩
  | field place body ih =>
    rintro before _ _ _ given ⟨inner, gives, rfl⟩
    have unplaced := ih clear _ _ _ _ given gives
    exact List.forall_mem_map.mpr fun draft member => (unplaced draft member).inField place
  | ref phrase =>
    rintro _ _ _ _ - gives
    exact gives
  | grow base step one two =>
    rintro before _ _ _ given ⟨found, _, gives, grown⟩
    rw [isClear, Bool.and_eq_true] at clear
    exact grown.forall_mem (one clear.1 _ _ _ _ given gives) (two clear.2)
  | onto kind body ih =>
    rintro before _ _ _ given ⟨children, gives, rfl⟩
    rw [isClear, Bool.and_eq_true] at clear
    have inner := ih clear.2 _ _ _ _ (List.forall_mem_nil _) gives
    exact List.forall_mem_singleton.mpr
      ⟨clear.1, Draft.throughoutAll_iff.mpr (List.forall_mem_append.mpr ⟨given, inner⟩)⟩
  | only kinds body ih =>
    rintro before _ _ _ given ⟨draft, gives, _, rfl⟩
    exact ih clear _ _ _ _ given gives

end Rule

namespace Grammar

open Rule

variable {language : Language}

/-- The first that fits of rules that make no fault makes none. -/
theorem isClear_anyOf {rules : List R} (clear : rules.all (·.isClear) = true) :
    (anyOf rules).isClear = true := by
  refine anyOf_of_forall (List.all_eq_true.mp clear) (fun _ => rfl) fun first second one two => ?_
  rw [isClear, one, two]
  rfl

/-- What grows of a phrase makes no fault, if what follows makes none. -/
theorem isClear_grow {operand : Phrase} {follow : Follow} {rules : List R}
    (clear : rules.all (·.isClear) = true) :
    (Rule.grow (.ref operand) (.seq (unended follow) (anyOf rules))).isClear = true := by
  have ends : (unended follow).isClear = true := by
    unfold unended
    split <;> rfl
  rw [Rule.isClear, Rule.isClear, Rule.isClear, ends, isClear_anyOf clear]
  rfl

/-- Binary operators of any level make no fault. -/
theorem isClear_binaryRule (language : Language) (follow : Follow) (level : Nat) :
    (binaryRule language follow level).isClear = true := by
  refine isClear_grow ?_
  rw [List.all_append, Bool.and_eq_true, List.all_map]
  refine ⟨List.all_eq_true.mpr fun _ _ => rfl, ?_⟩
  split
  · rfl
  · cases language <;> cases follow.inWord <;> rfl

/-- The rule of every phrase of every language makes no fault. -/
theorem isClear_grammarOf (language : Language) (phrase : Phrase) :
    (grammarOf language phrase).isClear = true := by
  cases phrase with
  | binary follow level => exact isClear_binaryRule language follow level
  | operand follow =>
    obtain ⟨semicolon, _, _, _, _⟩ := follow
    cases semicolon <;> cases language <;> rfl
  | sequence follow | expression follow | postfix_ follow | arrowHead follow
  | arrowBlock follow | callSignature follow | type follow | typeUnion follow
  | typeOperand follow | typePostfix follow =>
    obtain ⟨semicolon, _, _, _, types⟩ := follow
    cases semicolon <;> cases types <;> cases language <;> rfl
  | _ => cases language <;> rfl

/-- Drafts without a mark take in what the rule of every phrase gives. -/
theorem clear_closed (language : Language) (start : Cursor) :
    (grammarOf language).Closed language start clearMeaning := by
  intro phrase cursor drafts last _ gives
  exact clear_of_gives (isClear_grammarOf language phrase) _ _ _ _ (List.forall_mem_nil _) gives

end Grammar

/-! ## Trees -/

/-- A node of a clear kind is no fault. -/
theorem Node.isFault_of_isClear {node : Node} (clear : node.kind.isClear = true) :
    node.isFault = false := by
  rw [Kind.isClear, Bool.and_eq_true, bne_iff_ne, bne_iff_ne] at clear
  rw [Node.isFault, Bool.or_eq_false_iff, beq_eq_false_iff_ne, beq_eq_false_iff_ne]
  exact clear

/-- A comment is no fault. -/
theorem Node.IsComment.isFault {node : Node} (comment : node.IsComment) : node.isFault = false := by
  refine Node.isFault_of_isClear ?_
  have kind := comment.kind
  cases which : node.kind <;> simp_all [Kind.isComment, Kind.isClear]

/-- A node that is built of drafts without a mark is no fault. -/
theorem Draft.Builds.isFault {node : Node} (builds : Builds (·.kind.isClear = true) node) :
    node.isFault = false := by
  rcases builds with comment | ⟨draft, clear, rfl⟩
  · exact comment.isFault
  · refine Node.isFault_of_isClear ?_
    rw [kind_build]
    exact clear.here

/-- The tree of drafts without a mark has no error. -/
theorem Draft.hasError_root {span : Span} {drafts : List Draft}
    (clear : ∀ draft ∈ drafts, draft.Clear) :
    (Draft.root .program span drafts).hasError = false := by
  have throughout := throughoutAll_iff.mpr clear
  refine eq_false_of_ne_true fun faulty => ?_
  obtain ⟨node, inside, fault⟩ := Node.hasError_iff.mp faulty
  refine ne_true_of_eq_false ?_ fault
  rcases Node.mem_preorder.mp inside with rfl | ⟨child, member, below⟩
  · rfl
  · rcases isComment_or_exists_of_mem_buildRest throughout member with comment | ⟨draft, among, rfl⟩
    · exact (builds_of_isComment comment below).isFault
    · exact (ThroughoutAll.builds throughout draft among node below).isFault

variable {language : Language} {bytes : List UInt8}

/-- A source is read to a tree without an error, or it is a program of one fault. -/
theorem hasError_parse_or (language : Language) (bytes : List UInt8) :
    (parse language bytes).hasError = false ∨
      ∃ place, parse language bytes = faultFrom bytes place := by
  have clear : sourceRule.isClear = true := by cases language <;> rfl
  rcases gives_or_faulty (Grammar.clear_closed language (Cursor.start bytes)) with
    ⟨drafts, last, tree, gives⟩ | faulty
  · rw [tree]
    exact .inl (Draft.hasError_root
      (Rule.clear_of_gives clear _ _ _ _ (List.forall_mem_nil _) gives))
  · exact .inr faulty

/-- The search of what is read from a source needs two levels. -/
theorem firstError?_parse {levels : Nat} (enough : 2 ≤ levels) :
    (parse language bytes).firstError? levels =
      .ok ((parse language bytes).preorder.find? (·.isFault)) := by
  rw [Node.firstError?_eq (.inr (by omega)), ← Node.map_firstFault?]
  rcases hasError_parse_or language bytes with readable | ⟨place, faulty⟩
  · have none := Node.find?_eq_none_of_hasError readable
    rw [← Node.map_firstFault?, Option.map_eq_none_iff] at none
    rw [none]
    rfl
  · rw [faulty]
    exact Node.reached_of_le enough

end CodeAtlas.Syntax
