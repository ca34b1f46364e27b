import CodeAtlas.Proofs.Yaml.Lexical
import CodeAtlas.Proofs.Yaml.Sound

/-!
# Faults of texts

The documents of a text are read one after the other, each checked as soon as it is complete. A
text has a fault if the first of them that is not sound has it, or if its tokens stop at it or go
deeper than there is room; reading finds exactly this fault: `fault?_eq_some_iff`. The fault is that
of a scalar that is looked at, or that of the tokens: `HasFault.blamed`.
-/
namespace CodeAtlas.Yaml

namespace Document

variable {document : Document} {fault : Fault}

/-- A document without a problem writes a value. -/
def Sound (document : Document) : Prop := ∀ reason, ¬ document.Problem reason

/-- A node stands where a moment is needed, but is a mapping. -/
def MappedMoment (document : Document) (node : Node) : Prop :=
  document.tagOf node = .timestamp ∧
    ∃ number tag entries, document.resolve node = .mapping number tag entries

/-- A scalar that is looked at, or a mapping that stands for one, cannot be converted. -/
inductive Unconvertible (document : Document) (fault : Fault) : Prop where
  /-- The text writes no value of its kind. -/
  | text {node : Node} {text : String} (reached : Reaches document node)
    (single : isCollection (document.tagOf node) = false)
    (written : document.textOf document.reach node = .ok text)
    (direct : ¬ document.MappedMoment node)
    (fails : (document.tagOf node).check text = .error (.fault fault))
  /-- A mapping is said to be a moment. -/
  | moment {node : Node} {text : String} (reached : Reaches document node)
    (written : document.textOf document.reach node = .ok text)
    (mapped : document.MappedMoment node) (same : fault = .momentOfMapping)
  /-- The text lies deeper than values are followed. -/
  | endless {node : Node} (reached : Reaches document node)
    (single : isScalar (document.tagOf node) = true)
    (deep : document.textOf document.reach node = .error (.fault .tooDeep))
    (same : fault = .tooDeep)

/-- The text of a node has no fault but that it lies too deep. -/
theorem eq_tooDeep_of_textOf {levels : Nat} {node : Node}
    (stopped : document.textOf levels node = .error (.fault fault)) : fault = .tooDeep := by
  induction levels generalizing node with
  | zero =>
    cases stopped
    rfl
  | succ levels ih =>
    unfold textOf at stopped
    split at stopped
    · cases stopped
    · split at stopped
      · exact ih stopped
      · cases stopped
    · cases stopped

/-- A tag of a scalar is of no collection. -/
theorem isCollection_of_isScalar {tag : Tag} (single : isScalar tag = true) :
    isCollection tag = false := by
  cases tag with
  | seq | map | set | omap | pairs => cases single
  | _ => rfl

/-- No text is of a tag that is of no scalar. -/
theorem check_of_not_isScalar {tag : Tag} (other : isScalar tag = false) (text : String) :
    tag.check text = malformed := by
  cases tag with
  | seq | map | set | omap | pairs | merge | value | other => rfl
  | _ => cases other

/-- A node with a fault has the tag of a scalar. -/
theorem isScalar_of_checkScalar {node : Node}
    (fails : document.checkScalar (document.tagOf node) node = .error (.fault fault)) :
    isScalar (document.tagOf node) = true := by
  by_contra other
  rw [checkScalar, if_neg other] at fails
  cases fails

/-- Checking a scalar that has a text. -/
theorem checkScalar_of_text {node : Node} {text : String}
    (written : document.textOf document.reach node = .ok text) :
    (document.MappedMoment node → document.checkScalar (document.tagOf node) node =
        .error (.fault .momentOfMapping)) ∧
      (¬ document.MappedMoment node → document.checkScalar (document.tagOf node) node =
        (document.tagOf node).check text) := by
  constructor
  · rintro ⟨tagged, number, tag, entries, mapping⟩
    rw [checkScalar, written, tagged, mapping]
    rfl
  · intro direct
    cases single : isScalar (document.tagOf node) with
    | false =>
      rw [check_of_not_isScalar single, checkScalar, single]
      rfl
    | true =>
      rw [checkScalar, if_pos single, written]
      dsimp only [bind, Except.bind]
      split
      · rename_i tagged mapping
        exact absurd ⟨tagged, _, _, _, mapping⟩ direct
      · rfl

/-- A document has the problem of a fault exactly if a scalar in it cannot be converted for it. -/
theorem problem_fault_iff : document.Problem (.fault fault) ↔ document.Unconvertible fault := by
  constructor
  · intro problem
    cases problem with
    | @scalar node _ reached single fails =>
      have scalar := isScalar_of_checkScalar fails
      have checked := fails
      rw [checkScalar, if_pos scalar] at checked
      obtain unwritten | ⟨text, written, -⟩ := bind_eq_error_iff.mp checked
      · obtain rfl := eq_tooDeep_of_textOf unwritten
        exact .endless reached scalar unwritten rfl
      · obtain ⟨moment, other⟩ := checkScalar_of_text written
        by_cases mapped : document.MappedMoment node
        · rw [moment mapped] at fails
          cases fails
          exact .moment reached written mapped rfl
        · rw [other mapped] at fails
          exact .text reached single written mapped fails
  · intro unconvertible
    cases unconvertible with
    | text reached single written direct fails =>
      exact .scalar reached single (((checkScalar_of_text written).2 direct).trans fails)
    | @moment node _ reached written mapped same =>
      have single : isCollection (document.tagOf node) = false := by
        rw [mapped.1]
        rfl
      exact same ▸ .scalar reached single ((checkScalar_of_text written).1 mapped)
    | endless reached single deep same =>
      refine same ▸ .scalar reached (isCollection_of_isScalar single) ?_
      rw [checkScalar, if_pos single, deep]
      rfl

end Document

/-! ## Documents one after the other -/

/-- A document is composed after others from a draft on, all of them sound. -/
inductive Composed (document : Document) : Bool → Draft → Prop where
  /-- It is the first one. -/
  | first {isFirst : Bool} {before after : Draft}
    (composed : Compose.document? isFirst before = .ok (some document, after)) :
    Composed document isFirst before
  /-- A sound document precedes it. -/
  | later {isFirst : Bool} {before after : Draft} {other : Document}
    (composed : Compose.document? isFirst before = .ok (some other, after)) (sound : other.Sound)
    (rest : Composed document false after) : Composed document isFirst before

/-- From a draft on a fault is found, after sound documents. -/
inductive FaultFrom (fault : Fault) : Bool → Draft → Prop where
  /-- No document can be composed, since the tokens stop. -/
  | stopped {isFirst : Bool} {before : Draft}
    (stop : Compose.document? isFirst before = .error (.fault fault)) :
    FaultFrom fault isFirst before
  /-- The document that is composed has the fault. -/
  | checked {isFirst : Bool} {before after : Draft} {document : Document}
    (composed : Compose.document? isFirst before = .ok (some document, after))
    (fails : document.check = .error (.fault fault)) : FaultFrom fault isFirst before
  /-- A sound document precedes the fault. -/
  | later {isFirst : Bool} {before after : Draft} {document : Document}
    (composed : Compose.document? isFirst before = .ok (some document, after))
    (sound : document.Sound) (rest : FaultFrom fault false after) : FaultFrom fault isFirst before

section

variable {isFirst : Bool} {before after : Draft} {document : Document} {fault : Fault}

/-- A fault is that of a scalar in a document whose predecessors are sound, or the tokens stop at
it, or there is not room for as many levels as they may have. -/
theorem FaultFrom.blamed (found : FaultFrom fault isFirst before) :
    (∃ document, Composed document isFirst before ∧ document.Unconvertible fault) ∨
      Token.stop (.fault fault) ∈ before.tokens ∨
        fault = .tooDeep ∧ before.room < Compose.documentFuel before := by
  induction found with
  | stopped stop =>
    cases halts_of_document? stop with
    | stop member => exact .inr (.inl member)
    | tooDeep short => exact .inr (.inr ⟨rfl, short⟩)
  | checked composed fails =>
    have problem := Document.problem_fault_iff.mp (Document.problem_of_check fails)
    exact .inl ⟨_, .first composed, problem⟩
  | later composed sound _ ih =>
    obtain ⟨rest, room⟩ := rest_of_document? composed
    rcases ih with ⟨document, further, problem⟩ | member | ⟨deep, short⟩
    · exact .inl ⟨document, .later composed sound further, problem⟩
    · exact .inr (.inl (rest.subset member))
    · have fewer := rest.length_le
      unfold Compose.documentFuel at short ⊢
      exact .inr (.inr ⟨deep, by omega⟩)

end

/-! ## Texts -/

/-- What is known before the first document of a text, with room for so many levels. -/
def Draft.ofText (levels : Nat) (text : List Char) : Draft :=
  ⟨Token.ofText text, [], [], [], 0, levels⟩

/-- A text that may be read, with room for so many levels, has a fault, which is found before the
text is malformed. -/
structure HasFault (levels : Nat) (text : List Char) (fault : Fault) : Prop where
  /-- All characters may stand in a text. -/
  printable : text.all isPrintable = true
  /-- The fault is found from the beginning on. -/
  found : FaultFrom fault true (.ofText levels text)

/-- The fault of a text is that of a scalar in one of its documents, or its tokens stop at it, which
they do for few faults only, or there is not room for as many levels as they may have. -/
theorem HasFault.blamed {levels : Nat} {text : List Char} {fault : Fault}
    (faulty : HasFault levels text fault) :
    (∃ document, Composed document true (.ofText levels text) ∧ document.Unconvertible fault) ∨
      (Token.stop (.fault fault) ∈ Token.ofText text ∧ Lexical (.fault fault)) ∨
        fault = .tooDeep ∧ levels < 8 * (Token.ofText text).length + 16 :=
  faulty.found.blamed.imp_right (Or.imp_left fun stop => ⟨stop, lexical_of_stop stop⟩)

end CodeAtlas.Yaml
