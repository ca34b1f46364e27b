import CodeAtlas.Proofs.Outcome
import CodeAtlas.Proofs.Yaml.Parts
import CodeAtlas.Yaml.Value

/-!
# Problems of documents

A document has a problem where a scalar that is looked at cannot be converted, where a collection is
not of its kind, and where a key is a collection. Checking a document ends with one of its problems:
`problem_of_check`.
-/
namespace CodeAtlas.Yaml

namespace Document

variable {document : Document}

/-- A node that is looked at: the root, the parts of collections, and their keys, if they are no
collections. -/
inductive Reaches (document : Document) : Node → Prop where
  /-- The root is looked at. -/
  | root : Reaches document document.root
  /-- A part of a collection is looked at. -/
  | part {node child : Node} (reached : Reaches document node)
    (collection : isCollection (document.tagOf node) = true)
    (look : Look.part child ∈ document.looks node) : Reaches document child
  /-- A key of a collection is looked at. -/
  | key {node child : Node} (reached : Reaches document node)
    (collection : isCollection (document.tagOf node) = true)
    (look : Look.key child ∈ document.looks node)
    (single : isCollection (document.tagOf child) = false) : Reaches document child

/-- Why a document writes no value. -/
inductive Problem (document : Document) : Stop → Prop where
  /-- A scalar cannot be converted. -/
  | scalar {node : Node} {reason : Stop} (reached : Reaches document node)
    (single : isCollection (document.tagOf node) = false)
    (fails : document.checkScalar (document.tagOf node) node = .error reason) :
    Problem document reason
  /-- A collection is not of its kind. -/
  | refused {node : Node} (reached : Reaches document node)
    (collection : isCollection (document.tagOf node) = true)
    (look : Look.refuse ∈ document.looks node) : Problem document .malformed
  /-- A key is a collection. -/
  | nested {node child : Node} (reached : Reaches document node)
    (collection : isCollection (document.tagOf node) = true)
    (look : Look.key child ∈ document.looks node)
    (inner : isCollection (document.tagOf child) = true) : Problem document .malformed

/-! ## Scalars -/

/-- Looking at a scalar converts it. -/
theorem lookAt_scalar {node : Node} (single : isCollection (document.tagOf node) = false)
    (later : List Node) (seen : List Nat) :
    document.lookAt later seen node =
      (document.checkScalar (document.tagOf node) node).map fun _ => (later, seen) := by
  rw [lookAt, single]
  cases document.checkScalar (document.tagOf node) node <;> rfl

/-- A scalar that stops a look has a problem. -/
theorem problem_of_scalar {node : Node} {α : Type} {result : Unit → α} {reason : Stop}
    (reached : Reaches document node) (single : isCollection (document.tagOf node) = false)
    (stopped : (document.checkScalar (document.tagOf node) node).map result = .error reason) :
    document.Problem reason := by
  cases outcome : document.checkScalar (document.tagOf node) node with
  | ok =>
    rw [outcome] at stopped
    cases stopped
  | error other =>
    rw [outcome] at stopped
    cases stopped
    exact .scalar reached single outcome

/-! ## Collections -/

/-- Where looking into a collection stops there is a problem. -/
theorem problem_of_lookInto {seen : List Nat} {node : Node} {reason : Stop}
    (reached : Reaches document node) (collection : isCollection (document.tagOf node) = true)
    (stopped : document.lookInto seen node = .error reason) : document.Problem reason := by
  obtain ⟨look, member, ⟨later, known⟩, outcome⟩ := exists_of_foldlM_error stopped
  cases look with
  | part child =>
    have inside : Reaches document child := .part reached collection member
    cases inner : isCollection (document.tagOf child) with
    | false =>
      exact problem_of_scalar inside inner ((lookAt_scalar inner later known).symm.trans outcome)
    | true =>
      change document.lookAt later known child = .error reason at outcome
      rw [lookAt, if_pos inner] at outcome
      split at outcome
      · cases outcome
      · split at outcome <;> cases outcome
  | key child =>
    cases inner : isCollection (document.tagOf child) with
    | false =>
      have inside : Reaches document child := .key reached collection member inner
      change (if isCollection (document.tagOf child) = true then malformed
        else document.lookAt later known child) = .error reason at outcome
      rw [inner, if_neg Bool.false_ne_true, lookAt_scalar inner] at outcome
      exact problem_of_scalar inside inner outcome
    | true =>
      change (if isCollection (document.tagOf child) = true then malformed
        else document.lookAt later known child) = .error reason at outcome
      rw [if_pos inner] at outcome
      cases outcome
      exact .nested reached collection member inner
  | refuse =>
    cases outcome
    exact .refused reached collection member

/-! ## Looks that succeed -/

/-- A look that finds nothing wrong; the number of a collection that it finds is known. -/
inductive Settled (document : Document) (known : Nat → Prop) : Look → Prop where
  /-- A scalar that can be converted. -/
  | scalar {child : Node} (single : isCollection (document.tagOf child) = false)
    (converts : document.checkScalar (document.tagOf child) child = .ok ()) :
    Settled document known (.part child)
  /-- A collection whose number is known. -/
  | collection {child : Node} {number : Nat} (inner : isCollection (document.tagOf child) = true)
    (numbered : document.numberOf? child = some number) (met : known number) :
    Settled document known (.part child)
  /-- A key that can be converted. -/
  | key {child : Node} (single : isCollection (document.tagOf child) = false)
    (converts : document.checkScalar (document.tagOf child) child = .ok ()) :
    Settled document known (.key child)

/-- A look stays settled when more numbers are known. -/
theorem Settled.mono {known more : Nat → Prop} {look : Look}
    (settled : document.Settled known look) (grows : ∀ number, known number → more number) :
    document.Settled more look := by
  cases settled with
  | scalar single converts => exact .scalar single converts
  | collection inner numbered met => exact .collection inner numbered (grows _ met)
  | key single converts => exact .key single converts

/-- What looks that succeeded come to: the collections that they found, and the numbers that were
met, in the end those of the found collections as well. -/
structure Looked (document : Document) (looks : List Look) (seen : List Nat) (found : List Node)
    (met : List Nat) : Prop where
  /-- Collections among the parts are found. -/
  collections : ∀ child ∈ found, isCollection (document.tagOf child) = true ∧
    Look.part child ∈ looks
  /-- Their numbers are met. -/
  met_eq : met = (found.filterMap document.numberOf?).reverse ++ seen
  /-- No number is met twice. -/
  nodup : seen.Nodup → met.Nodup
  /-- Nothing is wrong if the collections have numbers. -/
  settled : (∀ child ∈ found, (document.numberOf? child).isSome = true) →
    ∀ look ∈ looks, document.Settled (· ∈ met) look

/-- What is met is the number of a collection that was found, or was met before. -/
theorem Looked.mem_met {looks : List Look} {seen met : List Nat} {found : List Node}
    (looked : document.Looked looks seen found met) {number : Nat} :
    number ∈ met ↔
      (∃ child ∈ found, document.numberOf? child = some number) ∨ number ∈ seen := by
  rw [looked.met_eq, List.mem_append, List.mem_reverse, List.mem_filterMap]

/-- Looks that succeeded one after the other. -/
theorem Looked.append {front back : List Look} {seen between met : List Nat}
    {first second : List Node} (before : document.Looked front seen first between)
    (after : document.Looked back between second met) :
    document.Looked (front ++ back) seen (first ++ second) met where
  collections child member := by
    rcases List.mem_append.mp member with early | late
    · exact (before.collections child early).imp_right (List.mem_append_left back)
    · exact (after.collections child late).imp_right (List.mem_append_right front)
  met_eq := by
    rw [after.met_eq, before.met_eq, List.filterMap_append, List.reverse_append, List.append_assoc]
  nodup distinct := after.nodup (before.nodup distinct)
  settled numbered look member := by
    have early : ∀ child ∈ first, (document.numberOf? child).isSome = true :=
      fun child inside => numbered child (List.mem_append_left second inside)
    have late : ∀ child ∈ second, (document.numberOf? child).isSome = true :=
      fun child inside => numbered child (List.mem_append_right first inside)
    rcases List.mem_append.mp member with inFront | inBack
    · refine (before.settled early look inFront).mono fun number known => ?_
      rw [after.met_eq]
      exact List.mem_append_right _ known
    · exact after.settled late look inBack

/-- A look that succeeded and found no new collection. -/
theorem Looked.quiet {look : Look} {seen : List Nat} (settled : document.Settled (· ∈ seen) look) :
    document.Looked [look] seen [] seen where
  collections := List.forall_mem_nil _
  met_eq := rfl
  nodup := id
  settled _ := List.forall_mem_singleton.mpr settled

/-- Looking at a part that succeeds. -/
theorem looked_of_lookAt {later rest : List Node} {seen met : List Nat} {child : Node}
    (done : document.lookAt later seen child = .ok (rest, met)) :
    ∃ found, rest = later ++ found ∧ document.Looked [.part child] seen found met := by
  cases inner : isCollection (document.tagOf child) with
  | false =>
    rw [lookAt_scalar inner] at done
    cases converts : document.checkScalar (document.tagOf child) child with
    | error reason =>
      rw [converts] at done
      cases done
    | ok =>
      rw [converts] at done
      cases done
      exact ⟨[], (List.append_nil _).symm, .quiet (.scalar inner converts)⟩
  | true =>
    rw [lookAt, if_pos inner] at done
    have here : ∀ node ∈ [child], isCollection (document.tagOf node) = true ∧
        Look.part node ∈ [Look.part child] :=
      List.forall_mem_singleton.mpr ⟨inner, List.mem_singleton_self _⟩
    split at done
    · rename_i none
      cases done
      refine ⟨[child], rfl, here, by simp [none], id, fun numbered => ?_⟩
      have some := List.forall_mem_singleton.mp numbered
      rw [none] at some
      cases some
    · rename_i number numbered
      split at done
      · rename_i known
        cases done
        refine ⟨[], (List.append_nil _).symm, .quiet (.collection inner numbered ?_)⟩
        exact List.contains_iff_mem.mp known
      · rename_i fresh
        cases done
        refine ⟨[child], rfl, here, by simp [numbered], fun distinct => ?_, fun _ => ?_⟩
        · exact List.nodup_cons.mpr ⟨fun known => fresh (List.contains_iff_mem.mpr known), distinct⟩
        · exact List.forall_mem_singleton.mpr (.collection inner numbered List.mem_cons_self)

/-- Looks that succeed, each of them. -/
theorem looked_of_foldlM {step : List Node × List Nat → Look → Except Stop (List Node × List Nat)}
    (each : ∀ later seen look rest met, step (later, seen) look = .ok (rest, met) →
      ∃ found, rest = later ++ found ∧ document.Looked [look] seen found met)
    {looks : List Look} {later rest : List Node} {seen met : List Nat}
    (done : looks.foldlM step (later, seen) = .ok (rest, met)) :
    ∃ found, rest = later ++ found ∧ document.Looked looks seen found met := by
  induction looks generalizing later seen with
  | nil =>
    cases done
    exact ⟨[], (List.append_nil _).symm, List.forall_mem_nil _, rfl, id,
      fun _ => List.forall_mem_nil _⟩
  | cons look looks ih =>
    rw [List.foldlM_cons] at done
    obtain ⟨⟨between, known⟩, here, others⟩ := bind_eq_ok_iff.mp done
    obtain ⟨first, rfl, looked⟩ := each later seen look between known here
    obtain ⟨second, rfl, more⟩ := ih others
    exact ⟨first ++ second, List.append_assoc _ _ _, looked.append more⟩

/-- Looking into a collection that succeeds. -/
theorem looked_of_lookInto {found : List Node} {seen met : List Nat} {node : Node}
    (done : document.lookInto seen node = .ok (found, met)) :
    document.Looked (document.looks node) seen found met := by
  obtain ⟨all, same, looked⟩ : ∃ all, found = [] ++ all ∧
      document.Looked (document.looks node) seen all met := by
    refine looked_of_foldlM (fun later seen look rest met outcome => ?_) done
    cases look with
    | part child => exact looked_of_lookAt outcome
    | key child =>
      change (if isCollection (document.tagOf child) = true then malformed
        else document.lookAt later seen child) = .ok (rest, met) at outcome
      cases single : isCollection (document.tagOf child) with
      | true =>
        rw [if_pos single] at outcome
        cases outcome
      | false =>
        rw [single, if_neg Bool.false_ne_true, lookAt_scalar single] at outcome
        cases converts : document.checkScalar (document.tagOf child) child with
        | error reason =>
          rw [converts] at outcome
          cases outcome
        | ok =>
          rw [converts] at outcome
          cases outcome
          exact ⟨[], (List.append_nil _).symm, .quiet (.key single converts)⟩
    | refuse => cases outcome
  rw [List.nil_append] at same
  exact same ▸ looked

/-! ## The first problem -/

/-- Where looking through collections stops there is a problem. -/
theorem problem_of_lookThrough {fuel : Nat} {queue : List Node} {seen : List Nat} {reason : Stop}
    (waiting : ∀ node ∈ queue, Reaches document node ∧ isCollection (document.tagOf node) = true)
    (stopped : document.lookThrough fuel queue seen = .error reason) :
    document.Problem reason := by
  induction fuel generalizing queue seen with
  | zero => cases stopped
  | succ fuel ih =>
    cases queue with
    | nil => cases stopped
    | cons node later =>
      obtain ⟨⟨reached, collection⟩, others⟩ := List.forall_mem_cons.mp waiting
      rw [lookThrough] at stopped
      rcases bind_eq_error_iff.mp stopped with here | ⟨⟨found, met⟩, done, deeper⟩
      · exact problem_of_lookInto reached collection here
      · refine ih (List.forall_mem_append.mpr ⟨others, fun child member => ?_⟩) deeper
        obtain ⟨inner, look⟩ := (looked_of_lookInto done).collections child member
        exact ⟨.part reached collection look, inner⟩

/-- A document whose check stops has the problem that stops it. -/
theorem problem_of_check {reason : Stop} (stopped : document.check = .error reason) :
    document.Problem reason := by
  unfold check at stopped
  rcases bind_eq_error_iff.mp stopped with here | ⟨⟨later, seen⟩, done, deeper⟩
  · cases single : isCollection (document.tagOf document.root) with
    | false => exact problem_of_scalar .root single ((lookAt_scalar single [] []).symm.trans here)
    | true =>
      rw [lookAt, if_pos single] at here
      split at here
      · cases here
      · split at here <;> cases here
  · obtain ⟨found, rfl, looked⟩ := looked_of_lookAt done
    refine problem_of_lookThrough (fun node member => ?_) deeper
    obtain ⟨collection, look⟩ := looked.collections node (by simpa using member)
    obtain rfl : node = document.root := by simpa using look
    exact ⟨.root, collection⟩

end Document

end CodeAtlas.Yaml
