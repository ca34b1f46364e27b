import CodeAtlas.Proofs.Syntax.Layout

/-!
# The first fault of a tree

`Node.firstError?` enters only subtrees that have an error. It is compared here with a scan of the
whole tree: the error mark of a node tells of the nodes that are scanned below it, `hasError_iff`,
so that nothing is missed and both find the same node first, unless it stands on a level that the
search has no room for, `firstError?_eq`.
-/
namespace CodeAtlas.Syntax.Node

mutual

/-- A tree has the mark of an error exactly if the scan of the tree meets a fault. -/
theorem hasError_eq_any : ∀ node : Node, node.hasError = node.preorder.any (·.isFault)
  | .mk kind field span children => by
    rw [hasError, anyHasError_eq_any children, preorder, List.any_cons, isFault, Node.kind]

/-- One of some trees has the mark of an error exactly if the scan of all of them meets a fault. -/
theorem anyHasError_eq_any : ∀ nodes : List Node,
    anyHasError nodes = (preorderAll nodes).any (·.isFault)
  | [] => rfl
  | node :: nodes => by
    rw [anyHasError, hasError_eq_any node, anyHasError_eq_any nodes, preorderAll, List.any_append]

end

/-- A node has the mark of an error exactly if it or a node below it is a fault. -/
theorem hasError_iff {node : Node} :
    node.hasError = true ↔ ∃ each ∈ node.preorder, each.isFault = true := by
  rw [hasError_eq_any, List.any_eq_true]

/-- The scan of a tree without the mark of an error meets no fault. -/
theorem find?_eq_none_of_hasError {node : Node} (sound : node.hasError = false) :
    node.preorder.find? (·.isFault) = none := by
  rw [hasError_eq_any, List.any_eq_false] at sound
  exact List.find?_eq_none.mpr sound

/-! ## Levels -/

mutual

/-- The node and all nodes below it, each before its children, with the levels they stand on. -/
def levelled (level : Nat) : Node → List (Nat × Node)
  | .mk kind field span children =>
    (level, .mk kind field span children) :: levelledAll (level + 1) children

/-- All nodes of a list of trees, tree after tree, with the levels they stand on. -/
def levelledAll (level : Nat) : List Node → List (Nat × Node)
  | [] => []
  | node :: nodes => levelled level node ++ levelledAll level nodes

end

mutual

/-- The nodes with their levels are those of the scan. -/
theorem map_levelled (level : Nat) : ∀ node : Node, (levelled level node).map (·.2) = node.preorder
  | .mk kind field span children => by
    rw [levelled, preorder, List.map_cons, map_levelledAll (level + 1) children]

/-- The nodes of some trees with their levels are those of the scan. -/
theorem map_levelledAll (level : Nat) : ∀ nodes : List Node,
    (levelledAll level nodes).map (·.2) = preorderAll nodes
  | [] => rfl
  | node :: nodes => by
    rw [levelledAll, preorderAll, List.map_append, map_levelled level node,
      map_levelledAll level nodes]

end

mutual

/-- All nodes of a tree stand on its level or below. -/
theorem le_of_mem_levelled {level : Nat} : ∀ {node : Node}, ∀ each ∈ levelled level node,
    level ≤ each.1
  | .mk _ _ _ _, each, member => by
    rcases List.mem_cons.mp member with rfl | below
    · exact Nat.le_refl level
    · exact Nat.le_of_succ_le (le_of_mem_levelledAll each below)

/-- All nodes of some trees stand on their level or below. -/
theorem le_of_mem_levelledAll {level : Nat} : ∀ {nodes : List Node},
    ∀ each ∈ levelledAll level nodes, level ≤ each.1
  | [], _, member => absurd member List.not_mem_nil
  | _ :: _, each, member => by
    rcases List.mem_append.mp member with here | there
    · exact le_of_mem_levelled each here
    · exact le_of_mem_levelledAll each there

end

/-- The first fault that a scan meets, with its level. -/
def firstFault? (node : Node) : Option (Nat × Node) :=
  (levelled 1 node).find? (·.2.isFault)

/-- The first fault is the one that the scan meets first. -/
theorem map_firstFault? (node : Node) :
    node.firstFault?.map (·.2) = node.preorder.find? (·.isFault) := by
  rw [firstFault?, ← map_levelled 1, List.find?_map]
  rfl

/-! ## The search -/

/-- What a search of so many levels makes of the first fault. -/
def reached (levels : Nat) : Option (Nat × Node) → Except SearchError (Option Node)
  | none => .ok none
  | some (level, fault) => if level ≤ levels then .ok (some fault) else .error .tooDeep

/-- A fault on a level that is searched is reached. -/
theorem reached_of_le {levels level : Nat} {fault : Node} (le : level ≤ levels) :
    reached levels (some (level, fault)) = .ok (some fault) :=
  if_pos le

/-- A fault on a deeper level ends the search. -/
theorem reached_of_lt {levels level : Nat} {fault : Node} (lt : levels < level) :
    reached levels (some (level, fault)) = .error .tooDeep :=
  if_neg (Nat.not_le.mpr lt)

mutual

/-- The search of a tree on a level, if it is entered for its mark or has room for it, reaches what
a scan of the whole tree meets first. -/
theorem firstError?_eq_reached (level : Nat) : ∀ {levels : Nat} {node : Node},
    (node.hasError = true ∨ 0 < levels) →
      node.firstError? levels =
        reached (level + levels) ((levelled (level + 1) node).find? (·.2.isFault))
  | 0, .mk kind field span children, entered => by
    have faulty : (Node.mk kind field span children).hasError = true := by simpa using entered
    obtain ⟨fault, inside, marked⟩ := hasError_iff.mp faulty
    rw [← map_levelled (level + 1), List.mem_map] at inside
    obtain ⟨each, member, rfl⟩ := inside
    cases found : (levelled (level + 1) (.mk kind field span children)).find? (·.2.isFault) with
    | none => exact absurd marked (List.find?_eq_none.mp found each member)
    | some first =>
      have deep := le_of_mem_levelled first (List.mem_of_find?_eq_some found)
      rw [firstError?, reached_of_lt (by omega)]
  | levels + 1, .mk kind field span children, _ => by
    have below := firstErrorAmong?_eq_reached (level + 1) levels children
    have sum : level + 1 + levels = level + (levels + 1) := by omega
    rw [sum] at below
    rw [firstError?, levelled, below]
    by_cases faulty : (Node.mk kind field span children).isFault = true
    · simp only [List.find?_cons, faulty]
      rw [reached_of_le (by omega)]
      exact if_pos faulty
    · simp only [List.find?_cons, faulty]
      exact if_neg faulty

/-- The search among some trees reaches what a scan of all of them meets first. -/
theorem firstErrorAmong?_eq_reached (level levels : Nat) : ∀ nodes : List Node,
    firstErrorAmong? levels nodes =
      reached (level + levels) ((levelledAll (level + 1) nodes).find? (·.2.isFault))
  | [] => rfl
  | node :: nodes => by
    rw [firstErrorAmong?, levelledAll, List.find?_append,
      firstErrorAmong?_eq_reached level levels nodes]
    by_cases faulty : node.hasError = true
    · rw [if_pos faulty, firstError?_eq_reached level (.inl faulty)]
      cases (levelled (level + 1) node).find? (·.2.isFault) with
      | none => rfl
      | some first =>
        by_cases le : first.1 ≤ level + levels
        · rw [Option.some_or, reached_of_le le]
        · rw [Option.some_or, reached_of_lt (Nat.not_le.mp le)]
    · -- The subtree that is not entered has nothing to be found.
      have sound := find?_eq_none_of_hasError (eq_false_of_ne_true faulty)
      rw [← map_levelled (level + 1), List.find?_map, Option.map_eq_none_iff] at sound
      have unfound : (levelled (level + 1) node).find? (·.2.isFault) = none := sound
      rw [if_neg faulty, unfound, Option.none_or]

end

/-- The search of a tree that is marked, or of any with room for a level, reaches what a scan of the
whole tree meets first, unless it stands deeper than is searched. -/
theorem firstError?_eq {levels : Nat} {node : Node}
    (entered : node.hasError = true ∨ 0 < levels) :
    node.firstError? levels = reached levels node.firstFault? := by
  have outcome := firstError?_eq_reached 0 entered
  rwa [Nat.zero_add] at outcome

/-- With room enough the search finds what a scan of the whole tree meets first. -/
theorem exists_firstError?_eq_find? (node : Node) :
    ∃ enough, ∀ levels, enough ≤ levels →
      node.firstError? levels = .ok (node.preorder.find? (·.isFault)) := by
  rw [← map_firstFault?]
  cases first : node.firstFault? with
  | none =>
    refine ⟨1, fun levels enough => ?_⟩
    rw [firstError?_eq (.inr enough), first]
    rfl
  | some found =>
    refine ⟨found.1 + 1, fun levels enough => ?_⟩
    rw [firstError?_eq (.inr (by omega)), first, reached_of_le (by omega)]
    rfl

/-- A tree with the mark of an error has a first fault. -/
theorem exists_firstFault? {node : Node} (faulty : node.hasError = true) :
    ∃ level fault, node.firstFault? = some (level, fault) := by
  have met : (node.preorder.find? (·.isFault)).isSome = true :=
    List.find?_isSome.mpr (hasError_iff.mp faulty)
  rw [← map_firstFault?, Option.isSome_map] at met
  obtain ⟨found, first⟩ := Option.isSome_iff_exists.mp met
  exact ⟨found.1, found.2, first⟩

end CodeAtlas.Syntax.Node
