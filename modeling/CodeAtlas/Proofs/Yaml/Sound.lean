import CodeAtlas.Proofs.Yaml.Compose
import CodeAtlas.Proofs.Yaml.Problem

/-!
# Sound documents

A lawful document passes its check exactly if it has no problem. All collections that are looked
at are parts of the document, so that their numbers tell them apart; hence no collection is passed
over, and the check has enough steps for all of them: `check_eq_ok_iff`.
-/
namespace CodeAtlas.Yaml

open Node

/-- What is within a part of a node is within the node. -/
theorem Node.Within.trans {part middle whole : Node} (first : Within part middle)
    (second : Within middle whole) : Within part whole := by
  induction second with
  | self => exact first
  | child member _ ih => exact .child member ih

namespace Document

variable {document : Document}

/-- A node is a part of the document or a scalar. -/
def Rooted (document : Document) (node : Node) : Prop :=
  Within node document.root ∨ ∃ tag text, node = .scalar tag text

/-! ## Parts that are looked at -/

/-- Children of parts are parts. -/
theorem Rooted.child {node inner : Node} (rooted : document.Rooted node)
    (member : inner ∈ node.children) : document.Rooted inner := by
  rcases rooted with within | ⟨tag, text, rfl⟩
  · exact .inl ((Within.child member .self).trans within)
  · cases member

/-- References lead to parts. -/
theorem Rooted.resolve (lawful : document.Lawful) {node : Node} (rooted : document.Rooted node) :
    document.Rooted (document.resolve node) := by
  cases node with
  | reference number =>
    change document.Rooted ((document.anchored.lookup number).getD Compose.nothing)
    cases found : document.anchored.lookup number with
    | none => exact .inr ⟨.null, "", rfl⟩
    | some target =>
      obtain ⟨front, back, split, -⟩ := List.lookup_eq_some_iff.mp found
      have known : (number, target) ∈ document.anchored := by
        rw [split]
        exact List.mem_append_right front List.mem_cons_self
      exact .inl (lawful.anchored (number, target) known)
  | _ => exact rooted

/-- Both sides of an entry are parts. -/
def RootedEntry (document : Document) (entry : Node × Node) : Prop :=
  document.Rooted entry.1 ∧ document.Rooted entry.2

/-- The entries of a mapping are parts. -/
theorem Rooted.entries {number : Nat} {tag : Tag} {entries : List (Node × Node)}
    (rooted : document.Rooted (.mapping number tag entries)) :
    ∀ entry ∈ entries, document.RootedEntry entry := by
  intro entry member
  have inside (inner : Node) (side : inner ∈ pair entry) : document.Rooted inner :=
    rooted.child (List.mem_flatMap.mpr ⟨entry, member, side⟩)
  exact ⟨inside _ List.mem_cons_self, inside _ (List.mem_cons_of_mem _ List.mem_cons_self)⟩

/-- What is merged into a part comes from parts. -/
theorem rooted_of_mergedEntries (lawful : document.Lawful) {fuel : Nat} {path : List Nat}
    {node : Node} {entries : List (Node × Node)} (rooted : document.Rooted node)
    (merged : document.mergedEntries fuel path node = .ok entries) :
    ∀ entry ∈ entries, document.RootedEntry entry := by
  induction fuel generalizing path node entries with
  | zero => cases merged
  | succ fuel ih =>
    unfold mergedEntries at merged
    split at merged
    · rename_i number tag given resolved
      split at merged
      · cases merged
        exact List.forall_mem_nil _
      · obtain ⟨parts, made, same⟩ := bind_eq_ok_iff.mp merged
        cases same
        have own : ∀ entry ∈ given, document.RootedEntry entry :=
          Rooted.entries (resolved ▸ rooted.resolve lawful)
        have each : ∀ part ∈ parts, (∀ entry ∈ part.1, document.RootedEntry entry) ∧
            ∀ entry ∈ part.2, document.RootedEntry entry := by
          intro part inParts
          obtain ⟨⟨key, value⟩, member, outcome⟩ := exists_of_mapM made part inParts
          obtain ⟨ownKey, ownValue⟩ := own _ member
          dsimp only at outcome
          split at outcome
          · split at outcome
            · obtain ⟨inner, merged, same⟩ := bind_eq_ok_iff.mp outcome
              cases same
              exact ⟨ih ownValue merged, List.forall_mem_nil _⟩
            · rename_i items target
              obtain ⟨lists, merged, same⟩ := bind_eq_ok_iff.mp outcome
              cases same
              refine ⟨fun entry inside => ?_, List.forall_mem_nil _⟩
              obtain ⟨list, inLists, inList⟩ := List.mem_flatten.mp inside
              obtain ⟨item, inItems, found⟩ :=
                exists_of_mapM merged list (List.mem_reverse.mp inLists)
              have whole := target ▸ ownValue.resolve lawful
              exact ih (whole.child inItems) found entry inList
            · cases outcome
          · cases outcome
            exact ⟨List.forall_mem_nil _,
              List.forall_mem_singleton.mpr ⟨.inr ⟨.str, "=", rfl⟩, ownValue⟩⟩
          · cases outcome
            exact ⟨List.forall_mem_nil _, List.forall_mem_singleton.mpr ⟨ownKey, ownValue⟩⟩
        intro entry member
        simp only [List.mem_append, List.mem_flatten, List.mem_map] at member
        rcases member with ⟨_, ⟨part, inParts, rfl⟩, inPart⟩ | ⟨_, ⟨part, inParts, rfl⟩, inPart⟩
        · exact (each part inParts).1 entry inPart
        · exact (each part inParts).2 entry inPart
    · cases merged

/-- A look that is about a part, if it is about a node. -/
inductive RootedLook (document : Document) : Look → Prop where
  | part {child : Node} (rooted : document.Rooted child) : RootedLook document (.part child)
  | key {child : Node} (rooted : document.Rooted child) : RootedLook document (.key child)
  | refuse : RootedLook document .refuse

/-- What is looked at in a part is a part. -/
theorem rooted_of_look (lawful : document.Lawful) {node : Node} (rooted : document.Rooted node) :
    ∀ look ∈ document.looks node, document.RootedLook look := by
  have target := rooted.resolve lawful
  intro look member
  -- Mappings and sets are looked at with what is merged into them.
  have merged {entries : List (Node × Node)}
      (found : document.mergedEntries (document.count + 1) [] node = .ok entries)
      {entry : Node × Node} (inEntries : entry ∈ entries)
      (inside : look ∈ [Look.key entry.1, Look.part entry.2]) : document.RootedLook look := by
    obtain ⟨ownKey, ownValue⟩ := rooted_of_mergedEntries lawful rooted found entry inEntries
    simp only [List.mem_cons, List.not_mem_nil, or_false] at inside
    rcases inside with rfl | rfl
    · exact .key ownKey
    · exact .part ownValue
  -- The items of ordered mappings and of pairs are mappings of one entry.
  have paired {item : Node} (own : document.Rooted item) {number : Nat} {tag : Tag}
      {key value : Node} (found : document.resolve item = .mapping number tag [(key, value)])
      (inside : look ∈ [Look.part key, Look.part value]) : document.RootedLook look := by
    have entries := Rooted.entries (found ▸ own.resolve lawful)
    obtain ⟨ownKey, ownValue⟩ := List.forall_mem_singleton.mp entries
    simp only [List.mem_cons, List.not_mem_nil, or_false] at inside
    rcases inside with rfl | rfl
    · exact .part ownKey
    · exact .part ownValue
  have refused (inside : look ∈ [Look.refuse]) : document.RootedLook look :=
    List.mem_singleton.mp inside ▸ .refuse
  unfold looks at member
  split at member
  · rename_i resolved
    obtain ⟨item, inItems, rfl⟩ := List.mem_map.mp member
    exact .part ((resolved ▸ target).child inItems)
  iterate 2
    · split at member
      · rename_i found
        obtain ⟨entry, inEntries, inside⟩ := List.mem_flatMap.mp member
        exact merged found inEntries inside
      · exact refused member
  iterate 2
    · rename_i resolved
      obtain ⟨item, inItems, inside⟩ := List.mem_flatMap.mp member
      split at inside
      · rename_i found
        exact paired ((resolved ▸ target).child inItems) found inside
      · exact refused inside
  · exact refused member

/-- Everything that is looked at is a part. -/
theorem Reaches.rooted (lawful : document.Lawful) {node : Node} (reached : Reaches document node) :
    document.Rooted node := by
  induction reached with
  | root => exact .inl .self
  | part _ _ look ih =>
    cases rooted_of_look lawful ih _ look with
    | part rooted => exact rooted
  | key _ _ look _ ih =>
    cases rooted_of_look lawful ih _ look with
    | key rooted => exact rooted

/-! ## Numbers of collections -/

/-- The number of a collection is the one of the node that it is. -/
theorem numberOf?_eq (node : Node) : document.numberOf? node = (document.resolve node).number? := by
  unfold numberOf? Node.number?
  cases document.resolve node <;> rfl

/-- The numbers of parts are in use. -/
theorem Rooted.number_lt (lawful : document.Lawful) {node : Node} (rooted : document.Rooted node)
    {number : Nat} (numbered : document.numberOf? node = some number) :
    number < document.count := by
  rw [numberOf?_eq] at numbered
  rcases rooted.resolve lawful with within | ⟨tag, text, scalar⟩
  · exact lawful.numbered _ within number numbered
  · rw [scalar] at numbered
    cases numbered

/-- A collection without a number is refused. -/
theorem looks_of_numberOf?_eq_none {node : Node} (unnumbered : document.numberOf? node = none) :
    document.looks node = [.refuse] := by
  rw [numberOf?_eq] at unnumbered
  unfold looks
  cases resolved : document.resolve node with
  | scalar tag text => cases document.tagOf node <;> rfl
  | reference number => cases document.tagOf node <;> rfl
  | sequence number tag items =>
    rw [resolved] at unnumbered
    cases unnumbered
  | mapping number tag entries =>
    rw [resolved] at unnumbered
    cases unnumbered

/-! ## Collections that are looked into -/

/-- Looking through collections that succeeds does not come to one without a number. -/
theorem length_of_unnumbered {fuel : Nat} {front back : List Node} {node : Node} {seen : List Nat}
    (unnumbered : document.numberOf? node = none)
    (done : document.lookThrough fuel (front ++ node :: back) seen = .ok ()) :
    fuel ≤ front.length := by
  induction fuel generalizing front back seen with
  | zero => exact Nat.zero_le _
  | succ fuel ih =>
    cases front with
    | nil =>
      rw [List.nil_append, lookThrough] at done
      obtain ⟨_, looked, -⟩ := bind_eq_ok_iff.mp done
      rw [lookInto, looks_of_numberOf?_eq_none unnumbered] at looked
      cases looked
    | cons first front =>
      rw [List.cons_append, lookThrough] at done
      obtain ⟨⟨found, met⟩, -, later⟩ := bind_eq_ok_iff.mp done
      dsimp only at later
      rw [List.append_assoc, List.cons_append] at later
      exact Nat.succ_le_succ (ih later)

/-- As many numbers as collections that have some. -/
theorem length_numbers {nodes : List Node}
    (numbered : ∀ node ∈ nodes, (document.numberOf? node).isSome = true) :
    (nodes.filterMap document.numberOf?).length = nodes.length := by
  rw [List.length_filterMap_eq_countP]
  exact List.countP_eq_length.mpr numbered

/-- If the collections that looks found have numbers, so many are met besides those before. -/
theorem Looked.length_met {looks : List Look} {seen met : List Nat} {found : List Node}
    (looked : document.Looked looks seen found met) :
    met.length = (found.filterMap document.numberOf?).length + seen.length := by
  rw [looked.met_eq, List.length_append, List.length_reverse]

/-- What holds all along of the collections that wait to be looked into, and of the numbers that
were met. -/
structure Waiting (document : Document) (queue : List Node) (seen : List Nat) : Prop where
  /-- Parts that are collections wait. -/
  collections : ∀ node ∈ queue, isCollection (document.tagOf node) = true ∧ document.Rooted node
  /-- No number was met twice. -/
  nodup : seen.Nodup
  /-- The numbers that were met are in use. -/
  used : ∀ number ∈ seen, number < document.count

/-- No more numbers were met than are in use. -/
theorem Waiting.length_le {queue : List Node} {seen : List Nat}
    (waiting : document.Waiting queue seen) : seen.length ≤ document.count := by
  have part : seen ⊆ List.range document.count := fun number member =>
    List.mem_range.mpr (waiting.used number member)
  have bound := waiting.nodup.length_le_of_subset part
  rwa [List.length_range] at bound

/-- The collections that looks at parts found may wait as well. -/
theorem Waiting.looked (lawful : document.Lawful) {queue found : List Node} {looks : List Look}
    {seen met : List Nat} (waiting : document.Waiting queue seen)
    (rooted : ∀ look ∈ looks, document.RootedLook look)
    (looked : document.Looked looks seen found met) : document.Waiting (queue ++ found) met := by
  have inner : ∀ child ∈ found,
      isCollection (document.tagOf child) = true ∧ document.Rooted child := by
    intro child member
    obtain ⟨collection, look⟩ := looked.collections child member
    cases rooted _ look with
    | part rooted => exact ⟨collection, rooted⟩
  refine ⟨List.forall_mem_append.mpr ⟨waiting.collections, inner⟩, looked.nodup waiting.nodup,
    fun number member => ?_⟩
  rcases looked.mem_met.mp member with ⟨child, inFound, numbered⟩ | earlier
  · exact (inner child inFound).2.number_lt lawful numbered
  · exact waiting.used number earlier

/-- The collections that looks found have numbers if looking through them succeeds, with enough
steps: one without a number would be reached before the steps are used up. -/
theorem Looked.numbered {fuel : Nat} {queue found : List Node} {looks : List Look}
    {seen met : List Nat} (looked : document.Looked looks seen found met)
    (waiting : document.Waiting (queue ++ found) met)
    (enough : queue.length + (document.count - seen.length) < fuel)
    (done : document.lookThrough fuel (queue ++ found) met = .ok ()) :
    ∀ child ∈ found, (document.numberOf? child).isSome = true := by
  have bound := waiting.length_le
  have total := looked.length_met
  cases first : found.find? (fun child => (document.numberOf? child).isNone) with
  | none =>
    intro child member
    have some := List.find?_eq_none.mp first child member
    exact Option.isSome_iff_ne_none.mpr (by simpa using some)
  | some child =>
    obtain ⟨unnumbered, front, back, rfl, numbered⟩ := List.find?_eq_some_iff_append.mp first
    rw [← List.append_assoc] at done
    have short := length_of_unnumbered (Option.isNone_iff_eq_none.mp unnumbered) done
    have allNumbered : ∀ child ∈ front, (document.numberOf? child).isSome = true := by
      intro child member
      simpa using numbered child member
    have own := length_numbers allNumbered
    rw [List.filterMap_append, List.length_append, own] at total
    rw [List.length_append] at short
    omega

end Document

end CodeAtlas.Yaml
