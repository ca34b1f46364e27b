import CodeAtlas.Yaml.Node

/-!
# Values of nodes

Whether the nodes of a document write values. Collections are looked into level by level, each in
order, and a key must not be a collection itself. What comes first in this order decides the
outcome.
-/
namespace CodeAtlas.Yaml

namespace Document

/-- A node, or the node that a reference leads to. -/
def resolve (document : Document) : Node → Node
  | .reference number => (document.anchored.lookup number).getD Compose.nothing
  | node => node

/-- The tag of a node. -/
def tagOf (document : Document) (node : Node) : Tag :=
  match document.resolve node with
  | .scalar tag _ | .sequence _ tag _ | .mapping _ tag _ => tag
  | .reference _ => .other

/-- The text that stands for a node: its own, or that of the entry for the value of a mapping,
followed so many levels deep. -/
def textOf (document : Document) : Nat → Node → Except Stop String
  | 0, _ => .error (.fault .tooDeep)
  | levels + 1, node =>
    match document.resolve node with
    | .scalar _ text => .ok text
    | .mapping _ _ entries =>
      match entries.find? fun (key, _) => document.tagOf key = .value with
      | some (_, value) => document.textOf levels value
      | none => malformed
    | _ => malformed

/-- How many levels deep a value is followed: composing a level of nodes takes two calls, following
a value down a level takes one. -/
def reach (document : Document) : Nat := 2 * document.room

/-- Whether a tag is of a collection. -/
def isCollection : Tag → Bool
  | .seq | .map | .set | .omap | .pairs => true
  | _ => false

/-- Whether a tag is of a scalar. -/
def isScalar : Tag → Bool
  | .null | .bool | .int | .float | .binary | .timestamp | .str => true
  | _ => false

/-- Check a node that is no collection; there must be scalars of its tag. -/
def checkScalar (document : Document) (tag : Tag) (node : Node) : Except Stop Unit :=
  if isScalar tag then do
    let text ← document.textOf document.reach node
    match tag, document.resolve node with
    | .timestamp, .mapping .. => .error (.fault .momentOfMapping)
    | _, _ => tag.check text
  else malformed

/-! ## Merged mappings -/

/-- The entries of a mapping with those that are merged into it in front: of several mappings
under one key the last comes first. A mapping inside itself adds nothing. -/
def mergedEntries (document : Document) :
    Nat → List Nat → Node → Except Stop (List (Node × Node))
  | 0, _, _ => malformed
  | fuel + 1, path, node =>
    match document.resolve node with
    | .mapping number _ entries =>
      if path.contains number then .ok []
      else do
        let parts ← entries.mapM fun (key, value) =>
          match document.tagOf key with
          | .merge =>
            match document.resolve value with
            | .mapping .. => do
              return (← document.mergedEntries fuel (number :: path) value, [])
            | .sequence _ _ items => do
              let lists ← items.mapM (document.mergedEntries fuel (number :: path))
              return (lists.reverse.flatten, [])
            | _ => malformed
          | .value => .ok ([], [(.scalar .str "=", value)])
          | _ => .ok ([], [(key, value)])
        return (parts.map (·.1)).flatten ++ (parts.map (·.2)).flatten
    | _ => malformed

/-! ## Looking into collections -/

/-- A step in looking into a collection. -/
inductive Look where
  /-- Look at a part. -/
  | part (node : Node)
  /-- Look at a key. -/
  | key (node : Node)
  /-- Find the collection malformed. -/
  | refuse

/-- The steps in looking into a collection. -/
def looks (document : Document) (node : Node) : List Look :=
  match document.tagOf node, document.resolve node with
  | .seq, .sequence _ _ items => items.map .part
  | .map, .mapping .. | .set, .mapping .. =>
    match document.mergedEntries (document.count + 1) [] node with
    | .ok entries => entries.flatMap fun (key, value) => [.key key, .part value]
    | .error _ => [.refuse]
  | .omap, .sequence _ _ items | .pairs, .sequence _ _ items =>
    items.flatMap fun item =>
      match document.resolve item with
      | .mapping _ _ [(key, value)] => [.part key, .part value]
      | _ => [.refuse]
  | _, _ => [.refuse]

/-- The number of a collection. -/
def numberOf? (document : Document) (node : Node) : Option Nat :=
  match document.resolve node with
  | .sequence number _ _ | .mapping number _ _ => some number
  | _ => none

/-- Look at a node, and put it off if it is a collection that has not been met. -/
def lookAt (document : Document) (later : List Node) (seen : List Nat) (node : Node) :
    Except Stop (List Node × List Nat) :=
  if isCollection (document.tagOf node) then
    match document.numberOf? node with
    | none => .ok (later ++ [node], seen)
    | some number =>
      if seen.contains number then .ok (later, seen)
      else .ok (later ++ [node], number :: seen)
  else do
    document.checkScalar (document.tagOf node) node
    return (later, seen)

/-- Look into a collection. -/
def lookInto (document : Document) (seen : List Nat) (node : Node) :
    Except Stop (List Node × List Nat) :=
  (document.looks node).foldlM (fun (later, seen) look =>
    match look with
    | .part child => document.lookAt later seen child
    | .key child =>
      if isCollection (document.tagOf child) then malformed
      else document.lookAt later seen child
    | .refuse => malformed) ([], seen)

/-- Look into collections, and then into those inside them. -/
def lookThrough (document : Document) : Nat → List Node → List Nat → Except Stop Unit
  | 0, _, _ => .ok ()
  | _ + 1, [], _ => .ok ()
  | fuel + 1, node :: later, seen => do
    let (found, seen) ← document.lookInto seen node
    document.lookThrough fuel (later ++ found) seen

/-- Check that a document writes a value. -/
def check (document : Document) : Except Stop Unit := do
  let (later, seen) ← document.lookAt [] [] document.root
  document.lookThrough (document.count + 2) later seen

end Document

/-! ## Texts -/

/-- Check the documents of a text from one on, each as soon as it is complete. -/
def checkFrom (isFirst : Bool) : Nat → Draft → Except Stop Unit
  | 0, _ => .ok ()
  | fuel + 1, draft => do
    let (document?, draft) ← (Compose.document? isFirst).run draft
    match document? with
    | none => return ()
    | some document =>
      document.check
      checkFrom false fuel draft

/-- The fault of a text whose nodes are followed so many levels deep: that of the first scalar which
cannot be converted or node which cannot be followed, unless the text is found to be malformed
before that. -/
def fault? (levels : Nat) (text : List Char) : Option Fault :=
  if text.all isPrintable then
    let tokens := Token.ofText text
    match checkFrom true (tokens.length + 1) ⟨tokens, [], [], [], 0, levels⟩ with
    | .error (.fault fault) => some fault
    | _ => none
  else none

end CodeAtlas.Yaml
