import CodeAtlas.Yaml.Tag
import CodeAtlas.Yaml.Token

/-!
# Nodes of a document

A document is a tree of scalars, sequences and mappings. A node with an anchor may be referred to
later, also from inside itself, so a reference holds the number of its node, and the document
keeps the nodes that have anchors by their numbers.
-/
namespace CodeAtlas.Yaml

/-- A node. Sequences and mappings have a number of their own. -/
inductive Node where
  /-- A scalar. -/
  | scalar (tag : Tag) (text : String)
  /-- A sequence. -/
  | sequence (number : Nat) (tag : Tag) (items : List Node)
  /-- A mapping, its entries in order. -/
  | mapping (number : Nat) (tag : Tag) (entries : List (Node × Node))
  /-- The node of a number. -/
  | reference (number : Nat)

/-- A document. -/
structure Document where
  /-- The node that holds all others. -/
  root : Node
  /-- The nodes with anchors, by their numbers. -/
  anchored : List (Nat × Node)
  /-- How many numbers are in use. -/
  count : Nat
  /-- How many levels of nodes there was room for. -/
  room : Nat

/-- What is known while a document is read. -/
structure Draft where
  /-- The tokens that are left. -/
  tokens : List Token
  /-- What the handles of tags mean. -/
  handles : List (String × String)
  /-- The numbers of the anchors. -/
  anchors : List (String × Nat)
  /-- The nodes with anchors that are complete. -/
  anchored : List (Nat × Node)
  /-- How many numbers are in use. -/
  count : Nat
  /-- How many levels of nodes there is room for. -/
  room : Nat

/-- A step in reading a document. -/
abbrev Compose := StateT Draft (Except Stop)

namespace Compose

/-- The end of a malformed text. -/
def fail {α : Type} : Compose α := throw .malformed

/-- The token that comes next; there is none after a stop. -/
def peek : Compose Token := do
  match (← get).tokens with
  | [] => fail
  | .stop reason :: _ => throw reason
  | token :: _ => return token

/-- Take the next token. -/
def advance : Compose Unit := modify fun draft => { draft with tokens := draft.tokens.tail }

/-- Take the next token if it is the given one, and tell whether it was. -/
def take? (token : Token) : Compose Bool := do
  if (← peek) = token then
    advance
    return true
  else return false

/-- Give a new number to a node, and to its anchor if it has one; an anchor is not used twice. -/
def declare (anchor : Option String) : Compose Nat := do
  let draft ← get
  let number := draft.count
  match anchor with
  | none => set { draft with count := number + 1 }
  | some name =>
    if (draft.anchors.lookup name).isSome then fail
    else set { draft with count := number + 1, anchors := (name, number) :: draft.anchors }
  return number

/-- Do what is done inside of a collection: there must be room for another level. -/
def nested {α : Type} (step : Compose α) : Compose α := do
  match (← get).room with
  | 0 => throw (.fault .tooDeep)
  | room + 1 =>
    modify fun draft => { draft with room := room }
    let value ← step
    modify fun draft => { draft with room := room + 1 }
    return value

/-- Keep a node that is complete if it has an anchor. -/
def complete (anchor : Option String) (number : Nat) (node : Node) : Compose Node := do
  if anchor.isSome then
    modify fun draft => { draft with anchored := (number, node) :: draft.anchored }
  return node

/-- The full text of a tag. -/
def fullTag (handle : Option String) (text : String) : Compose String := do
  match handle with
  | none => return text
  | some handle =>
    match (← get).handles.lookup handle with
    | some meaning => return meaning ++ text
    | none => fail

/-- The anchor and the tag in front of a node, in either order. -/
def properties : Compose (Option String × Option String) := do
  match ← peek with
  | .anchor name =>
    advance
    match ← peek with
    | .tag handle text =>
      advance
      return (some name, some (← fullTag handle text))
    | _ => return (some name, none)
  | .tag handle text =>
    advance
    match ← peek with
    | .anchor name =>
      advance
      return (some name, some (← fullTag handle text))
    | _ => return (none, some (← fullTag handle text))
  | _ => return (none, none)

/-- A scalar; without a tag, the text of a plain one implies its tag. -/
def leaf (anchor tag : Option String) (isPlain : Bool) (text : String) : Compose Node := do
  let tag :=
    match tag with
    | none => if isPlain then Tag.implied text else .str
    | some name => if name = "!" then Tag.implied text else Tag.ofName name
  complete anchor (← declare anchor) (.scalar tag text)

/-- The node where nothing is written. -/
def nothing : Node := .scalar .null ""

/-- The tag of a collection, or the usual one. -/
def collectionTag (tag : Option String) (usual : Tag) : Tag :=
  match tag with
  | none => usual
  | some name => if name = "!" then usual else Tag.ofName name

mutual

/-- A node, or nothing before one of the given tokens. -/
def nodeUnless (stops : List Token) (inBlock indentless : Bool) : Nat → Compose Node
  | 0 => fail
  | fuel + 1 => do
    if stops.contains (← peek) then return nothing else node inBlock indentless fuel

/-- A node. Collections in columns stand only in others of their kind; the entries of a sequence
may be in the column of the mapping around it. -/
def node (inBlock indentless : Bool) : Nat → Compose Node
  | 0 => fail
  | fuel + 1 => do
    match ← peek with
    | .alias name =>
      advance
      match (← get).anchors.lookup name with
      | some number => return .reference number
      | none => fail
    | _ =>
      let (anchor, tag) ← properties
      content inBlock indentless anchor tag fuel

/-- What a node holds after its anchor and tag. -/
def content (inBlock indentless : Bool) (anchor tag : Option String) : Nat → Compose Node
  | 0 => fail
  | fuel + 1 => do
    let sequence (items : Compose (List Node)) : Compose Node := do
      let number ← declare anchor
      complete anchor number (.sequence number (collectionTag tag .seq) (← nested items))
    let mapping (entries : Compose (List (Node × Node))) : Compose Node := do
      let number ← declare anchor
      complete anchor number (.mapping number (collectionTag tag .map) (← nested entries))
    match ← peek with
    | .scalar text isPlain =>
      advance
      leaf anchor tag isPlain text
    | .flowSequenceStart =>
      advance
      sequence (flowItems true fuel)
    | .flowMappingStart =>
      advance
      mapping (flowEntries true fuel)
    | .blockEntry =>
      if indentless then sequence (indentlessItems fuel)
      else if anchor.isSome || tag.isSome then leaf anchor tag true ""
      else fail
    | .blockSequenceStart =>
      if inBlock then
        advance
        sequence (blockItems fuel)
      else if anchor.isSome || tag.isSome then leaf anchor tag true ""
      else fail
    | .blockMappingStart =>
      if inBlock then
        advance
        mapping (blockEntries fuel)
      else if anchor.isSome || tag.isSome then leaf anchor tag true ""
      else fail
    | _ => if anchor.isSome || tag.isSome then leaf anchor tag true "" else fail

/-- The items of a sequence in a column of its own. -/
def blockItems : Nat → Compose (List Node)
  | 0 => fail
  | fuel + 1 => do
    if ← take? .blockEntry then
      let item ← nodeUnless [.blockEntry, .blockEnd] true false fuel
      return item :: (← blockItems fuel)
    else if ← take? .blockEnd then return []
    else fail

/-- The items of a sequence in the column of the mapping around it. -/
def indentlessItems : Nat → Compose (List Node)
  | 0 => fail
  | fuel + 1 => do
    if ← take? .blockEntry then
      let item ← nodeUnless [.blockEntry, .key, .value, .blockEnd] true false fuel
      return item :: (← indentlessItems fuel)
    else return []

/-- The entries of a mapping in a column. -/
def blockEntries : Nat → Compose (List (Node × Node))
  | 0 => fail
  | fuel + 1 => do
    if ← take? .key then
      let key ← nodeUnless [.key, .value, .blockEnd] true true fuel
      let value ←
        if ← take? .value then nodeUnless [.key, .value, .blockEnd] true true fuel
        else pure nothing
      return (key, value) :: (← blockEntries fuel)
    else if ← take? .blockEnd then return []
    else fail

/-- The items of a sequence in brackets; a mapping of one entry needs no braces there. -/
def flowItems (isFirst : Bool) : Nat → Compose (List Node)
  | 0 => fail
  | fuel + 1 => do
    if ← take? .flowSequenceEnd then return []
    else
      if !isFirst then
        if !(← take? .flowEntry) then fail
      if ← take? .flowSequenceEnd then return []
      else
        let item ← flowItem fuel
        return item :: (← flowItems false fuel)

/-- An item of a sequence in brackets. -/
def flowItem : Nat → Compose Node
  | 0 => fail
  | fuel + 1 => do
    if ← take? .key then
      let number ← declare none
      nested do
        let key ← nodeUnless [.value, .flowEntry, .flowSequenceEnd] false false fuel
        let value ←
          if ← take? .value then nodeUnless [.flowEntry, .flowSequenceEnd] false false fuel
          else pure nothing
        return .mapping number .map [(key, value)]
    else node false false fuel

/-- The entries of a mapping in braces. -/
def flowEntries (isFirst : Bool) : Nat → Compose (List (Node × Node))
  | 0 => fail
  | fuel + 1 => do
    if ← take? .flowMappingEnd then return []
    else
      if !isFirst then
        if !(← take? .flowEntry) then fail
      if ← take? .flowMappingEnd then return []
      else
        let entry ← flowEntry fuel
        return entry :: (← flowEntries false fuel)

/-- An entry of a mapping in braces. -/
def flowEntry : Nat → Compose (Node × Node)
  | 0 => fail
  | fuel + 1 => do
    if ← take? .key then
      let key ← nodeUnless [.value, .flowEntry, .flowMappingEnd] false false fuel
      let value ←
        if ← take? .value then nodeUnless [.flowEntry, .flowMappingEnd] false false fuel
        else pure nothing
      return (key, value)
    else return (← node false false fuel, nothing)

end

/-! ## Documents -/

/-- What handles of tags mean by themselves. -/
def usualHandles : List (String × String) := [("!", "!"), ("!!", Tag.family)]

/-- The directives in front of a document; its version is told once and is of the first kind, and
a handle has one meaning. -/
def directives (hasVersion : Bool) (handles : List (String × String)) :
    Nat → Compose (List (String × String))
  | 0 => fail
  | fuel + 1 => do
    match ← peek with
    | .directive found =>
      advance
      match found with
      | .version major _ =>
        if hasVersion || major ≠ 1 then fail else directives true handles fuel
      | .handle handle meaning =>
        if (handles.lookup handle).isSome then fail
        else directives hasVersion ((handle, meaning) :: handles) fuel
      | .other => directives hasVersion handles fuel
    | _ => return handles

/-- The node of a document, and the mark after it. -/
def body (reader : Compose Node) : Compose Document := do
  let root ← reader
  let _ ← take? .documentEnd
  let draft ← get
  return ⟨root, draft.anchored, draft.count, draft.room⟩

/-- Skip the marks at ends of documents. -/
def skipEnds : Nat → Compose Unit
  | 0 => fail
  | fuel + 1 => do if ← take? .documentEnd then skipEnds fuel else return ()

/-- The next document, unless the text is over, with so much fuel. Only the first may stand without
a mark in front of it. -/
def documentWithin? (isFirst : Bool) (fuel : Nat) : Compose (Option Document) := do
  modify fun draft =>
    { draft with handles := usualHandles, anchors := [], anchored := [], count := 0 }
  let isBare :=
    match ← peek with
    | .directive _ | .documentStart | .streamEnd => false
    | _ => isFirst
  if isBare then return some (← body (node true false fuel))
  else
    skipEnds fuel
    if (← peek) = .streamEnd then return none
    else
      let handles ← directives false [] fuel
      if ← take? .documentStart then
        modify fun draft => { draft with handles := handles ++ usualHandles }
        let reader := do
          match ← peek with
          | .directive _ | .documentStart | .documentEnd | .streamEnd => return nothing
          | _ => node true false fuel
        return some (← body reader)
      else fail

/-- The next document, unless the text is over; the tokens bound what is read. -/
def document? (isFirst : Bool) : Compose (Option Document) := do
  documentWithin? isFirst (8 * (← get).tokens.length + 16)

end Compose

end CodeAtlas.Yaml
