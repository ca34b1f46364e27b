import CodeAtlas.Json.Basic

/-!
# What a reply must look like

A reply is an object that has either a list of components or an analysis: functions, classes and
modules, each in a list of its own, and at least one of them. A reply in a form that was asked for
may be any object. `Contract.check` names the first value that is not as it must be.
-/
namespace CodeAtlas.Reply

/-- The kinds of items of a reply. -/
inductive ItemKind where
  | component
  | function
  | cls
  | module
  deriving DecidableEq, Repr

/-- The name of a kind of item. -/
def ItemKind.name : ItemKind → String
  | .component => "component"
  | .function => "function"
  | .cls => "class"
  | .module => "module"

/-- The name of a kind of item at the start of a sentence. -/
def ItemKind.title : ItemKind → String
  | .component => "Component"
  | .function => "Function"
  | .cls => "Class"
  | .module => "Module"

/-- The lists of an analysis. -/
inductive Section where
  | functions
  | classes
  | modules
  deriving DecidableEq, Repr

namespace Section

/-- The sections in the order in which they are looked at. -/
def all : List Section := [.functions, .classes, .modules]

/-- The name of the field that holds a section. -/
def name : Section → String
  | .functions => "functions"
  | .classes => "classes"
  | .modules => "modules"

/-- The name of a section at the start of a sentence. -/
def title : Section → String
  | .functions => "Functions"
  | .classes => "Classes"
  | .modules => "Modules"

/-- The kind of the items of a section. -/
def itemKind : Section → ItemKind
  | .functions => .function
  | .classes => .cls
  | .modules => .module

end Section

/-- How a value breaks the contract. -/
inductive Violation where
  /-- A reply is no object. -/
  | notAnObject
  /-- An item is no object. -/
  | itemNotAnObject (kind : ItemKind)
  /-- An item lacks a field. -/
  | missingField (kind : ItemKind) (field : String)
  /-- A field of an item is no list. -/
  | fieldNotAList (kind : ItemKind) (field : String)
  /-- A section is no list. -/
  | sectionNotAList (part : Section)
  /-- A reply has neither components nor an analysis. -/
  | noStructure
  /-- All sections of an analysis are empty. -/
  | noContent
  deriving DecidableEq, Repr

/-- What a violation says. -/
def Violation.message : Violation → String
  | .notAnObject => "Response is not an object"
  | .itemNotAnObject kind => "Invalid " ++ kind.name ++ ": expected an object"
  | .missingField kind field => kind.title ++ " missing required field: " ++ field
  | .fieldNotAList kind field => kind.title ++ " " ++ field ++ " is not an array"
  | .sectionNotAList part => part.title ++ " is not an array"
  | .noStructure =>
    "Expected a components array or an analysis object with functions/classes/modules"
  | .noContent => "Analysis object has no valid content arrays"

/-- A violation and the value that breaks the contract. -/
structure Rejection where
  /-- How it breaks the contract. -/
  violation : Violation
  /-- The value. -/
  value : Json
  deriving Repr

/-- What a kind of item must have. -/
structure Shape where
  /-- Fields that must not be missing. -/
  required : List String
  /-- Whether the required fields must also count as true. -/
  filled : Bool
  /-- Fields that must be lists. -/
  lists : List String
  /-- Fields that must be lists unless they are missing or null. -/
  optionalLists : List String

/-- The shape of a kind of item. -/
def ItemKind.shape : ItemKind → Shape
  | .component => ⟨["type", "name", "description"], true, [], []⟩
  | .function => ⟨["name", "description", "parameters", "returnType"], false, ["parameters"], []⟩
  | .cls => ⟨["name", "methods", "properties"], false, ["methods", "properties"], []⟩
  | .module => ⟨["name", "description"], true, [], ["imports", "exports", "dependencies"]⟩

/-- Whether a value is a list. -/
def isList : Json → Bool
  | .array _ => true
  | _ => false

/-- Whether a field counts as present. -/
def Shape.hasField (shape : Shape) (item : Json) (field : String) : Bool :=
  if shape.filled then (item.get? field).any Json.isTruthy else (item.get? field).isSome

/-- Whether a field that may be missing or null is otherwise a list. -/
def listOrNothing (item : Json) (field : String) : Bool :=
  match item.get? field with
  | none | some .null => true
  | some value => isList value

/-- The first violation of an item, if it has one. -/
def itemViolation? (kind : ItemKind) (item : Json) : Option Violation :=
  match item with
  | .object _ =>
    let shape := kind.shape
    ((shape.required.find? fun field => !shape.hasField item field).map (.missingField kind))
      <|> (shape.lists.find? fun field => !(item.get? field).any isList).map (.fieldNotAList kind)
      <|> (shape.optionalLists.find? fun field => !listOrNothing item field).map
        (.fieldNotAList kind)
  | _ => some (.itemNotAnObject kind)

/-- The first rejection among items, if there is one. -/
def itemsRejection? (kind : ItemKind) (items : List Json) : Option Rejection :=
  items.findSome? fun item => (itemViolation? kind item).map (⟨·, item⟩)

/-- The rejection of a section, if there is one; a section that counts as false is no fault. -/
def sectionRejection? (analysis : Json) (part : Section) : Option Rejection :=
  match analysis.get? part.name with
  | none => none
  | some value =>
    if !value.isTruthy then none
    else
      match value with
      | .array items => itemsRejection? part.itemKind items
      | _ => some ⟨.sectionNotAList part, value⟩

/-- Whether a section holds something. -/
def hasContent (analysis : Json) (part : Section) : Bool :=
  (analysis.get? part.name).any Json.isTruthy

/-- The rejection of an analysis in a reply, if there is one. -/
def analysisRejection? (reply analysis : Json) : Option Rejection :=
  match Section.all.findSome? (sectionRejection? analysis) with
  | some rejection => some rejection
  | none => if Section.all.any (hasContent analysis) then none else some ⟨.noContent, reply⟩

/-- Whether an answer in a form of its own was asked for. -/
def asksForm (format : Option Json) : Bool := format.any Json.isTruthy

/-- The rejection of a reply, if there is one. -/
def rejection? (format : Option Json) (reply : Json) : Option Rejection :=
  match reply with
  | .object _ =>
    if asksForm format then none
    else
      match reply.get? "components" with
      | some (.array items) => itemsRejection? .component items
      | _ =>
        match reply.get? "analysis" with
        | some (.object fields) => analysisRejection? reply (.object fields)
        | _ => some ⟨.noStructure, reply⟩
  | _ => some ⟨.notAnObject, reply⟩

end CodeAtlas.Reply
