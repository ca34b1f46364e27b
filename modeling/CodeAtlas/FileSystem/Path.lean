import CodeAtlas.Text.Case

/-!
# Paths

A path is a root, which may be missing, and the names below it. Reading a path drops empty names
and names of a single dot, so that two spellings of one path are equal.
-/
namespace CodeAtlas

/-- A path in normal form. -/
structure Path where
  /-- Slashes before the first name: none, one, or exactly two. -/
  root : Nat
  /-- The names, none empty and none a single dot. -/
  names : List String
  deriving DecidableEq, Repr

namespace Path

/-- Split characters at slashes; `current` holds the name so far, last character first. -/
def splitFrom : List Char → List Char → List String
  | current, [] => [String.ofList current.reverse]
  | current, char :: rest =>
    if char = '/' then String.ofList current.reverse :: splitFrom [] rest
    else splitFrom (char :: current) rest

/-- The names of a text that are kept. -/
def namesOf (chars : List Char) : List String :=
  (splitFrom [] chars).filter fun name => name ≠ "" && name ≠ "."

/-- Read a path. -/
def ofString (text : String) : Path :=
  let chars := text.toList
  let slashes := (chars.takeWhile (· = '/')).length
  ⟨if slashes = 0 then 0 else if slashes = 2 then 2 else 1, namesOf chars⟩

/-- The path below this one by a name. -/
def child (path : Path) (name : String) : Path := ⟨path.root, path.names ++ [name]⟩

/-- This path, and then another; a path with a root of its own stands alone. -/
def join (path other : Path) : Path :=
  if other.root = 0 then ⟨path.root, path.names ++ other.names⟩ else other

/-- The text of a path; a path without names is a single dot. -/
def text (path : Path) : String :=
  if path.root = 0 && path.names.isEmpty then "."
  else String.ofList (List.replicate path.root '/') ++ "/".intercalate path.names

/-- The last name of a path, or nothing. -/
def name (path : Path) : String := path.names.getLast?.getD ""

/-- The ending of a name from its last dot on, if the dot is neither its first nor its last
character. -/
def suffixOf (name : List Char) : List Char :=
  let after := (name.reverse.takeWhile (· ≠ '.')).reverse
  if after.isEmpty || name.length ≤ after.length + 1 then [] else '.' :: after

/-- The ending of the last name. -/
def suffix (path : Path) : String := String.ofList (suffixOf path.name.toList)

/-- The ending of the last name in lower case. -/
def extension (path : Path) : String := Text.toLower path.suffix

end Path

end CodeAtlas
