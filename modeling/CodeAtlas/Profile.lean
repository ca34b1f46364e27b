import CodeAtlas.FileSystem.Path
import CodeAtlas.Language

/-!
# Languages by name and by file

The profile of each language: its name, the file extensions it is chosen for, and what its class
members look like. No extension belongs to two languages, so a path has at most one language.
-/
namespace CodeAtlas

namespace Language

/-- All languages, in the order in which they are looked up. -/
def all : List Language := [.typescript, .tsx, .javascript]

/-- The name of a language. -/
def name : Language → String
  | .typescript => "typescript"
  | .tsx => "tsx"
  | .javascript => "javascript"

/-- The extensions of files in a language. -/
def extensions : Language → List String
  | .typescript => [".ts"]
  | .tsx => [".tsx"]
  | .javascript => [".js", ".jsx"]

/-- The names of the kinds of members that declare a property. -/
def propertyKindNames (language : Language) : List String :=
  if language.typed then ["public_field_definition"] else ["field_definition"]

/-- The name of the place that holds the name of a property. -/
def propertyFieldName (language : Language) : String :=
  if language.typed then "name" else "property"

/-- The language of a name. -/
def ofName? (name : String) : Option Language := all.find? (·.name == name)

/-- The language of an extension. -/
def ofExtension? (extension : String) : Option Language :=
  all.find? (·.extensions.contains extension)

/-- The language of a path. -/
def ofPath? (path : Path) : Option Language := ofExtension? path.extension

end Language

end CodeAtlas
