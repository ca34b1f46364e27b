import CodeAtlas.FileParser

/-!
# Registries

A registry holds parsers in order; the first that accepts a path is the parser for it. It keeps
account of the paths that each parser was asked about, since what a parser accepts may depend on
them.
-/
namespace CodeAtlas

/-- A parser in a registry. -/
structure Registration where
  /-- The parser. -/
  parser : FileParser
  /-- The paths that it was asked about, latest first. -/
  asked : List String

/-- Parsers in the order in which they are asked. -/
structure Registry where
  /-- The registered parsers. -/
  registrations : List Registration

namespace Registry

/-- A registry of parsers that were never asked. -/
def ofList (parsers : List FileParser) : Registry := ⟨parsers.map (⟨·, []⟩)⟩

/-- The parsers in order. -/
def toList (registry : Registry) : List FileParser := registry.registrations.map (·.parser)

/-- The number of parsers. -/
def size (registry : Registry) : Nat := registry.registrations.length

/-- The usual parsers. -/
def standard (limits : Limits) : Registry :=
  ofList [.typescript limits.searching, .javascript limits.searching, .yaml limits.loading]

/-- A registry with a further parser, which is asked last. -/
def register (registry : Registry) (parser : FileParser) : Registry :=
  ⟨registry.registrations ++ [⟨parser, []⟩]⟩

/-- Ask parsers about a path up to the first that accepts it. -/
def ask (path : String) : List Registration → Option FileParser × List Registration
  | [] => (none, [])
  | ⟨parser, asked⟩ :: rest =>
    if parser.accepts asked path then (some parser, ⟨parser, path :: asked⟩ :: rest)
    else
      let (found, rest) := ask path rest
      (found, ⟨parser, path :: asked⟩ :: rest)

/-- The parser for a path, and the registry after asking. -/
def select (registry : Registry) (path : String) : Option FileParser × Registry :=
  let (found, registrations) := ask path registry.registrations
  (found, ⟨registrations⟩)

/-- Whether there is a parser for a path, and the registry after asking. -/
def accepts (registry : Registry) (path : String) : Bool × Registry :=
  let (found, registry) := registry.select path
  (found.isSome, registry)

end Registry

end CodeAtlas
