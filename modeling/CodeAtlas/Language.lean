/-!
# Covered languages

The three grammars that source files are read with. `Language.typed` says whether a grammar has
type annotations and `Language.markup` whether it has embedded elements; the other facts about a
language stand with the profile of its file names.
-/
namespace CodeAtlas

/-- A grammar of source files. -/
inductive Language where
  /-- Typed sources without embedded elements. -/
  | typescript
  /-- Typed sources with embedded elements. -/
  | tsx
  /-- Untyped sources with embedded elements. -/
  | javascript
  deriving DecidableEq, Repr, Hashable

namespace Language

/-- Whether type annotations can be read from the tree. -/
def typed : Language → Bool
  | .javascript => false
  | _ => true

/-- Whether the grammar has embedded elements. -/
def markup : Language → Bool
  | .typescript => false
  | _ => true

end Language

end CodeAtlas
