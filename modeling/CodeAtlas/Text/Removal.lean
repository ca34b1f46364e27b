/-!
# Removing stretches of a text

A finder looks at the front of a list of characters and gives the length of the stretch that
begins there, if one does. `remove` drops the stretches that it finds from left to right; what
lies in a stretch is not looked at again.
-/
namespace CodeAtlas.Text

/-- The length of a stretch at the front of characters. -/
abbrev Finder := List Char → Option Nat

/-- The characters outside of stretches; the first `skip` belong to a stretch found before. -/
def removeFrom (find : Finder) : Nat → List Char → List Char
  | _, [] => []
  | skip + 1, _ :: rest => removeFrom find skip rest
  | 0, char :: rest =>
    match find (char :: rest) with
    | some (length + 1) => removeFrom find length rest
    | _ => char :: removeFrom find 0 rest

/-- The characters outside of the stretches that a finder finds. -/
def remove (find : Finder) (chars : List Char) : List Char := removeFrom find 0 chars

/-- How many characters stand before the first place where a text begins, if there is one. -/
def distanceTo? (text : List Char) : List Char → Option Nat
  | [] => if text.isEmpty then some 0 else none
  | char :: rest =>
    if text.isPrefixOf (char :: rest) then some 0 else (distanceTo? text rest).map (· + 1)

end CodeAtlas.Text
