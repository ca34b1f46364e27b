/-!
# Trees of files

What lies below a directory: files with their bytes, links with the path they lead to, and
directories whose entries are in the order of their names. Places in a tree are lists of names;
here links are not followed.
-/
namespace CodeAtlas.FileSystem

/-- An entry of a directory. -/
inductive Entry where
  /-- A file. -/
  | file (content : ByteArray)
  /-- A link to a path. -/
  | link (target : String)
  /-- A directory. -/
  | directory (entries : List (String × Entry))

namespace Entry

/-- The entries below an entry. -/
def entries : Entry → List (String × Entry)
  | .directory entries => entries
  | _ => []

/-- The entry of a name. -/
def child? (entry : Entry) (name : String) : Option Entry :=
  (entry.entries.find? (·.1 == name)).map (·.2)

/-- The entry at a place below an entry. -/
def at? (entry : Entry) : List String → Option Entry
  | [] => some entry
  | name :: names => (entry.child? name).bind (·.at? names)

end Entry

/-- Put an entry under a name into entries that are in the order of their names. -/
def putEntry (name : String) (entry : Entry) : List (String × Entry) → List (String × Entry)
  | [] => [(name, entry)]
  | (other, old) :: rest =>
    if name < other then (name, entry) :: (other, old) :: rest
    else if other = name then (name, entry) :: rest
    else (other, old) :: putEntry name entry rest

namespace Entry

/-- Put an entry at a place; directories that are missing on the way are made. -/
def put (top new : Entry) : List String → Entry
  | [] => new
  | name :: names =>
    .directory (putEntry name (((top.child? name).getD (.directory [])).put new names) top.entries)

/-- Take away the entry at a place. -/
def erase (top : Entry) : List String → Entry
  | [] => top
  | [name] => .directory (top.entries.filter (·.1 != name))
  | name :: names =>
    match top.child? name with
    | some entry => .directory (putEntry name (entry.erase names) top.entries)
    | none => top

end Entry

end CodeAtlas.FileSystem
