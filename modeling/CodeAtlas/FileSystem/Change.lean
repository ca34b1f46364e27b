import CodeAtlas.FileSystem.Access

/-!
# Changes of a file system

Entries are written and removed by their paths. A write follows links on its way and makes the
directories that are missing.
-/
namespace CodeAtlas.FileSystem

/-- The place that a name leads to from a place, if a directory is there or nothing is. -/
def step (system : FileSystem) (here : List String) (name : String) : List String :=
  match system.resolve true linkLimit here [name] with
  | .ok (place, _) => place
  | .error _ => here ++ [name]

/-- The place of a path, links on the way followed. -/
def placeOf (system : FileSystem) (path : Path) : List String :=
  match path.names.getLast? with
  | some name => path.names.dropLast.foldl system.step (system.base path) ++ [name]
  | none => system.base path

/-- Write an entry at a path. -/
def write (system : FileSystem) (path : Path) (entry : Entry) : FileSystem :=
  { system with top := system.top.put entry (system.placeOf path) }

/-- Write the bytes of a file at a path; a link at the path leads to the file. -/
def writeFile (system : FileSystem) (path : Path) (content : ByteArray) : FileSystem :=
  match system.locate true path with
  | .ok (place, .file _) => { system with top := system.top.put (.file content) place }
  | _ => system.write path (.file content)

/-- Make a directory at a path, unless one is there. -/
def makeDirectory (system : FileSystem) (path : Path) : FileSystem :=
  match system.locate true path with
  | .ok (_, .directory _) => system
  | _ => system.write path (.directory [])

/-- Remove what is at a path. -/
def remove (system : FileSystem) (path : Path) : FileSystem :=
  { system with top := system.top.erase (system.placeOf path) }

end CodeAtlas.FileSystem
