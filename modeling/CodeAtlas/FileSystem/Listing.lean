import CodeAtlas.FileSystem.Access

/-!
# Listing files

All files below a directory, depth first, each directory in the order of its entries. Entries of
ignored names are left out with everything below them; directories that cannot be read and links
to directories are left out too. The directory itself must be there and must be readable; of what is
come to below it, it must be possible to ask whether it is a directory, and there must be room for
its level.
-/
namespace CodeAtlas

namespace FileSystem

/-- Names that are left out of a project. -/
def ignoredNames : List String := ["node_modules", ".git", "dist", ".idea", ".vscode"]

/-- Why a project cannot be listed. -/
inductive RootError where
  /-- Nothing is at the path. -/
  | missing (path : String)
  /-- What is at the path is no directory. -/
  | notADirectory (path : String)
  /-- The directory at the path cannot be read. -/
  | unreadable (path : String) (cause : AccessError)
  /-- The home directory that the path begins with is not known. -/
  | unknownHome
  /-- Access to the path, to one below it or to the home directory that it begins with fails. -/
  | access (cause : AccessError)
  /-- Directories are nested more deeply than can be listed. -/
  | tooDeep
  deriving DecidableEq, Repr

/-- What a root error says. -/
def RootError.message : RootError → String
  | .missing path => "Folder does not exist: " ++ path
  | .notADirectory path => "Not a directory: " ++ path
  | .unreadable path cause => "Cannot read folder " ++ path ++ ": " ++ cause.message
  | .unknownHome => "Could not determine home directory."
  | .access cause => cause.message
  | .tooDeep => "maximum recursion depth exceeded"

mutual

/-- The files at and below an entry at a path, so many levels of them. Whether a directory is there
is asked of the path; if this cannot be told, the listing fails. A link to a directory is not
followed. -/
def filesAt (system : FileSystem) (ignored : List String) (levels : Nat) (path : Path)
    (entry : Entry) : Except RootError (List Path) :=
  match levels with
  | 0 => .error .tooDeep
  | levels + 1 =>
    match system.isDirectory path with
    | .error error => .error (.access error)
    | .ok false => .ok [path]
    | .ok true =>
      match entry with
      | .directory entries =>
        match system.entries path with
        | .error _ => .ok []
        | .ok _ => filesAmong system ignored levels path entries
      | _ => .ok []

/-- The files at and below the entries of a directory, so many levels of them. -/
def filesAmong (system : FileSystem) (ignored : List String) (levels : Nat) (directory : Path) :
    List (String × Entry) → Except RootError (List Path)
  | [] => .ok []
  | (name, entry) :: entries =>
    if ignored.contains name then filesAmong system ignored levels directory entries
    else
      match filesAt system ignored levels (directory.child name) entry with
      | .error error => .error error
      | .ok files =>
        match filesAmong system ignored levels directory entries with
        | .error error => .error error
        | .ok others => .ok (files ++ others)

end

/-- All files below the directory at a path. -/
def files (system : FileSystem) (ignored : List String) (root : Path) :
    Except RootError (List Path) :=
  match system.exists? root with
  | .error error => .error (.access error)
  | .ok false => .error (.missing root.text)
  | .ok true =>
    match system.isDirectory root with
    | .error error => .error (.access error)
    | .ok false => .error (.notADirectory root.text)
    | .ok true =>
      match system.entries root with
      | .error error => .error (.unreadable root.text error)
      | .ok entries => system.filesAmong ignored system.levels root entries

/-- A path with a home directory in place of a tilde at its start and the name of a user after it;
nobody is asked for under a name with a null character. -/
def expandHome (system : FileSystem) (path : Path) : Except RootError Path :=
  match path.root, path.names with
  | 0, name :: names =>
    if name.toList.head? = some '~' then
      if name.toList.contains '\x00' then .error (.access ⟨.nullCharacter, name⟩)
      else
        match system.homes (String.ofList name.toList.tail) with
        | some home => .ok (home.join ⟨0, names⟩)
        | none => .error .unknownHome
    else .ok path
  | _, _ => .ok path

end FileSystem

end CodeAtlas
