import CodeAtlas.FileSystem.Path
import CodeAtlas.FileSystem.Tree
import CodeAtlas.Text.Quoted

/-!
# Access to files

Paths are resolved name by name, from the working directory or from the root of everything, and
links are followed up to a limit. Every question about a path may fail; `Fault` has the reasons.
Some directories may not be passed through, and some entries may not be read although they are
there.
-/
namespace CodeAtlas

namespace FileSystem

/-- Why access to a path fails. -/
inductive Fault where
  /-- Nothing is there. -/
  | notFound
  /-- It may not be read. -/
  | denied
  /-- Something on the way is no directory. -/
  | notADirectory
  /-- A directory stands where a file is needed. -/
  | isADirectory
  /-- A name or the whole path is too long. -/
  | nameTooLong
  /-- Too many links lead on to one another. -/
  | tooManyLinks
  /-- The path holds a null character. -/
  | nullCharacter
  deriving DecidableEq, Repr

namespace Fault

/-- The number of a fault. -/
def number : Fault → Nat
  | .notFound => 2
  | .denied => 13
  | .notADirectory => 20
  | .isADirectory => 21
  | .nullCharacter => 22
  | .nameTooLong => 36
  | .tooManyLinks => 40

/-- The name of a fault. -/
def title : Fault → String
  | .notFound => "No such file or directory"
  | .denied => "Permission denied"
  | .notADirectory => "Not a directory"
  | .isADirectory => "Is a directory"
  | .nullCharacter => "Invalid argument"
  | .nameTooLong => "File name too long"
  | .tooManyLinks => "Too many levels of symbolic links"

/-- Whether a fault only says that nothing can be found at the path. -/
def meansAbsent : Fault → Bool
  | .notFound | .notADirectory | .tooManyLinks | .nullCharacter => true
  | _ => false

end Fault

/-- A fault and the path at which it arose. -/
structure AccessError where
  /-- The fault. -/
  fault : Fault
  /-- The text of the path. -/
  path : String
  deriving DecidableEq, Repr

/-- What an access error says. -/
def AccessError.message (error : AccessError) : String :=
  if error.fault = .nullCharacter then "embedded null byte"
  else
    "[Errno " ++ toString error.fault.number ++ "] " ++ error.fault.title ++ ": " ++
      Text.quoted error.path

end FileSystem

/-- A file system as it is seen by a program. Entries stand at places below the root of everything;
what may be read may depend on the path that is asked for, as well as on the place that it leads
to. -/
structure FileSystem where
  /-- The root of everything. -/
  top : FileSystem.Entry
  /-- The place of the working directory. -/
  working : List String
  /-- The paths of the home directories of users, by their names; the user of the program has the
  empty name. -/
  homes : String → Option Path
  /-- Whether what is at a place may not be read, if a path of a text leads there. -/
  unreadable : String → List String → Bool
  /-- Whether the directory at a place may not be passed through. -/
  impassable : List String → Bool
  /-- How many levels of directories can be listed. -/
  levels : Nat

namespace FileSystem

/-- A file system with nothing but the entries below its working directory, all of which may be
read; nobody has a home directory. -/
def plain (top : Entry) : FileSystem where
  top
  working := []
  homes _ := none
  unreadable _ _ := false
  impassable _ := false
  levels := 10

/-- The most links that are followed for one path. -/
def linkLimit : Nat := 40

/-- The most bytes of a name. -/
def nameLimit : Nat := 255

/-- The most bytes of a path. -/
def pathLimit : Nat := 4095

/-- How far a path leads without following a link. -/
inductive Reach where
  /-- To an entry at a place. -/
  | arrived (place : List String) (entry : Entry)
  /-- To a link in a directory, with the names that come after it. -/
  | atLink (directory : List String) (target : String) (rest : List String)

/-- Follow names from a directory up to the first link. The last name is followed through a link
only on demand. The root of everything is the directory above itself. -/
def advance (system : FileSystem) (followLast : Bool) (here : List String) :
    List String → Except Fault Reach
  | [] =>
    match system.top.at? here with
    | some entry => .ok (.arrived here entry)
    | none => .error .notFound
  | name :: names =>
    if system.impassable here then .error .denied
    else if name = "." then system.advance followLast here names
    else if name = ".." then system.advance followLast here.dropLast names
    else if nameLimit < name.utf8ByteSize then .error .nameTooLong
    else
      match system.top.at? (here ++ [name]) with
      | none => .error .notFound
      | some (.directory _) => system.advance followLast (here ++ [name]) names
      | some (.file content) =>
        if names.isEmpty then .ok (.arrived (here ++ [name]) (.file content))
        else .error .notADirectory
      | some (.link target) =>
        if names.isEmpty && !followLast then .ok (.arrived (here ++ [name]) (.link target))
        else .ok (.atLink here target names)

/-- The names in the target of a link; after a slash at the end comes the directory itself. -/
def targetNames (target : String) : List String :=
  let chars := target.toList
  let names := (Path.splitFrom [] chars).filter (· ≠ "")
  if names.isEmpty then [] else if chars.getLast? = some '/' then names ++ ["."] else names

/-- Where the target of a link in a directory is followed from. -/
def targetBase (directory : List String) (target : String) : List String :=
  if target.toList.head? = some '/' then [] else directory

/-- Follow names from a directory, and at most so many links. -/
def resolve (system : FileSystem) (followLast : Bool) :
    Nat → List String → List String → Except Fault (List String × Entry)
  | links, here, names =>
    match system.advance followLast here names with
    | .error fault => .error fault
    | .ok (.arrived place entry) => .ok (place, entry)
    | .ok (.atLink directory target rest) =>
      match links with
      | 0 => .error .tooManyLinks
      | links + 1 =>
        if pathLimit < target.utf8ByteSize then .error .nameTooLong
        else if target = "" then .error .notFound
        else system.resolve followLast links (targetBase directory target)
          (targetNames target ++ rest)

/-- Where a path is followed from. -/
def base (system : FileSystem) (path : Path) : List String :=
  if path.root = 0 then system.working else []

/-- The names by which a path is followed; one without names leads to the working directory
itself. -/
def namesTo (path : Path) : List String :=
  if path.root = 0 && path.names.isEmpty then ["."] else path.names

/-- What is at a path, and at which place. -/
def locate (system : FileSystem) (followLast : Bool) (path : Path) :
    Except Fault (List String × Entry) :=
  if path.text.toList.contains '\x00' then .error .nullCharacter
  else if pathLimit < path.text.utf8ByteSize then .error .nameTooLong
  else system.resolve followLast linkLimit (system.base path) (namesTo path)

/-- Whether the answer to a question about what is at a path is yes; nothing is a no. -/
def ask (system : FileSystem) (followLast : Bool) (question : Entry → Bool) (path : Path) :
    Except AccessError Bool :=
  match system.locate followLast path with
  | .ok (_, entry) => .ok (question entry)
  | .error fault => if fault.meansAbsent then .ok false else .error ⟨fault, path.text⟩

/-- Whether something is at a path. -/
def exists? (system : FileSystem) (path : Path) : Except AccessError Bool :=
  system.ask true (fun _ => true) path

/-- Whether an entry is a directory. -/
def Entry.isDirectory : Entry → Bool
  | .directory _ => true
  | _ => false

/-- Whether a directory is at a path. -/
def isDirectory (system : FileSystem) (path : Path) : Except AccessError Bool :=
  system.ask true Entry.isDirectory path

/-- The entries of the directory at a path. -/
def entries (system : FileSystem) (path : Path) : Except AccessError (List (String × Entry)) :=
  match system.locate true path with
  | .ok (place, .directory entries) =>
    if system.unreadable path.text place then .error ⟨.denied, path.text⟩ else .ok entries
  | .ok _ => .error ⟨.notADirectory, path.text⟩
  | .error fault => .error ⟨fault, path.text⟩

/-- The bytes of the file at a path. -/
def read (system : FileSystem) (path : Path) : Except AccessError ByteArray :=
  match system.locate true path with
  | .ok (place, entry) =>
    if system.unreadable path.text place then .error ⟨.denied, path.text⟩
    else
      match entry with
      | .file content => .ok content
      | _ => .error ⟨.isADirectory, path.text⟩
  | .error fault => .error ⟨fault, path.text⟩

end FileSystem

end CodeAtlas
