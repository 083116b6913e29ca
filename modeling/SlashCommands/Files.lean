import SlashCommands.Path

/-!
# Files

`Host` is the access to files that the commands need.  `Files` is a directory tree as a value, with
the operations on it and their faults; it serves as a host too.
-/

namespace SlashCommands

/-- Why an operation on a file fails. -/
inductive FileFault
  | noEntry
  | exists
  | notDirectory
  | isDirectory
  | nameTooLong
  | nulByte
  | other (message : String)
  deriving DecidableEq, Repr

/-- The wording of a fault, with the number that the system gives it. -/
def FileFault.message : FileFault → String
  | .noEntry => "No such file or directory (os error 2)"
  | .exists => "File exists (os error 17)"
  | .notDirectory => "Not a directory (os error 20)"
  | .isDirectory => "Is a directory (os error 21)"
  | .nameTooLong => "File name too long (os error 36)"
  | .nulByte => "file name contained an unexpected NUL byte"
  | .other message => message

/-- Access to files by path. -/
structure Host (μ : Type → Type) where
  home : String
  exists? : String → μ Bool
  read : String → μ (Except FileFault String)
  makeDirectories : String → μ (Except FileFault Unit)
  write : String → String → μ (Except FileFault Unit)

/-- What a place in the tree holds. -/
inductive FileEntry
  | directory
  | file (content : String)
  deriving DecidableEq, Repr

/-- A place: the names on the way from the working directory, where `..` leads out of it, or from
the top, which is named by a slash. -/
abbrev Place := List String

namespace Place

/-- Holds of the top, and of the working directory and those it lies in. -/
def isGiven (place : Place) : Bool :=
  place == ["/"] || place.all (· == "..")

/-- The place that a place lies in. -/
def parent (place : Place) : Place :=
  if place == ["/"] then place
  else if place.isGiven then place ++ [".."]
  else place.dropLast

end Place

/-- A tree of directories and files.  Paths start from its working directory, whose own path is
`root`, unless they are absolute. -/
structure Files where
  root : String
  entries : List (Place × FileEntry)

namespace Files

/-- The tree in which nothing has been made. -/
def empty (root : String) : Files := ⟨root, []⟩

/-- What a place holds, if anything. -/
def entry? (f : Files) (place : Place) : Option FileEntry :=
  if place.isGiven then some .directory
  else (f.entries.find? (·.1 == place)).map (·.2)

/-- Sets what a place holds. -/
def put (f : Files) (place : Place) (entry : FileEntry) : Files :=
  { f with entries := (place, entry) :: f.entries.filter (·.1 != place) }

/-- Goes from a place, which must be a directory, to a name in it. -/
def enter (f : Files) (place : Place) (name : String) : Except FileFault Place :=
  match f.entry? place with
  | none => .error .noEntry
  | some (.file _) => .error .notDirectory
  | some .directory =>
    if Path.isIdle name then .ok place
    else if name == ".." then .ok place.parent
    else if 255 < name.utf8ByteSize then .error .nameTooLong
    else .ok (place ++ [name])

/-- Follows names from a place. -/
def follow (f : Files) (place : Place) (names : List String) : Except FileFault Place :=
  names.foldlM f.enter place

/-- Where a path starts, and the path from there. -/
def start (f : Files) (path : String) : Place × String :=
  if path == f.root then ([], ".")
  else if (f.root ++ "/").toList.isPrefixOf path.toList then
    ([], String.ofList (path.toList.drop (f.root.length + 1)))
  else if Path.isAbsolute path then (["/"], path)
  else ([], path)

/-- The length from which on a path is too long, in bytes. -/
def pathLimit : Nat := 4096

/-- Where a path starts, and the names to follow from there. -/
def route (f : Files) (path : String) : Except FileFault (Place × List String) :=
  if path.toList.contains '\x00' then .error .nulByte
  else if path.isEmpty then .error .noEntry
  else if pathLimit ≤ path.utf8ByteSize then .error .nameTooLong
  else
    let (place, path) := f.start path
    .ok (place, Path.pieces path)

/-- The place that a path leads to. -/
def locate (f : Files) (path : String) : Except FileFault Place := do
  let (place, names) ← f.route path
  f.follow place names

/-- Holds of paths that end in a slash, which only directories may. -/
def endsInSlash (path : String) : Bool :=
  path.toList.getLast? == some '/'

/-- What a path leads to. -/
def open? (f : Files) (path : String) : Except FileFault FileEntry := do
  match f.entry? (← f.locate path) with
  | some entry => .ok entry
  | none => .error .noEntry

/-- Holds if a path leads to something. -/
def exists? (f : Files) (path : String) : Bool :=
  match f.open? path with
  | .ok _ => true
  | .error _ => false

/-- Holds if a path leads to a directory. -/
def isDirectory (f : Files) (path : String) : Bool :=
  match f.open? path with
  | .ok .directory => true
  | _ => false

/-- Reads a file. -/
def read (f : Files) (path : String) : Except FileFault String := do
  match ← f.open? path with
  | .directory => .error .isDirectory
  | .file content => .ok content

/-- Makes one directory, in a directory. -/
def makeDirectory (f : Files) (path : String) : Except FileFault Files := do
  let (start, names) ← f.route path
  let place ← f.follow start (Path.dropEmpty names)
  match f.entry? place with
  | some _ => .error .exists
  | none => .ok (f.put place .directory)

/-- Makes a directory, unless it is there. -/
def ensureDirectory (f : Files) (path : String) : Except FileFault Files :=
  match f.makeDirectory path with
  | .ok f => .ok f
  | .error fault => if f.isDirectory path then .ok f else .error fault

/-- Makes a directory and those it lies in, unless they are there, up to some depth. -/
def makeDirectoriesWithin (fuel : Nat) (f : Files) (path : String) : Except FileFault Files :=
  if path.isEmpty then .ok f
  else
    match f.ensureDirectory path, fuel, Path.parent? path with
    | .error .noEntry, fuel + 1, some parent => do
      (← makeDirectoriesWithin fuel f parent).ensureDirectory path
    | result, _, _ => result

/-- Makes a directory and those it lies in, unless they are there. -/
def makeDirectories (f : Files) (path : String) : Except FileFault Files :=
  makeDirectoriesWithin (Path.pieces path).length f path

/-- Writes a file in a directory.  A path that ends in a slash does not name a file, whatever it
leads to; all that matters is that the directory before its last name is there. -/
def write (f : Files) (path content : String) : Except FileFault Files := do
  let (start, names) ← f.route path
  let names := Path.dropEmpty names
  let directory ← f.follow start names.dropLast
  let place ← f.enter directory (if endsInSlash path then "." else names.getLast?.getD ".")
  match f.entry? place with
  | some .directory => .error .isDirectory
  | _ => .ok (f.put place (.file content))

/-- Makes a change, if it succeeds. -/
def change (update : Files → Except FileFault Files) : StateM Files (Except FileFault Unit) := do
  match update (← get) with
  | .ok f =>
    set f
    return .ok ()
  | .error fault => return .error fault

/-- Access to a tree, with a home directory. -/
def host (home : String) : Host (StateM Files) where
  home := home
  exists? path := return (← get).exists? path
  read path := return (← get).read path
  makeDirectories path := change (·.makeDirectories path)
  write path content := change (·.write path content)

end Files

end SlashCommands
