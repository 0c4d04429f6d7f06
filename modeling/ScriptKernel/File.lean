/-
**Files as a process sees them.**

* `FileSystem.read`: the text of a file, or why it cannot be read;
* `FileTree`: files and directories below a working directory, which answers as a file system.
-/

set_option autoImplicit false

namespace ScriptKernel

/-- Why a file cannot be read. -/
inductive FileError
  | notFound
  | isDirectory
  | notDirectory
  | nameTooLong
  | notText
  | invalidName
  | other (message : String)
  deriving DecidableEq, Repr

/-- The wording of a file error. -/
def FileError.message : FileError → String
  | .notFound => "No such file or directory (os error 2)"
  | .isDirectory => "Is a directory (os error 21)"
  | .notDirectory => "Not a directory (os error 20)"
  | .nameTooLong => "File name too long (os error 36)"
  | .notText => "stream did not contain valid UTF-8"
  | .invalidName => "file name contained an unexpected NUL byte"
  | .other message => message

/-- What reading each path gives. -/
structure FileSystem where
  read : String → Except FileError String

/-- A file or a directory. -/
inductive FileEntry
  | text (content : String)
  | binary
  | directory
  deriving DecidableEq, Repr

/-- The entries of a file system, each by its place. -/
structure FileTree where
  entries : List (List String × FileEntry) := []
  deriving Repr

namespace FileTree

/-! ### Places

A place is the list of names that leads to it from the working directory. Places outside of that directory
start with as many `..` as lead out of it, or with `/`; of those only the directories themselves are
known. -/

/-- Whether a place is the working directory, one above it, or the root. -/
def isAnchor (place : List String) : Bool := place == ["/"] || place.all (· == "..")

/-- The directory above a place. -/
def above (place : List String) : List String :=
  if place == ["/"] then place
  else if isAnchor place then place ++ [".."]
  else place.dropLast

/-- The entry at a place. -/
def entry? (tree : FileTree) (place : List String) : Option FileEntry :=
  if isAnchor place then some .directory
  else (tree.entries.find? fun entry => entry.1 == place).map Prod.snd

/-- The parts of a path between its slashes. -/
def parts (path : String) : List String := path.splitOn "/"

/-- Whether a path starts at the root. -/
def isAbsolute (path : String) : Bool := path.toList.head? == some '/'

/-- The place that a part of a path leads to from a directory. -/
def step (tree : FileTree) (place : List String) (part : String) : Except FileError (List String) :=
  match tree.entry? place with
  | some .directory =>
    if part == "" || part == "." then .ok place
    else if part == ".." then .ok (above place)
    else if part.utf8ByteSize > 255 then .error .nameTooLong
    else .ok (place ++ [part])
  | some _ => .error .notDirectory
  | none => .error .notFound

/-- The place a path leads to, whether there is an entry or not. -/
def locate (tree : FileTree) (path : String) : Except FileError (List String) :=
  if path.toList.contains '\x00' then .error .invalidName
  else if path.isEmpty then .error .notFound
  else if path.utf8ByteSize ≥ 4096 then .error .nameTooLong
  else (parts path).foldlM tree.step (if isAbsolute path then ["/"] else [])

/-- The text of the file at a path. -/
def read (tree : FileTree) (path : String) : Except FileError String := do
  let place ← tree.locate path
  match tree.entry? place with
  | none => .error .notFound
  | some .directory => .error .isDirectory
  | some .binary => .error .notText
  | some (.text content) => .ok content

/-! ### Changes

A change that the file system refuses leaves everything as it is. -/

/-- The place a path names by its last part; a path that ends in a slash, `.` or `..` names none. -/
def named? (tree : FileTree) (path : String) : Option (List String) :=
  if ["", ".", ".."].contains ((parts path).getLast?.getD "") then none
  else (tree.locate path).toOption

/-- Puts an entry at the place that a path names; directories stay, and no file becomes one. -/
def add (tree : FileTree) (path : String) (entry : FileEntry) : FileTree :=
  match tree.named? path with
  | none => tree
  | some place =>
    match tree.entry? place, entry with
    | none, _ => ⟨tree.entries ++ [(place, entry)]⟩
    | some .directory, _ | some _, .directory => tree
    | some _, _ =>
      ⟨tree.entries.map fun other => if other.1 == place then (place, entry) else other⟩

/-- The paths of the directories that lead to a path, outer ones first. -/
def leading (path : String) : List String :=
  let names := ((parts path).filter fun part => part != "" && part != ".").dropLast
  let start := if isAbsolute path then "/" else ""
  (List.range names.length).map fun count => start ++ "/".intercalate (names.take (count + 1))

/-- Puts an entry at a path, making the directories that lead to it. -/
def put (tree : FileTree) (path : String) (entry : FileEntry) : FileTree :=
  let made := (leading path).foldl (fun tree path => tree.add path .directory) tree
  match entry with
  | .directory => made.add (path.dropEndWhile (· == '/')).toString .directory
  | file => made.add path file

/-- Takes the file at a path away. -/
def remove (tree : FileTree) (path : String) : FileTree :=
  match tree.named? path with
  | none => tree
  | some place =>
    ⟨tree.entries.filter fun other => other.1 != place || other.2 == .directory⟩

/-- The file system of the tree. -/
def fileSystem (tree : FileTree) : FileSystem := ⟨tree.read⟩

end FileTree

end ScriptKernel
