import LoxSyntax.NodeModel.Error
import LoxSyntax.Text.Cut

/-! # A store of files

A directory tree held in memory: each path names a directory or a file with its
bytes, and the root is a directory. A working directory is fixed with the tree.

Paths are resolved the way a POSIX system resolves them. A path that starts with a
slash is resolved from the root, any other from the working directory. A path is cut
at its slashes; empty names (from doubled slashes) are skipped, `.` names the
directory reached so far and `..` its parent, the root being its own parent. Every
name before the last is a directory to pass through: the first that is missing fails
with "not found", the first that is a file with "not a directory", and a name longer
than 255 bytes with "name too long". An empty path names nothing, a path of 4096
bytes or more is too long, and a path holding the NUL character is refused before any
of this.

The last name then decides each operation:

* writing creates or truncates a file; it fails on a directory, on `.` and `..`, and
  on a path that ends in a slash;
* reading gives a file's bytes; it fails on a missing name, on a directory, and on a
  file named with a final slash; reading as text fails too on bytes that are no UTF-8;
* making a directory fails when the name exists already, `.` and `..` included;
* creating directories makes every missing directory of a path, from the top, and
  succeeds when the path already names a directory.

Symbolic links, permissions and the other file kinds are not modelled: no operation
of the generator makes them.
-/

namespace LoxSyntax.Files

open LoxSyntax.NodeModel

/-- What a path names. -/
inductive Entry where
  /-- A regular file and its bytes. -/
  | file (bytes : ByteArray)
  | directory

/-- Entries are equal when they are of one kind and, for files, hold the same bytes;
the bytes are compared element by element. -/
instance : DecidableEq Entry
  | .file x, .file y =>
    match ByteArray.instDecidableEq x y with
    | isTrue same => isTrue (same ▸ rfl)
    | isFalse differ => isFalse fun same => differ (Entry.file.inj same)
  | .file _, .directory => isFalse fun same => Entry.noConfusion same
  | .directory, .file _ => isFalse fun same => Entry.noConfusion same
  | .directory, .directory => isTrue rfl

/-- A directory tree, the root being the empty component list, and the directory from
which relative paths are resolved. -/
structure Store where
  entries : List (List String × Entry) := []
  workingDirectory : List String := []
deriving DecidableEq

/-- The longest name a directory holds, in bytes. -/
def maxNameBytes : Nat := 255

/-- The length in bytes from which a path is refused. -/
def pathLimitBytes : Nat := 4096

/-- Whether a name is too long for a directory to hold. -/
def isLongName (name : String) : Bool := name.utf8ByteSize > maxNameBytes

/-- A path cut at its slashes: whether it starts at the root, its names in order
without empty ones, and whether a slash ends it. -/
structure Location where
  absolute : Bool
  names : List String
  trailingSlash : Bool
deriving DecidableEq, Repr

/-- Cuts a path at its slashes. -/
def Location.ofPath (path : String) : Location :=
  { absolute := path.toList.head? == some '/'
    names := ((splitChars '/' path.toList).map String.ofList).filter (· != "")
    trailingSlash := path.endsWith "/" }

/-- The directory a path's names are resolved from: the root for an absolute path,
the working directory `cwd` for any other. -/
def Location.start (loc : Location) (cwd : List String) : List String :=
  if loc.absolute then [] else cwd

/-- The place reached by one more name from `here`: `.` stays, `..` goes up to the
parent, any other name goes in. -/
def Location.enter (here : List String) (name : String) : List String :=
  if name == "." then here else if name == ".." then here.dropLast else here ++ [name]

/-- What the last name of a path names, from the directory `dir` that holds it: the
directory itself for no name or `.`, its parent for `..`, and otherwise the name in
`dir`. -/
def Location.final (dir : List String) : Option String → List String × Option String
  | none => (dir, none)
  | some name =>
    if name == "." then (dir, none) else if name == ".." then (dir.dropLast, none)
    else (dir, some name)

namespace Store

/-- What a component list names. -/
def find? (s : Store) (components : List String) : Option Entry :=
  if components.isEmpty then some .directory else s.entries.lookup components

/-- The store with `components` naming `entry`. -/
def put (s : Store) (components : List String) (entry : Entry) : Store :=
  { s with entries := (s.entries.filter fun (c, _) => c != components) ++ [(components, entry)] }

/-- Passes through the directories `names` from the directory `here`, giving the
directory reached. -/
def walk (s : Store) (here : List String) : List String → Except IoFailure (List String)
  | [] => .ok here
  | name :: rest =>
    if name == "." then s.walk here rest
    else if name == ".." then s.walk here.dropLast rest
    else if isLongName name then .error .nameTooLong
    else match s.find? (here ++ [name]) with
      | none => .error .notFound
      | some (.file _) => .error .notDirectory
      | some .directory => s.walk (here ++ [name]) rest

/-- The directory that holds the last name of `path`, and that name; the name is
`none` when the path names a directory by `.`, `..` or no name at all, and the
directory is then the one named. -/
def locate (s : Store) (path : String) :
    Except IoFailure (Location × List String × Option String) := do
  if path.toList.any (· == '\x00') then throw .nulInPath
  if path.isEmpty then throw .notFound
  if path.utf8ByteSize ≥ pathLimitBytes then throw .nameTooLong
  let loc := Location.ofPath path
  let walked ← s.walk (loc.start s.workingDirectory) loc.names.dropLast
  let (dir, last) := Location.final walked loc.names.getLast?
  pure (loc, dir, last)

/-- Creates or truncates the file at `path` with `bytes`. -/
def write (s : Store) (path : String) (bytes : ByteArray) : Except IoFailure Store := do
  match ← s.locate path with
  | (_, _, none) => throw .isDirectory
  | (loc, dir, some name) =>
    if loc.trailingSlash then throw .isDirectory
    if isLongName name then throw .nameTooLong
    match s.find? (dir ++ [name]) with
    | some .directory => throw .isDirectory
    | _ => pure (s.put (dir ++ [name]) (.file bytes))

/-- The bytes of the file at `path`. -/
def readBytes (s : Store) (path : String) : Except IoFailure ByteArray := do
  match ← s.locate path with
  | (_, _, none) => throw .isDirectory
  | (loc, dir, some name) =>
    if isLongName name then throw .nameTooLong
    match s.find? (dir ++ [name]) with
    | none => throw .notFound
    | some .directory => throw .isDirectory
    | some (.file bytes) => if loc.trailingSlash then throw .notDirectory else pure bytes

/-- The text of the file at `path`: its bytes read as UTF-8. -/
def readToString (s : Store) (path : String) : Except IoFailure String :=
  match s.readBytes path with
  | .ok bytes =>
    match String.fromUTF8? bytes with
    | some text => .ok text
    | none => .error .invalidData
  | .error failure => .error failure

/-- Makes the directory at `path`, whose parent must exist. -/
def makeDirectory (s : Store) (path : String) : Except IoFailure Store := do
  match ← s.locate path with
  | (_, _, none) => throw .alreadyExists
  | (_, dir, some name) =>
    if isLongName name then throw .nameTooLong
    match s.find? (dir ++ [name]) with
    | some _ => throw .alreadyExists
    | none => pure (s.put (dir ++ [name]) .directory)

/-- Whether `path` names a directory. -/
def isDirectoryAt (s : Store) (path : String) : Bool :=
  match s.locate path with
  | .ok (_, _, none) => true
  | .ok (_, dir, some name) => !isLongName name && s.find? (dir ++ [name]) == some .directory
  | .error _ => false

/-- The names of a path as a path value counts them: empty names and `.` are
skipped, except a `.` that starts the path. -/
def pathComponents (path : String) : List String :=
  let keep (c : String) : Bool := c != "" && c != "."
  match path.splitOn "/" with
  | "." :: rest => "." :: rest.filter keep
  | raw => raw.filter keep

/-- The path of the directory above the last name of `path`, absolute when `path` is. -/
def parentPath (path : String) : String :=
  (if path.startsWith "/" then "/" else "") ++ "/".intercalate (pathComponents path).dropLast

/-- Creates the directory at `path` and every missing directory above it: it
makes the directory, and when a directory above is missing it first creates the
parent path and then tries again. A failure counts as success when the path names
a directory after all. -/
def createDirectories (s : Store) (path : String) : Except IoFailure Store :=
  go (pathComponents path).length s path
where
  /-- Creates directories with `fuel` bounding the levels still to climb. -/
  go : Nat → Store → String → Except IoFailure Store
    | 0, s, _ => .ok s
    | fuel + 1, s, path =>
      if (pathComponents path).isEmpty then .ok s
      else
        let settle (s : Store) (e : IoFailure) : Except IoFailure Store :=
          if s.isDirectoryAt path then .ok s else .error e
        match s.makeDirectory path with
        | .ok s' => .ok s'
        | .error .notFound =>
          match go fuel s (parentPath path) with
          | .error e => .error e
          | .ok s' =>
            match s'.makeDirectory path with
            | .ok s'' => .ok s''
            | .error e => settle s' e
        | .error e => settle s e

end Store

end LoxSyntax.Files
