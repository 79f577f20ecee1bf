import ClusterTopology.Entries
import ClusterTopology.Files.Path
import ClusterTopology.Text.Quoted
import ClusterTopology.Text.Utf8

/-!
# Files

A tree of files and directories below the working directory. Operations walk
a path name by name and report where that ends: nothing is there, a file is in
the way, a name is too long.
-/

namespace ClusterTopology

/-- What a name in a directory stands for. -/
inductive FileNode where
  | file (data : List UInt8)
  | directory
  deriving DecidableEq, Repr

/-- Why an operation on a file is refused. -/
inductive FileCause where
  | notFound
  | alreadyExists
  | notDirectory
  | isDirectory
  | nameTooLong
  deriving DecidableEq, Repr

/-- The number that the operating system has for a cause. -/
def FileCause.number : FileCause → Nat
  | .notFound => 2
  | .alreadyExists => 17
  | .notDirectory => 20
  | .isDirectory => 21
  | .nameTooLong => 36

/-- The words for a cause. -/
def FileCause.describe : FileCause → String
  | .notFound => "No such file or directory"
  | .alreadyExists => "File exists"
  | .notDirectory => "Not a directory"
  | .isDirectory => "Is a directory"
  | .nameTooLong => "File name too long"

/-- A refused operation on a file. -/
inductive FileError where
  /-- The operating system refuses the path. -/
  | refused (cause : FileCause) (path : String)
  /-- A path with a null character is never handed to the system. -/
  | nullInPath
  deriving DecidableEq, Repr

/-- The text that reports a refused operation. -/
def FileError.message : FileError → String
  | .refused cause path =>
    "[Errno " ++ toString cause.number ++ "] " ++ cause.describe ++ ": " ++ Text.quoted path
  | .nullInPath => "embedded null byte"

/-- The files below the working directory, by the names that lead to them. The
working directory itself has no entry. -/
structure Files where
  entries : Entries (List String) FileNode
  deriving Repr

namespace Files

/-- The tree without files. -/
def empty : Files := ⟨[]⟩

/-- What the names from the working directory lead to. -/
def node? (files : Files) (names : List String) : Option FileNode :=
  if names.isEmpty then some .directory else Entries.get? files.entries names

/-- Where a path leads: into the tree, to a node or to a free name of a
directory, or out of the tree. -/
inductive Place where
  | taken (names : List String) (node : FileNode)
  | free (names : List String)
  | outside
  deriving DecidableEq, Repr

/-- The longest name that is accepted, in bytes. -/
def maxName : Nat := 255

/-- The longest path that is accepted, in bytes. -/
def maxPath : Nat := 4095

/-- Follows names from a directory of the tree, or from outside of it. Every
name but the last must lead to a directory. -/
def walk (files : Files) (here : Option (List String)) : List String → Except FileCause Place
  | [] =>
    match here with
    | some names => .ok (.taken names .directory)
    | none => .ok .outside
  | name :: rest =>
    if maxName < (Utf8.encode name).length then .error .nameTooLong
    else if name = ".." then
      match here with
      | some names => walk files (if names.isEmpty then none else some names.dropLast) rest
      | none => walk files none rest
    else
      match here with
      | none => .error .notFound
      | some names =>
        let names := names ++ [name]
        match files.node? names, rest with
        | some .directory, rest => walk files (some names) rest
        | some (.file data), [] => .ok (.taken names (.file data))
        | some (.file _), _ :: _ => .error .notDirectory
        | none, [] => .ok (.free names)
        | none, _ :: _ => .error .notFound

/-- Where a path leads, if the system accepts it. -/
def place (files : Files) (path : Path) : Except FileCause Place :=
  if maxPath < (Utf8.encode path.toText).length then .error .nameTooLong
  else files.walk (if path.root = "" then some [] else none) path.names

/-- Whether something is at a path. Only a path that is too long is refused. -/
def contains (files : Files) (path : Path) : Except FileError Bool :=
  if path.hasNull then .ok false
  else
    match files.place path with
    | .ok (.taken _ _) => .ok true
    | .ok .outside => .ok true
    | .ok (.free _) => .ok false
    | .error .nameTooLong => .error (.refused .nameTooLong path.toText)
    | .error _ => .ok false

/-- The content of the file at a path. -/
def read (files : Files) (path : Path) : Except FileError (List UInt8) :=
  if path.hasNull then .error .nullInPath
  else
    match files.place path with
    | .ok (.taken _ (.file data)) => .ok data
    | .ok (.taken _ .directory) => .error (.refused .isDirectory path.toText)
    | .ok .outside => .error (.refused .isDirectory path.toText)
    | .ok (.free _) => .error (.refused .notFound path.toText)
    | .error cause => .error (.refused cause path.toText)

/-- The names under which a file can be opened for writing, with what it holds
so far. -/
def writable (files : Files) (path : Path) : Except FileError (List String × List UInt8) :=
  if path.hasNull then .error .nullInPath
  else
    match files.place path with
    | .ok (.taken names (.file data)) => .ok (names, data)
    | .ok (.taken _ .directory) => .error (.refused .isDirectory path.toText)
    | .ok .outside => .error (.refused .isDirectory path.toText)
    | .ok (.free names) => .ok (names, [])
    | .error cause => .error (.refused cause path.toText)

/-- The tree with a file of the given content. -/
def put (files : Files) (names : List String) (data : List UInt8) : Files :=
  ⟨Entries.insert files.entries names (.file data)⟩

/-- The tree with an empty directory where there was none. -/
def putDirectory (files : Files) (names : List String) : Files :=
  match files.node? names with
  | some .directory => files
  | _ => ⟨Entries.insert files.entries names .directory⟩

/-- The tree with more bytes at the end of a file. -/
def append (files : Files) (names : List String) (data : List UInt8) : Files :=
  match files.node? names with
  | some (.file before) => files.put names (before ++ data)
  | _ => files.put names data

/-- The tree without what the names lead to. -/
def remove (files : Files) (names : List String) : Files :=
  ⟨files.entries.filter fun entry => !names.isPrefixOf entry.1⟩

/-- The names of the directory that can be made at a path, if it is not there
yet. -/
def newDirectory (files : Files) (path : Path) : Except FileError (List String) :=
  if path.hasNull then .error .nullInPath
  else
    match files.place path with
    | .ok (.free names) => .ok names
    | .ok _ => .error (.refused .alreadyExists path.toText)
    | .error cause => .error (.refused cause path.toText)

/-- Whether a directory is at a path. -/
def isDirectory (files : Files) (path : Path) : Bool :=
  match files.place path with
  | .ok (.taken _ .directory) => true
  | .ok .outside => true
  | _ => false

/-- Makes the directory at a path unless it is there; the result is the list of
directories that were made. -/
def ensureLast (files : Files) (path : Path) : Except FileError (List (List String)) :=
  match files.newDirectory path with
  | .ok names => .ok [names]
  | .error error => if files.isDirectory path then .ok [] else .error error

/-- Makes the directory at a path with all directories on the way to it. The
fuel is the number of names. -/
def ensureAll (files : Files) (path : Path) : Nat → Except FileError (List (List String))
  | 0 => files.ensureLast path
  | fuel + 1 =>
    match files.newDirectory path with
    | .error (.refused .notFound text) =>
      if path.names.isEmpty then .error (.refused .notFound text)
      else
        match files.ensureAll path.parent fuel with
        | .error error => .error error
        | .ok made =>
          let after := made.foldl putDirectory files
          (after.ensureLast path).map (made ++ ·)
    | _ => files.ensureLast path

/-- The directories to make so that there is one at a path. -/
def missingDirectories (files : Files) (path : Path) : Except FileError (List (List String)) :=
  files.ensureAll path path.names.length

end Files

end ClusterTopology
