import Startup.Files.Path
import Startup.OrderedMap
import Startup.Text.Quoted
import Startup.Text.Utf8

/-!
# A tree of files and directories

A `FileTree` maps locations to files and directories. A location is the list of byte names from the
root; the root itself is always a directory. Operations take a path, walk along it one name at a
time through existing directories, and either take full effect or fail and change nothing.
-/

namespace Startup

inductive FileErrorKind where
  | notFound
  | busy
  | exists
  | notDirectory
  | isDirectory
  | nameTooLong
deriving DecidableEq

namespace FileErrorKind

def number : FileErrorKind → Nat
  | notFound => 2
  | busy => 16
  | .exists => 17
  | notDirectory => 20
  | isDirectory => 21
  | nameTooLong => 36

def description : FileErrorKind → Text
  | notFound => "No such file or directory"
  | busy => "Device or resource busy"
  | .exists => "File exists"
  | notDirectory => "Not a directory"
  | isDirectory => "Is a directory"
  | nameTooLong => "File name too long"

end FileErrorKind

/-- A refusal of the system, with the path it concerns and, for a move, the path to move to. -/
structure FileError where
  kind : FileErrorKind
  path : Path
  target? : Option Path
deriving DecidableEq

def FileError.message (error : FileError) : Text :=
  let target : Text :=
    match error.target? with
    | none => ""
    | some path => " -> " ++ Text.quoted path.text
  "[Errno " ++ Text.ofNat error.kind.number ++ "] " ++ error.kind.description ++ ": " ++
    Text.quoted error.path.text ++ target

inductive FileFault where
  | refused (error : FileError)
  | unencodable (place : Utf8.Unencodable)
  | embeddedNull
  | nameless (path : Path)
deriving DecidableEq

def FileFault.message : FileFault → Text
  | refused error => error.message
  | unencodable place => place.message
  | embeddedNull => "embedded null byte"
  | nameless path => "PosixPath(" ++ Text.quoted path.text ++ ") has an empty name"

/-- The names from the root to a file or directory, as the system stores them. -/
abbrev Location := List Bytes

inductive Entry where
  | file (content : Bytes)
  | directory
deriving DecidableEq

/-- Files and directories, and the directory at which relative paths start. -/
structure FileTree where
  entries : OrderedMap Location Entry
  workingDirectory : Location
deriving DecidableEq

namespace Path

/-- The names of the path as the system stores them, if it can take the path at all. -/
def systemNames (path : Path) : Except FileFault (List Bytes) :=
  match Utf8.unencodable? path.text with
  | some place => .error (.unencodable place)
  | none =>
      if path.text.any (·.toNat == 0) then .error .embeddedNull
      else .ok (path.names.map fun name => (Utf8.encode? name).getD [])

def nameLimit : Nat := 255

/-- The number of bytes that no whole path reaches. -/
def pathLimit : Nat := 4096

def isTooLong (path : Path) : Bool :=
  pathLimit ≤ ((Utf8.encode? path.text).getD []).length

end Path

def parentName : Bytes := [46, 46]

/-- Where a path leads: to a directory, through a path without a last name of its own, or to a name
in an existing directory, whether or not something is there. -/
inductive Place where
  | directory (location : Location)
  | named (location : Location)
deriving DecidableEq

def Place.location : Place → Location
  | directory location => location
  | named location => location

namespace FileTree

def entry? (tree : FileTree) (location : Location) : Option Entry :=
  if location = [] then some .directory else tree.entries.get? location

def put (tree : FileTree) (location : Location) (entry : Entry) : FileTree :=
  { tree with entries := tree.entries.insert location entry }

def clear (tree : FileTree) (location : Location) : FileTree :=
  { tree with entries := tree.entries.erase location }

/-- Goes from a directory into the directories of the given names. -/
def enter (tree : FileTree) (location : Location) : List Bytes → Except FileErrorKind Location
  | [] => .ok location
  | name :: rest =>
      if name = parentName then enter tree location.dropLast rest
      else if Path.nameLimit < name.length then .error .nameTooLong
      else
        match tree.entry? (location ++ [name]) with
        | some .directory => enter tree (location ++ [name]) rest
        | some (.file _) => .error .notDirectory
        | none => .error .notFound

/-- Goes from a directory along the given names; the last one need not exist. -/
def walk (tree : FileTree) (location : Location) (names : List Bytes) :
    Except FileErrorKind Place := do
  match names.getLast? with
  | none => return .directory location
  | some last =>
      let above ← tree.enter location names.dropLast
      if last = parentName then return .directory above.dropLast
      else if Path.nameLimit < last.length then throw .nameTooLong
      else return .named (above ++ [last])

def startOf (tree : FileTree) : Path.Start → Location
  | .relative => tree.workingDirectory
  | _ => []

def place (tree : FileTree) (path : Path) (names : List Bytes) : Except FileErrorKind Place :=
  if path.isTooLong then .error .nameTooLong else tree.walk (tree.startOf path.start) names

def atPlace {α : Type} (tree : FileTree) (path : Path)
    (operation : Place → Except FileErrorKind α) : Except FileFault α :=
  match path.systemNames with
  | .error fault => .error fault
  | .ok names =>
      match (tree.place path names).bind operation with
      | .ok result => .ok result
      | .error kind => .error (.refused ⟨kind, path, none⟩)

def entryAt? (tree : FileTree) : Place → Option Entry
  | .directory _ => some .directory
  | .named location => tree.entry? location

def read (tree : FileTree) (path : Path) : Except FileFault Bytes :=
  tree.atPlace path fun place =>
    match tree.entryAt? place with
    | some (.file content) => .ok content
    | some .directory => .error .isDirectory
    | none => .error .notFound

/-- Writes a file at a path, in place of an earlier one if there is one. -/
def write (tree : FileTree) (path : Path) (content : Bytes) : Except FileFault FileTree :=
  tree.atPlace path fun place =>
    match tree.entryAt? place with
    | some .directory => .error .isDirectory
    | _ => .ok (tree.put place.location (.file content))

/-- Removes the file at a path. -/
def remove (tree : FileTree) (path : Path) : Except FileFault FileTree :=
  tree.atPlace path fun place =>
    match tree.entryAt? place with
    | some .directory => .error .isDirectory
    | some (.file _) => .ok (tree.clear place.location)
    | none => .error .notFound

/-- Moves the file at `path` to `target`, in place of an earlier file there. -/
def replace (tree : FileTree) (path target : Path) : Except FileFault FileTree :=
  match path.systemNames, target.systemNames with
  | .error fault, _ => .error fault
  | _, .error fault => .error fault
  | .ok names, .ok targetNames =>
      let moved : Except FileErrorKind FileTree := do
        let source ← tree.place path names
        let goal ← tree.place target targetNames
        match source, goal with
        | .named source, .named goal =>
            match tree.entry? source, tree.entry? goal with
            | none, _ => throw .notFound
            | some (.file _), some .directory => throw .isDirectory
            | some .directory, some (.file _) => throw .notDirectory
            | some .directory, _ => throw .busy
            | some (.file content), _ => return (tree.clear source).put goal (.file content)
        | _, _ => throw .busy
      match moved with
      | .ok result => .ok result
      | .error kind => .error (.refused ⟨kind, path, some target⟩)

def makeDirectory (tree : FileTree) (path : Path) : Except FileFault FileTree :=
  tree.atPlace path fun place =>
    match tree.entryAt? place with
    | some _ => .error .exists
    | none => .ok (tree.put place.location .directory)

/-- Whether there is a directory at a path. Only a path that is too long is an error. -/
def isDirectory (tree : FileTree) (path : Path) : Except FileFault Bool :=
  let found : Except FileFault Bool :=
    tree.atPlace path fun place => .ok (decide (tree.entryAt? place = some .directory))
  match found with
  | .ok result => .ok result
  | .error (.refused error) =>
      if error.kind = .nameTooLong then .error (.refused error) else .ok false
  | .error _ => .ok false

/-- The outcome of an attempt to make the directory at `path` that failed with `fault`: there is no
fault if the directory exists. -/
def existing (tree : FileTree) (path : Path) (fault : FileFault) : FileTree × Option FileFault :=
  match fault with
  | .refused _ =>
      match tree.isDirectory path with
      | .ok true => (tree, none)
      | .ok false => (tree, some fault)
      | .error other => (tree, some other)
  | _ => (tree, some fault)

def isNotFound : FileFault → Bool
  | .refused error => error.kind = .notFound
  | _ => false

/-- Makes the directory whose names are given innermost first, and the missing ones above it. Those
that were made stay, also when a later one fails. -/
def makeReversed (tree : FileTree) (start : Path.Start) :
    List Text → FileTree × Option FileFault
  | [] =>
      let path : Path := ⟨start, []⟩
      match tree.makeDirectory path with
      | .ok made => (made, none)
      | .error fault => existing tree path fault
  | name :: above =>
      let path : Path := ⟨start, (name :: above).reverse⟩
      match tree.makeDirectory path with
      | .ok made => (made, none)
      | .error fault =>
          if isNotFound fault then
            match makeReversed tree start above with
            | (tree, some fault) => (tree, some fault)
            | (tree, none) =>
                match tree.makeDirectory path with
                | .ok made => (made, none)
                | .error fault =>
                    if isNotFound fault then (tree, some fault) else existing tree path fault
          else existing tree path fault

/-- Makes the directory at a path and the missing ones above it; one that exists is no fault. -/
def makeDirectories (tree : FileTree) (path : Path) : FileTree × Option FileFault :=
  tree.makeReversed path.start path.names.reverse

def workingPath (tree : FileTree) : Path :=
  ⟨.root, tree.workingDirectory.map Utf8.decode⟩

end FileTree

end Startup
