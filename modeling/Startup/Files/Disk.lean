import Startup.Files.Tree

/-!
# File trees and the disk

A program that works on a file tree needs to know only the part of the disk that its paths lead
through. Afterwards the differences between the trees are what has to be done to the disk.
-/

namespace Startup

inductive Change where
  | makeDirectory (location : Location)
  | write (location : Location) (content : Bytes)
  | remove (location : Location)
deriving DecidableEq

/-- The locations that a walk from a directory along the given names leads through. -/
def Location.along (location : Location) : List Bytes → List Location
  | [] => []
  | name :: rest =>
      let next := if name = parentName then location.dropLast else location ++ [name]
      next :: along next rest

namespace FileTree

/-- The locations that paths lead through, if the tree has the right working directory. -/
def locations (tree : FileTree) (paths : List Path) : List Location :=
  paths.flatMap fun path =>
    match path.systemNames with
    | .ok names => Location.along (tree.startOf path.start) names
    | .error _ => []

/-- What turns a disk that looks like `before` into one that looks like `after`. -/
def changes (before after : FileTree) : List Change :=
  let made := after.entries.entries.filterMap fun entry =>
    if before.entry? entry.1 = some entry.2 then none
    else
      match entry.2 with
      | .directory => some (.makeDirectory entry.1)
      | .file content => some (.write entry.1 content)
  let gone := before.entries.entries.filterMap fun entry =>
    if after.entry? entry.1 = none then some (.remove entry.1) else none
  made ++ gone

end FileTree

end Startup
