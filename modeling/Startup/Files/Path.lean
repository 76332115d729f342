import Startup.Text.Basic

/-!
# Paths

A path is a start, which is the working directory or one of the two roots, and the names that lead
on from there. Empty names and single points are dropped when a text is read, while double points
stay, because what they mean depends on the directories at hand.
-/

namespace Startup

/-- Where a path starts. Exactly two slashes make a root of their own. -/
inductive Path.Start where
  | relative
  | root
  | doubleRoot
deriving DecidableEq

structure Path where
  start : Path.Start
  names : List Text
deriving DecidableEq

namespace Path

def here : Path := ⟨.relative, []⟩

def Start.ofText (text : Text) : Start :=
  match (text.takeWhile (· == CodePoint.ofChar '/')).length with
  | 0 => .relative
  | 2 => .doubleRoot
  | _ => .root

def ofText (text : Text) : Path where
  start := .ofText text
  names := (Text.split '/' text).filter fun name => name ≠ [] && name ≠ Text.ofString "."

def Start.text : Start → Text
  | .relative => []
  | .root => "/"
  | .doubleRoot => "//"

def text (path : Path) : Text :=
  if path = here then "." else path.start.text ++ Text.join "/" path.names

/-- The path continued by another one; one that starts at a root replaces it. -/
def append (path next : Path) : Path :=
  match next.start with
  | .relative => ⟨path.start, path.names ++ next.names⟩
  | _ => next

instance : Append Path where
  append := append

def join (path : Path) (parts : List Text) : Path :=
  parts.foldl (fun path part => path ++ ofText part) path

def name (path : Path) : Text :=
  (path.names.getLast?).getD []

def parent (path : Path) : Path :=
  { path with names := path.names.dropLast }

def withSuffix? (path : Path) (suffix : Text) : Option Path :=
  if path.names = [] then none
  else some { path with names := path.names.dropLast ++ [path.name ++ suffix] }

end Path

end Startup
