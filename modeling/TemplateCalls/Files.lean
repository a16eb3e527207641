/-!
# Paths

A path is kept in a normal form: empty components and single dots are dropped, and double dots are
kept. Two slashes at the start are a root of their own; any other number of them is the usual root.
A path leads to a directory, to a file with a text, or to nothing, unless it is too long to be
looked up.
-/

namespace TemplateCalls.Files

structure Path where
  root : String
  parts : List String
  deriving DecidableEq, Repr

namespace Path

def components (text : List Char) : List (List Char) := text.splitOn '/'

def isProper (component : List Char) : Bool := !component.isEmpty && component != ['.']

def ofString (text : String) : Path :=
  let slashes := (text.toList.takeWhile (· == '/')).length
  let root := if slashes == 0 then "" else if slashes == 2 then "//" else "/"
  ⟨root, ((components text.toList).filter isProper).map .ofList⟩

/-- The path as text; the empty relative path is a dot. -/
def toString (path : Path) : String :=
  if path.root.isEmpty && path.parts.isEmpty then "."
  else path.root ++ "/".intercalate path.parts

instance : ToString Path := ⟨toString⟩

def child (directory : Path) (name : String) : Path :=
  { directory with parts := directory.parts ++ [name] }

/-- The path itself, its parent, and so on up to the root. -/
def ancestors (path : Path) : List Path :=
  (List.range (path.parts.length + 1)).reverse.map fun count ↦
    { path with parts := path.parts.take count }

end Path

/-- What a path leads to. A path that cannot be looked up because it is too long, or a name in it,
is a case of its own. -/
inductive Found where
  | nothing
  | directory
  | file (text : String)
  | nameTooLong
  deriving DecidableEq, Repr

end TemplateCalls.Files
