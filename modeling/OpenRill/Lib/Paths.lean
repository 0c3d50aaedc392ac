import Mathlib.Data.List.Basic

/-!
# Absolute paths by their segments

Joining, the relative path between two absolute ones, and the test by the relative path
whether one lies within the other.
-/

namespace OpenRill.Lib.Paths

/-- An absolute path, by its segments. -/
abbrev Path := List String

instance : LawfulBEq Path := inferInstance

def pathText (path : Path) : String := "/" ++ "/".intercalate path

def stepInto (path : Path) (segment : List Char) : Path :=
  if segment = [] ∨ segment = ['.'] then path
  else if segment = ['.', '.'] then path.dropLast
  else path ++ [String.ofList segment]

/-- `resolve(base, relative)`. -/
def resolvePath (base : Path) (relative : String) : Path :=
  (relative.toList.splitOn '/').foldl stepInto base

def isAbsolute (path : String) : Bool := path.toList.head? = some '/'

/-- `relative(root, path)`, by its segments. -/
def relativePath : Path → Path → Path
  | first :: root, second :: path =>
    if first = second then relativePath root path
    else List.replicate (root.length + 1) ".." ++ second :: path
  | [], path => path
  | root, [] => List.replicate root.length ".."

def within (root candidate : Path) : Bool := (relativePath root candidate).head? != some ".."

end OpenRill.Lib.Paths
