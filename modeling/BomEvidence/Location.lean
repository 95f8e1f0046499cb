import BomEvidence.Text.Search

/-!
Places in source code, and the names of files in paths.
-/

namespace BomEvidence

def location (file : String) (line : UInt64) : String := file ++ "#" ++ line.toNat.repr

/-- The parts of a path. Repeated and trailing slashes and the parts `.` behind the
first one do not count; the first part of an absolute path is empty. -/
def pathParts (path : String) : List String :=
  match Text.split path "/" with
  | [] => []
  | first :: rest =>
      let rest := rest.filter fun part => part != "" && part != "."
      if first = "" && path = "" then rest else first :: rest

/-- The name of the file or directory that a path leads to, unless it ends in the
root, the current directory or a parent directory. -/
def fileName? (path : String) : Option String :=
  match (pathParts path).getLast? with
  | some name => if name = "" || name = "." || name = ".." then none else some name
  | none => none

def fileNameOrPath (path : String) : String := (fileName? path).getD path

def climbs (path : String) : Bool := ".." ∈ Text.split path "/"

end BomEvidence
