import BomEvidence.FileTree

/-!
How the entries of a file tree are kept on a disk. A database is kept as a text with a
mark in front, so that reading a file tells a database from other texts.
-/

namespace BomEvidence

namespace Catalog

/-- The line in front of a catalog that is kept as a database. -/
def storedMark : String := "namespace index\n"

def toStored (catalog : Catalog) : String :=
  storedMark ++ (Json.ofMap (catalog.mapValues .text)).pretty

def ofStored? (content : String) : Option Catalog :=
  (Text.withoutStart? content storedMark).bind fun members => (ofJson members).toOption

end Catalog

namespace FileEntry

/-- An entry, as a database if its text is that of one. -/
def opened : FileEntry → FileEntry
  | .text content =>
      match Catalog.ofStored? content with
      | some catalog => .database catalog
      | none => .text content
  | other => other

def content? : FileEntry → Option String
  | .text content => some content
  | .database catalog => some catalog.toStored
  | .binary _ | .directory => none

end FileEntry

/-- The paths whose texts differ after a change, with their new texts. -/
def FileTree.changes (before after : FileTree) : List (String × String) :=
  after.entries.entries.filterMap fun (path, entry) =>
    if before.entries.get? path = some entry then none
    else entry.content?.map fun content => (path, content)

end BomEvidence
