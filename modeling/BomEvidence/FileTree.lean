import BomEvidence.Location
import BomEvidence.Namespace.Index

/-!
Files as a value: what stands at each path, seen from a working directory. A path
leads through directories only; what stands at its end is read, written or opened
as a database, and every change gives a new tree.
-/

namespace BomEvidence

inductive FileEntry where
  | text (content : String)
  /-- Bytes that are no text. -/
  | binary (size : Nat)
  | directory
  | database (catalog : Catalog)
  deriving DecidableEq, Repr

/-- A file with bytes, which are a text or not. -/
def FileEntry.ofBytes (bytes : ByteArray) : FileEntry :=
  match String.fromUTF8? bytes with
  | some content => .text content
  | none => .binary bytes.size

inductive PathFailure where
  | notFound
  | notDirectory
  | isDirectory
  | tooLong
  | holdsNul
  | notText
  deriving DecidableEq, Repr

def PathFailure.message : PathFailure → String
  | .notFound => "No such file or directory (os error 2)"
  | .notDirectory => "Not a directory (os error 20)"
  | .isDirectory => "Is a directory (os error 21)"
  | .tooLong => "File name too long (os error 36)"
  | .holdsNul => "file name contained an unexpected NUL byte"
  | .notText => "stream did not contain valid UTF-8"

/-- The entries by their places. The place of a path from the working directory is
written without detours; that of an absolute path begins with a slash. -/
structure FileTree where
  entries : TextMap FileEntry
  deriving DecidableEq, Repr

namespace FileTree

def empty : FileTree := ⟨∅⟩

instance : EmptyCollection FileTree := ⟨empty⟩
instance : Inhabited FileTree := ⟨empty⟩

/-- The names on the way to a place: nothing for the working directory, and one empty
name for the root. -/
abbrev Place := List String

def Place.key (place : Place) : String := Text.join "/" place

/-- The working directory and the directories above it always exist. -/
def Place.isGiven (place : Place) : Bool := place = [""] || place.all (· = "..")

def Place.parent (place : Place) : Place :=
  if place = [""] then place
  else if place.all (· = "..") then place ++ [".."]
  else place.dropLast

def Place.enter (place : Place) (name : String) : Place :=
  if name = "" || name = "." then place
  else if name = ".." then place.parent
  else place ++ [name]

def Place.ofPath (path : String) : Place :=
  match Text.split path "/" with
  | "" :: rest => rest.foldl enter [""]
  | names => names.foldl enter []

def entryAt (tree : FileTree) (place : Place) : Option FileEntry :=
  if place.isGiven then some .directory else tree.entries.get? place.key

def nameLimit : Nat := 255

def pathLimit : Nat := 4096

/-- Follows names from a place. Each but the last one has to be a directory. -/
def follow (tree : FileTree) (place : Place) :
    List String → Except PathFailure (Place × Option FileEntry)
  | [] => .ok (place, tree.entryAt place)
  | name :: rest =>
      match tree.entryAt place with
      | none => .error .notFound
      | some .directory =>
          if nameLimit < name.utf8ByteSize then .error .tooLong
          else tree.follow (place.enter name) rest
      | some _ => .error .notDirectory

def locate (tree : FileTree) (path : String) : Except PathFailure (Place × Option FileEntry) :=
  if path.toList.any fun c => c.toNat = 0 then .error .holdsNul
  else if path = "" then .error .notFound
  else if pathLimit ≤ path.utf8ByteSize then .error .tooLong
  else
    match Text.split path "/" with
    | "" :: rest => tree.follow [""] rest
    | names => tree.follow [] names

def find (tree : FileTree) (path : String) : Except PathFailure FileEntry :=
  match tree.locate path with
  | .error failure => .error failure
  | .ok (_, none) => .error .notFound
  | .ok (_, some entry) => .ok entry

def holds (tree : FileTree) (path : String) : Bool :=
  match tree.find path with
  | .ok _ => true
  | .error _ => false

def readText (tree : FileTree) (path : String) : Except PathFailure String :=
  match tree.find path with
  | .error failure => .error failure
  | .ok (.text content) => .ok content
  | .ok .directory => .error .isDirectory
  | .ok (.binary _) | .ok (.database _) => .error .notText

def put (tree : FileTree) (place : Place) (entry : FileEntry) : FileTree :=
  ⟨tree.entries.insert place.key entry⟩

/-- Writes a text at the end of a path, whose directory has to exist. -/
def writeText (tree : FileTree) (path content : String) : Except PathFailure FileTree :=
  match tree.locate path with
  | .error failure => .error failure
  | .ok (_, some .directory) => .error .isDirectory
  | .ok (place, _) => .ok (tree.put place (.text content))

/-- The bytes of a small database. -/
def databaseSize : Nat := 3 * 4096

/-- The size of a file in bytes; a directory is no file. -/
def entrySize? : FileEntry → Option Nat
  | .text content => some content.utf8ByteSize
  | .binary size => some size
  | .database _ => some databaseSize
  | .directory => none

/-- The paths of databases that are not kept: an empty one, and one held in memory. -/
def isPrivate (path : String) : Bool := path = "" || path = ":memory:"

/-- Opens the database at the end of a path, and makes one where nothing stands or an
empty file. -/
def openDatabase (tree : FileTree) (path : String) : Except Failure (Catalog × FileTree) :=
  let refused : Failure := .index (.openFailed (path ++ ": unable to open database file: " ++ path))
  if isPrivate path then .ok (∅, tree)
  else
    match tree.locate path with
    | .error _ | .ok (_, some .directory) => .error refused
    | .ok (place, none) => .ok (∅, tree.put place (.database ∅))
    | .ok (_, some (.database catalog)) => .ok (catalog, tree)
    | .ok (place, some (.text content)) =>
        if content = "" then .ok (∅, tree.put place (.database ∅))
        else .error (.index (.openFailed "failed to create schema: file is not a database"))
    | .ok (_, some (.binary _)) =>
        .error (.index (.openFailed "failed to create schema: file is not a database"))

def keepDatabase (tree : FileTree) (path : String) (catalog : Catalog) : FileTree :=
  if isPrivate path then tree
  else
    match tree.locate path with
    | .ok (place, some (.database _)) => tree.put place (.database catalog)
    | _ => tree

def putDirectories (tree : FileTree) (place : Place) : FileTree :=
  (List.range (place.length + 1)).foldl (fun tree count =>
    let above : Place := place.take count
    if above.isGiven then tree else tree.put above .directory) tree

def makeDirectory (tree : FileTree) (path : String) : FileTree :=
  tree.putDirectories (.ofPath path)

/-- Adds an entry with all directories above it. -/
def add (tree : FileTree) (path : String) (entry : FileEntry) : FileTree :=
  let place := Place.ofPath path
  (tree.putDirectories place.parent).put place entry

end FileTree

end BomEvidence
