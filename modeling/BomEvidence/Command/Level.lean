/-!
The levels of the command line: the program, its commands and their actions, with the
options and the one value that each takes.
-/

namespace BomEvidence.CommandLine

inductive Level where
  | program
  | attach
  | index
  | indexImport
  | indexQuery
  | config
  | configValidate
  | configShow
  deriving DecidableEq, Repr

inductive ValueKind where
  /-- Nothing. -/
  | flag
  /-- A path, which is not empty. -/
  | path
  | text
  /-- One of some words. -/
  | choice (words : List String)
  /-- Nothing: help is asked for. -/
  | help
  /-- Nothing: the version is asked for. -/
  | version
  deriving DecidableEq, Repr

structure Switch where
  long : String
  short : Option Char
  kind : ValueKind
  deriving DecidableEq, Repr

def ValueKind.takesValue : ValueKind → Bool
  | .path | .text | .choice _ => true
  | .flag | .help | .version => false

def ValueKind.accepts : ValueKind → String → Bool
  | .path, value => value != ""
  | .choice words, value => value ∈ words
  | _, _ => true

namespace Level

def sharedSwitches : List Switch :=
  [⟨"log-level", none, .text⟩, ⟨"format", none, .choice ["text", "json"]⟩, ⟨"help", some 'h', .help⟩]

def ownSwitches : Level → List Switch
  | .program => [⟨"config", some 'c', .path⟩, ⟨"version", some 'V', .version⟩]
  | .attach =>
      [⟨"input", some 'i', .path⟩, ⟨"output", some 'o', .path⟩, ⟨"language", some 'l', .text⟩,
        ⟨"db-path", none, .text⟩, ⟨"usages-slices-file", some 'u', .path⟩,
        ⟨"data-flow-slices-file", some 'd', .path⟩, ⟨"reachables-slices-file", some 'r', .path⟩,
        ⟨"semantics-slices-file", some 's', .path⟩, ⟨"with-data-flow", none, .flag⟩,
        ⟨"with-reachables", none, .flag⟩, ⟨"include-crypto", none, .flag⟩,
        ⟨"annotate", none, .flag⟩, ⟨"maps-output", none, .path⟩, ⟨"crypto-catalog", none, .path⟩]
  | .indexImport | .indexQuery => [⟨"db-path", none, .text⟩]
  | .configShow => [⟨"section", none, .text⟩]
  | .index | .config | .configValidate => []

def switches (level : Level) : List Switch := level.ownSwitches ++ sharedSwitches

def operand? : Level → Option Switch
  | .indexImport => some ⟨"source", none, .path⟩
  | .indexQuery => some ⟨"needle", none, .text⟩
  | _ => none

def commands : Level → List (String × Level)
  | .program => [("evinse", .attach), ("index", .index), ("config", .config)]
  | .index => [("import", .indexImport), ("query", .indexQuery)]
  | .config => [("validate", .configValidate), ("show", .configShow)]
  | _ => []

def hasCommands (level : Level) : Bool := !level.commands.isEmpty

def required : Level → List String
  | .attach => ["input"]
  | .indexImport => ["source"]
  | .indexQuery => ["needle"]
  | _ => []

end Level

end BomEvidence.CommandLine
