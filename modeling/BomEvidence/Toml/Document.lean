import BomEvidence.Toml.Scalar
import BomEvidence.Toml.Token

/-!
TOML documents. A document is a list of statements, each of which opens a table or
sets a key; the statements are carried out on a tree whose tables remember how they
came about, so that nothing is defined twice.
-/

namespace BomEvidence.Toml

inductive Origin where
  /-- By the header of a table inside it. -/
  | implied
  /-- By a key with dots. -/
  | dotted
  /-- By its own header. -/
  | opened
  deriving DecidableEq, Repr

/-- A part of a document. Values, and with them tables written in place, are closed. -/
inductive Node where
  | value (content : Toml)
  | table (origin : Origin) (members : List (String × Node))
  | tables (items : List (List (String × Node)))
  deriving Repr, Inhabited

/-- What a table holds, in the order in which it was set. -/
abbrev Members := List (String × Node)

namespace Members

def replace (members : Members) (key : String) (node : Node) : Members :=
  members.map fun (name, held) => if name = key then (name, node) else (name, held)

/-- Sets a key. Tables on the way must not have a header of their own. -/
def assign (members : Members) : (path : List String) → Toml → Option Members
  | [], _ => none
  | [key], value =>
      match members.lookup key with
      | none => some (members ++ [(key, .value value)])
      | some _ => none
  | key :: rest, value =>
      match members.lookup key with
      | none => do some (members ++ [(key, .table .dotted (← assign [] rest value))])
      | some (.table origin held) =>
          if origin = .opened then none
          else do some (members.replace key (.table origin (← assign held rest value)))
      | some _ => none

/-- Changes the table at the end of a path, and makes the tables on the way. Of a list of
tables the last one is meant. -/
def within (members : Members) : (path : List String) → (Members → Option Members) → Option Members
  | [], change => change members
  | key :: rest, change =>
      match members.lookup key with
      | none => do some (members ++ [(key, .table .implied (← within [] rest change))])
      | some (.table origin held) => do
          some (members.replace key (.table origin (← within held rest change)))
      | some (.tables items) => do
          let last ← items.getLast?
          some (members.replace key (.tables (items.dropLast ++ [← within last rest change])))
      | some (.value _) => none

/-- Opens the table of a key, which may have been implied. -/
def openTable (key : String) (members : Members) : Option Members :=
  match members.lookup key with
  | none => some (members ++ [(key, .table .opened [])])
  | some (.table .implied held) => some (members.replace key (.table .opened held))
  | some _ => none

def addTable (key : String) (members : Members) : Option Members :=
  match members.lookup key with
  | none => some (members ++ [(key, .tables [[]])])
  | some (.tables items) => some (members.replace key (.tables (items ++ [[]])))
  | some _ => none

end Members

mutual

def Node.toToml : Node → Toml
  | .value content => content
  | .table _ members => .table (membersToToml members)
  | .tables items => .array (itemsToToml items)

def membersToToml : List (String × Node) → List (String × Toml)
  | [] => []
  | (key, node) :: rest => (key, node.toToml) :: membersToToml rest

def itemsToToml : List (List (String × Node)) → List Toml
  | [] => []
  | members :: rest => .table (membersToToml members) :: itemsToToml rest

end

/-! ### Statements -/

inductive Statement where
  | openTable (path : List String)
  | addTable (path : List String)
  | assign (path : List String) (value : Toml)
  deriving Repr, Inhabited

def skipBlanks : List Token → List Token
  | .blank _ :: rest => skipBlanks rest
  | tokens => tokens

def skipSpace : List Token → List Token
  | .blank _ :: rest => skipSpace rest
  | .newLine :: rest => skipSpace rest
  | tokens => tokens

def isKeyChar (c : Char) : Bool := c.isAlphanum || c = '_' || c = '-'

def key? : Token → Option String
  | .word content => if content.toList.all isKeyChar then some content else none
  | .quoted content false => some content
  | _ => none

def path? : Nat → List Token → Option (List String × List Token)
  | fuel + 1, token :: rest => do
      let key ← key? token
      match skipBlanks rest with
      | .dot :: rest =>
          let (path, rest) ← path? fuel (skipBlanks rest)
          some (key :: path, rest)
      | rest => some ([key], rest)
  | _, _ => none

/-- A word goes on behind a point. -/
def joinWord (content : String) : List Token → String × List Token
  | .dot :: .word part :: rest => joinWord (content ++ "." ++ part) rest
  | tokens => (content, tokens)

/-- A word with the time of day that may follow a date behind one blank. -/
def longWord (content : String) (tokens : List Token) : String × List Token :=
  let (content, rest) := joinWord content tokens
  match skipDate content.toList, rest with
  | some [], .blank ' ' :: .word time :: rest => joinWord (content ++ " " ++ time) rest
  | _, _ => (content, rest)

/-- The deepest level on which an array or a table can be written in place. -/
def depthLimit : Nat := 80

mutual

def value? : (fuel depth : Nat) → List Token → Option (Toml × List Token)
  | fuel + 1, depth, .openBracket :: rest => do
      if depth = 0 then none
      else
        let (items, rest) ← items? fuel (depth - 1) (skipSpace rest)
        some (.array items, rest)
  | fuel + 1, depth, .openBrace :: rest => do
      if depth = 0 then none
      else
        let (members, rest) ← members? fuel (depth - 1) [] (skipSpace rest)
        some (.table (membersToToml members), rest)
  | _ + 1, _, .quoted content _ :: rest => some (.text content, rest)
  | _ + 1, _, .word content :: rest => do
      let (content, rest) := longWord content rest
      some (← scalar? content, rest)
  | _, _, _ => none

def items? : (fuel depth : Nat) → List Token → Option (List Toml × List Token)
  | _ + 1, _, .closeBracket :: rest => some ([], rest)
  | fuel + 1, depth, tokens => do
      let (item, rest) ← value? fuel depth tokens
      match skipSpace rest with
      | .comma :: rest =>
          let (items, rest) ← items? fuel depth (skipSpace rest)
          some (item :: items, rest)
      | .closeBracket :: rest => some ([item], rest)
      | _ => none
  | 0, _, _ => none

def members? : (fuel depth : Nat) → Members → List Token → Option (Members × List Token)
  | _ + 1, _, members, .closeBrace :: rest => some (members, rest)
  | fuel + 1, depth, members, tokens => do
      let (path, rest) ← path? tokens.length tokens
      match rest with
      | .equals :: rest =>
          let (value, rest) ← value? fuel depth (skipBlanks rest)
          let members ← members.assign path value
          match skipSpace rest with
          | .comma :: rest => members? fuel depth members (skipSpace rest)
          | .closeBrace :: rest => some (members, rest)
          | _ => none
      | _ => none
  | 0, _, _, _ => none

end

/-- The tokens of the lines behind the end of this one. -/
def endLine? (tokens : List Token) : Option (List Token) :=
  match skipBlanks tokens with
  | [] => some []
  | .newLine :: rest => some rest
  | _ => none

def statement? (tokens : List Token) : Option (Statement × List Token) :=
  let fuel := tokens.length
  match tokens with
  | .openBracket :: .openBracket :: rest => do
      match ← path? fuel (skipBlanks rest) with
      | (path, .closeBracket :: .closeBracket :: rest) => some (.addTable path, rest)
      | _ => none
  | .openBracket :: rest => do
      match ← path? fuel (skipBlanks rest) with
      | (path, .closeBracket :: rest) => some (.openTable path, rest)
      | _ => none
  | tokens => do
      match ← path? fuel tokens with
      | (path, .equals :: rest) =>
          let (value, rest) ← value? fuel depthLimit (skipBlanks rest)
          some (.assign path value, rest)
      | _ => none

def statements? : Nat → List Token → Option (List Statement)
  | fuel + 1, tokens =>
      match skipSpace tokens with
      | [] => some []
      | tokens => do
          let (statement, rest) ← statement? tokens
          let later ← statements? fuel (← endLine? rest)
          some (statement :: later)
  | 0, _ => none

/-- A document in the making: what it holds, and the table that is open. -/
structure Draft where
  members : Members
  opened : List String

def Draft.run (draft : Draft) : Statement → Option Draft
  | .openTable path => do
      let key ← path.getLast?
      some ⟨← draft.members.within path.dropLast (Members.openTable key), path⟩
  | .addTable path => do
      let key ← path.getLast?
      some ⟨← draft.members.within path.dropLast (Members.addTable key), path⟩
  | .assign path value => do
      some { draft with
        members := ← draft.members.within draft.opened fun held => held.assign path value }

def parse? (source : String) : Option (List (String × Toml)) := do
  let tokens ← tokens? source
  let statements ← statements? (tokens.length + 1) tokens
  let draft ← statements.foldlM Draft.run ⟨[], []⟩
  some (membersToToml draft.members)

end BomEvidence.Toml
