import BomEvidence.Crypto.Algorithm
import BomEvidence.FileTree
import BomEvidence.Json.Decode
import BomEvidence.Text.Search

/-!
Detection of algorithms by a catalog of names. Names and code are compared in a
plain form, which keeps letters, digits and blanks of ASCII and no capitals; an
algorithm is found where its plain name stands in the plain code.
-/

namespace BomEvidence

def plainChars (text : List Char) : List Char :=
  (text.filter fun c => c.isAlphanum || c = ' ').map Char.toLower

def plain (text : String) : String := String.ofList (plainChars text.toList)

structure Signature where
  name : String
  needle : String
  oid : Option String
  description : Option String
  deriving DecidableEq, Repr

/-- The algorithms that can be found, in ascending order of their names. -/
structure AlgorithmCatalog where
  signatures : List Signature
  deriving DecidableEq, Repr

namespace AlgorithmCatalog

abbrev Entry := Option String × Option String

/-- The catalog of the entries whose plain names are not blank. -/
def ofEntries (entries : TextMap Entry) : AlgorithmCatalog :=
  ⟨entries.entries.filterMap fun (name, oid, description) =>
    if (plain name).toList.all (· = ' ') then none else some ⟨name, plain name, oid, description⟩⟩

def knownAlgorithms : List (String × String × String) :=
  [("aes", "2.16.840.1.101.3.4.1", "Advanced Encryption Standard"),
    ("aes-128", "2.16.840.1.101.3.4.1.2", "AES with 128-bit key in CBC mode"),
    ("aes-192", "2.16.840.1.101.3.4.1.22", "AES with 192-bit key in CBC mode"),
    ("aes-256", "2.16.840.1.101.3.4.1.42", "AES with 256-bit key in CBC mode"),
    ("sha-1", "1.3.14.3.2.26", "Secure Hash Algorithm 1"),
    ("sha-256", "2.16.840.1.101.3.4.2.1", "Secure Hash Algorithm 2 with 256-bit digest"),
    ("sha-384", "2.16.840.1.101.3.4.2.2", "Secure Hash Algorithm 2 with 384-bit digest"),
    ("sha-512", "2.16.840.1.101.3.4.2.3", "Secure Hash Algorithm 2 with 512-bit digest"),
    ("md5", "1.2.840.113549.2.5", "MD5 message digest"),
    ("hmac-sha256", "1.2.840.113549.2.9", "HMAC with SHA-256"),
    ("pbkdf2", "1.2.840.113549.1.5.12", "Password-Based Key Derivation Function 2"),
    ("rsa", "1.2.840.113549.1.1.1", "RSA encryption"),
    ("dsa", "1.2.840.10040.4.1", "Digital Signature Algorithm"),
    ("ecdsa", "1.2.840.10045.4.3.2", "ECDSA with SHA-256"),
    ("ed25519", "1.3.101.112", "Edwards-curve signature over Curve25519"),
    ("x25519", "1.3.101.110", "Key agreement over Curve25519"),
    ("3des", "1.2.840.113549.3.7", "Triple DES in CBC mode"),
    ("rc4", "1.2.840.113549.3.4", "RC4 stream cipher"),
    ("chacha20-poly1305", "1.2.840.113549.1.9.16.3.18", "ChaCha20-Poly1305 AEAD")]

def builtin : AlgorithmCatalog :=
  ofEntries (.ofList (knownAlgorithms.map fun (name, oid, description) =>
    (name, some oid, some description)))

def entry? : Json.Tree.Reader Entry := fun tree => do
  let fields ← tree.record? ["oid", "description"]
  some (← fields.optional? "oid" .text?, ← fields.optional? "description" .text?)

/-- The catalog of a JSON object that is not empty. -/
def ofJson (source : String) : Except RunFailure AlgorithmCatalog :=
  let entries : Option (TextMap Entry) := do
    Json.Tree.Reader.map? entry? (← Json.Tree.ofText? source)
  match entries with
  | none => .error (.detector "invalid crypto catalog: not a catalog of algorithms")
  | some entries =>
      if entries.isEmpty then .error (.detector "crypto catalog is empty")
      else .ok (ofEntries entries)

def ofFile (files : FileTree) (path : String) : Except RunFailure AlgorithmCatalog :=
  match files.readText path with
  | .ok source => ofJson source
  | .error failure => .error (.detector ("failed to read " ++ path ++ ": " ++ failure.message))

def size (catalog : AlgorithmCatalog) : Nat := catalog.signatures.length

def find (catalog : AlgorithmCatalog) (code : String) : List Algorithm :=
  (catalog.signatures.filter fun signature => Text.contains (plain code) signature.needle).map
    fun signature =>
      { reference := Algorithm.referenceFor signature.name signature.oid
        name := signature.name
        oid := signature.oid
        description := signature.description }

/-- A catalog as a detector, which never fails. -/
def detector (catalog : AlgorithmCatalog) : Detector :=
  ⟨"builtin-oid-catalog", fun code => .ok (catalog.find code)⟩

end AlgorithmCatalog

end BomEvidence
