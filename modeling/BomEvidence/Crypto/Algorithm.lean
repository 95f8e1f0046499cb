import BomEvidence.Failure
import BomEvidence.Json.Value

/-!
Cryptographic algorithms, and detectors that find them in code.
-/

namespace BomEvidence

/-- An algorithm. The reference names its component in a document. -/
structure Algorithm where
  reference : String
  name : String
  oid : Option String
  description : Option String
  deriving DecidableEq, Repr

def Algorithm.referenceFor (name : String) (oid : Option String) : String :=
  "crypto/algorithm/" ++ name ++ "@" ++ oid.getD ""

/-- An algorithm is written without the parts that are not known. -/
def Algorithm.toJson (algorithm : Algorithm) : Json :=
  .object ([("ref", .text algorithm.reference), ("name", .text algorithm.name)] ++
    (algorithm.oid.map fun oid => ("oid", Json.text oid)).toList ++
    (algorithm.description.map fun text => ("description", Json.text text)).toList)

structure Detector where
  name : String
  detect : String → Except Failure (List Algorithm)

end BomEvidence
