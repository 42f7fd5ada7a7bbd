import ImportCensus.Files.Edit
import ImportCensus.Json.Value
import ImportCensus.Text.Utf8

namespace ImportCensus
namespace Files

/-!
# Described stores

A store may be described by a JSON object.  Its member `nodes` is an array of
objects, each with a `path` and with what stands there: the `text` of a file, the
`bytes` of a file, or the target of a `link`.  A path without any of these is a
directory.  The member `working` is the path of the working directory.  Later
nodes replace earlier ones.
-/

namespace Node

/-- The bytes in an array; every element has to be one. -/
def bytes? : List Json.Value -> Option (List Nat)
  | [] => some []
  | .integer value :: rest =>
    if 0 ≤ value && value < 256 then (bytes? rest).map (value.toNat :: ·) else none
  | _ :: _ => none

/-- The node that an object describes. -/
def ofJson? (value : Json.Value) : Option Node :=
  match value.get? "link", value.get? "bytes", value.get? "text" with
  | some (.string target), none, none => some (.link target)
  | none, some (.array elements), none => (bytes? elements).map .file
  | none, none, some (.string text) => some (.file (Text.encode text.toList))
  | none, none, none => some (.directory [])
  | _, _, _ => none

end Node

namespace Store

/-- A store with one more node that is described. -/
def addJson? (store : Store) (value : Json.Value) : Option Store :=
  match value.get? "path", Node.ofJson? value with
  | some (.string path), some node => some (store.put (.ofText path) node)
  | _, _ => none

/-- The store that an object describes. -/
def ofJson? (value : Json.Value) : Option Store :=
  match value.get? "nodes", value.get? "working" with
  | some (.array nodes), some (.string working) => do
    let store ← nodes.foldlM addJson? empty
    match store.place (.ofText working) with
    | .ok place => some { store with working := place }
    | .error _ => none
  | _, _ => none

end Store

end Files
end ImportCensus
