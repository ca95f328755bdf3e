import ModuleAtlas.Record
import ModuleAtlas.Schema.Reading
import ModuleAtlas.Text.Quoted

/-!
# Records as JSON

Each record has one written form and is read back from it. Readers also take the longer names of
members, fill in what may be left out, and ignore what they do not know.
-/
namespace ModuleAtlas

open Schema Checked

/-- Refuses a path that does not lead to a place below the root. -/
def PathFault.reason (path : String) : PathFault → String
  | absolute => "path must be root-relative: " ++ quotedPath
  | leavesRoot => "path must not leave the root: " ++ quotedPath
where
  quotedPath : String := String.ofList (Text.Quoted.encode (Text.Glyph.ofText path.toList))

def FileRecord.checkPath (path : String) : Checked String :=
  match FileRecord.pathFault? path with
  | some f => fail (.refused (f.reason path))
  | none => ok path

/-- A record of a file, if its path is one that a record may have. -/
def FileRecord.make (path : String) (imports : List ImportRecord) (exports : List ExportRecord) :
    Checked FileRecord :=
  (within (.key "path") (checkPath path)).map fun path => ⟨path, imports, exports⟩

theorem FileRecord.make_eq (path : String) (imports : List ImportRecord)
    (exports : List ExportRecord) : make path imports exports =
      match within (.key "path") (checkPath path) with
      | .faults fs => .faults fs
      | .ok _ => .ok ⟨path, imports, exports⟩ := by
  unfold make checkPath
  cases pathFault? path <;> rfl

namespace ImportRecord

def read : Reading ImportRecord := readObject fun ms =>
  ImportRecord.mk
    <$> required ms "specifier" "specifier" readString
    <*> optional ms "names" "names" (readRow readString) []
    <*> required ms "kind" "kind" readKind
    <*> optional ms "isTypeOnly" "is_type_only" readBool false

def toJson (r : ImportRecord) : Json := .object
  [("specifier", .string r.specifier), ("names", .ofStrings r.names),
   ("kind", .string (text r.kind)), ("isTypeOnly", .bool r.isTypeOnly)]

end ImportRecord

namespace ExportRecord

def read : Reading ExportRecord := readObject fun ms =>
  ExportRecord.mk
    <$> required ms "name" "name" readString
    <*> required ms "kind" "kind" readKind
    <*> optional ms "isTypeOnly" "is_type_only" readBool false

def toJson (r : ExportRecord) : Json := .object
  [("name", .string r.name), ("kind", .string (text r.kind)), ("isTypeOnly", .bool r.isTypeOnly)]

end ExportRecord

namespace FileRecord

def read : Reading FileRecord := readObject fun ms =>
  FileRecord.mk
    <$> required ms "path" "path" (fun v => (readString v).andThen checkPath)
    <*> optional ms "imports" "imports" (readRow ImportRecord.read) []
    <*> optional ms "exports" "exports" (readRow ExportRecord.read) []

def toJson (r : FileRecord) : Json := .object
  [("path", .string r.path), ("imports", .array (r.imports.map ImportRecord.toJson)),
   ("exports", .array (r.exports.map ExportRecord.toJson))]

end FileRecord

namespace DependencyEdge

def read : Reading DependencyEdge := readObject fun ms =>
  DependencyEdge.mk
    <$> required ms "from" "from_path" readString
    <*> required ms "to" "to" readString
    <*> optional ms "origin" "origin" readKind .importing
    <*> required ms "kind" "kind" readKind
    <*> optional ms "names" "names" (readRow readString) []
    <*> optional ms "isTypeOnly" "is_type_only" readBool false

def toJson (r : DependencyEdge) : Json := .object
  [("from", .string r.source), ("to", .string r.target), ("origin", .string (text r.origin)),
   ("kind", .string (text r.kind)), ("names", .ofStrings r.names),
   ("isTypeOnly", .bool r.isTypeOnly)]

end DependencyEdge

namespace Summary

def read : Reading Summary := readObject fun ms =>
  Summary.mk
    <$> required ms "totalFiles" "total_files" readInt
    <*> required ms "totalDependencies" "total_dependencies" readInt

def toJson (r : Summary) : Json := .object
  [("totalFiles", .int r.totalFiles), ("totalDependencies", .int r.totalDependencies)]

end Summary

namespace Warning

def read : Reading Warning := readObject fun ms =>
  Warning.mk
    <$> required ms "kind" "kind" readKind
    <*> required ms "path" "path" readString
    <*> required ms "message" "message" readString

def toJson (r : Warning) : Json := .object
  [("kind", .string (text r.kind)), ("path", .string r.path), ("message", .string r.message)]

end Warning

namespace AnalysisResult

def read : Reading AnalysisResult := readObject fun ms =>
  AnalysisResult.mk
    <$> optional ms "files" "files" (readRow FileRecord.read) []
    <*> optional ms "dependencies" "dependencies" (readRow DependencyEdge.read) []
    <*> required ms "summary" "summary" Summary.read
    <*> optional ms "warnings" "warnings" (readRow Warning.read) []
    <*> optional ms "truncated" "truncated" readBool false

def toJson (r : AnalysisResult) : Json := .object
  [("files", .array (r.files.map FileRecord.toJson)),
   ("dependencies", .array (r.dependencies.map DependencyEdge.toJson)),
   ("summary", r.summary.toJson), ("warnings", .array (r.warnings.map Warning.toJson)),
   ("truncated", .bool r.truncated)]

end AnalysisResult

end ModuleAtlas
