import ModuleAtlas.Proofs.Json.RoundTrip
import ModuleAtlas.Proofs.Schema.Reading
import ModuleAtlas.Record.Schema

/-!
# Records and their texts

A record that its class admits is read back from its text, and only such records are read. Paths of
file records are the only values that a class refuses.

## Main definitions

* `FileRecord.IsPlaced`, `AnalysisResult.IsPlaced` — all paths of file records lead below the root.
* `RecordClass` — the classes of records, with what each admits, reads and writes.
-/
namespace ModuleAtlas

open Schema Checked

/-- The path of a file record leads to a place below the root. -/
def FileRecord.IsPlaced (r : FileRecord) : Prop := pathFault? r.path = none

/-- The paths of the file records of a result lead to places below the root. -/
def AnalysisResult.IsPlaced (r : AnalysisResult) : Prop := ∀ f ∈ r.files, f.IsPlaced

instance (r : FileRecord) : Decidable r.IsPlaced := inferInstanceAs (Decidable (_ = _))

instance (r : AnalysisResult) : Decidable r.IsPlaced :=
  inferInstanceAs (Decidable (∀ f ∈ r.files, f.IsPlaced))

theorem FileRecord.checkPath_eq_ok {path p : String} :
    checkPath path = ok p ↔ pathFault? path = none ∧ path = p := by
  rw [checkPath]
  cases pathFault? path <;> simp [fail]

/-! ## Reading what is written -/

theorem ImportRecord.read_toJson (r : ImportRecord) : read r.toJson = ok r := by
  simp [read, toJson, readObject, required, Schema.optional, Members.find?, Json.lookup]

theorem ExportRecord.read_toJson (r : ExportRecord) : read r.toJson = ok r := by
  simp [read, toJson, readObject, required, Schema.optional, Members.find?, Json.lookup]

theorem FileRecord.read_toJson {r : FileRecord} (h : r.IsPlaced) : read r.toJson = ok r := by
  have imports : readRow ImportRecord.read (.array (r.imports.map ImportRecord.toJson)) =
      ok r.imports := readRow_map fun i _ => i.read_toJson
  have exports : readRow ExportRecord.read (.array (r.exports.map ExportRecord.toJson)) =
      ok r.exports := readRow_map fun e _ => e.read_toJson
  have path := checkPath_eq_ok.2 ⟨h, rfl⟩
  simp [read, toJson, readObject, required, Schema.optional, Members.find?, Json.lookup, andThen,
    imports, exports, path]

theorem DependencyEdge.read_toJson (r : DependencyEdge) : read r.toJson = ok r := by
  simp [read, toJson, readObject, required, Schema.optional, Members.find?, Json.lookup]

theorem Summary.read_toJson (r : Summary) : read r.toJson = ok r := by
  simp [read, toJson, readObject, required, Members.find?, Json.lookup]

theorem Warning.read_toJson (r : Warning) : read r.toJson = ok r := by
  simp [read, toJson, readObject, required, Members.find?, Json.lookup]

theorem AnalysisResult.read_toJson {r : AnalysisResult} (h : r.IsPlaced) :
    read r.toJson = ok r := by
  have files : readRow FileRecord.read (.array (r.files.map FileRecord.toJson)) = ok r.files :=
    readRow_map fun f hf => FileRecord.read_toJson (h f hf)
  have dependencies : readRow DependencyEdge.read
      (.array (r.dependencies.map DependencyEdge.toJson)) = ok r.dependencies :=
    readRow_map fun e _ => e.read_toJson
  have warnings : readRow Warning.read (.array (r.warnings.map Warning.toJson)) = ok r.warnings :=
    readRow_map fun w _ => w.read_toJson
  simp [read, toJson, readObject, required, Schema.optional, Members.find?, Json.lookup, files,
    dependencies, warnings, Summary.read_toJson]

/-! ## What is read -/

theorem FileRecord.isPlaced_of_read {v : Json} {r : FileRecord} (h : read v = ok r) :
    r.IsPlaced := by
  obtain ⟨ms, -, h⟩ := readObject_eq_ok.1 h
  simp only [seq_eq_ok, map_eq_ok, required_eq_ok, andThen_eq_ok, checkPath_eq_ok] at h
  obtain ⟨_, exports, ⟨_, imports, ⟨path, ⟨_, -, _, -, placed, rfl⟩, rfl⟩, -, rfl⟩, -, rfl⟩ := h
  exact placed

theorem AnalysisResult.isPlaced_of_read {v : Json} {r : AnalysisResult} (h : read v = ok r) :
    r.IsPlaced := by
  obtain ⟨ms, -, h⟩ := readObject_eq_ok.1 h
  simp only [seq_eq_ok, map_eq_ok, optional_eq_ok] at h
  obtain ⟨_, _, ⟨_, _, ⟨_, _, ⟨_, _, ⟨files, found, rfl⟩, -, rfl⟩, -, rfl⟩, -, rfl⟩, -, rfl⟩ := h
  intro f hf
  rcases found with ⟨_, -, elements⟩ | ⟨-, rfl⟩
  · obtain ⟨x, element⟩ := exists_of_mem_readRow elements hf
    exact FileRecord.isPlaced_of_read element
  · cases hf

/-! ## Nesting -/

section Nesting

open Json (Nested)

variable {depth : Nat}

theorem ImportRecord.nested (r : ImportRecord) : Nested (depth + 2) r.toJson :=
  Json.nested_object ⟨.string _, Json.nested_ofStrings _, .string _, .bool _⟩

theorem ExportRecord.nested (r : ExportRecord) : Nested (depth + 1) r.toJson :=
  Json.nested_object ⟨.string _, .string _, .bool _⟩

theorem FileRecord.nested (r : FileRecord) : Nested (depth + 4) r.toJson :=
  Json.nested_object ⟨.string _, Json.nested_map fun i _ => i.nested,
    Json.nested_map fun e _ => e.nested⟩

theorem DependencyEdge.nested (r : DependencyEdge) : Nested (depth + 2) r.toJson :=
  Json.nested_object ⟨.string _, .string _, .string _, .string _, Json.nested_ofStrings _, .bool _⟩

theorem Summary.nested (r : Summary) : Nested (depth + 1) r.toJson :=
  Json.nested_object ⟨.int _, .int _⟩

theorem Warning.nested (r : Warning) : Nested (depth + 1) r.toJson :=
  Json.nested_object ⟨.string _, .string _, .string _⟩

theorem AnalysisResult.nested (r : AnalysisResult) : Nested (depth + 6) r.toJson :=
  Json.nested_object ⟨Json.nested_map fun f _ => f.nested, Json.nested_map fun e _ => e.nested,
    r.summary.nested, Json.nested_map fun w _ => w.nested, .bool _⟩

end Nesting

/-! ## All classes -/

/-- The classes of records. -/
inductive RecordClass
  | importRecord
  | exportRecord
  | fileRecord
  | dependencyEdge
  | summary
  | warning
  | analysisResult

namespace RecordClass

/-- The records of a class. -/
def Value : RecordClass → Type
  | importRecord => ImportRecord
  | exportRecord => ExportRecord
  | fileRecord => FileRecord
  | dependencyEdge => DependencyEdge
  | summary => Summary
  | warning => Warning
  | analysisResult => AnalysisResult

/-- What a class admits: it checks nothing but the paths of file records. -/
def Admits : (c : RecordClass) → c.Value → Prop
  | fileRecord => FileRecord.IsPlaced
  | analysisResult => AnalysisResult.IsPlaced
  | _ => fun _ => True

def read : (c : RecordClass) → Reading c.Value
  | importRecord => ImportRecord.read
  | exportRecord => ExportRecord.read
  | fileRecord => FileRecord.read
  | dependencyEdge => DependencyEdge.read
  | summary => Summary.read
  | warning => Warning.read
  | analysisResult => AnalysisResult.read

def toJson : (c : RecordClass) → c.Value → Json
  | importRecord => ImportRecord.toJson
  | exportRecord => ExportRecord.toJson
  | fileRecord => FileRecord.toJson
  | dependencyEdge => DependencyEdge.toJson
  | summary => Summary.toJson
  | warning => Warning.toJson
  | analysisResult => AnalysisResult.toJson

variable {c : RecordClass} {r : c.Value}

theorem read_toJson (h : c.Admits r) : c.read (c.toJson r) = ok r := by
  cases c with
  | importRecord => exact ImportRecord.read_toJson r
  | exportRecord => exact ExportRecord.read_toJson r
  | fileRecord => exact FileRecord.read_toJson h
  | dependencyEdge => exact DependencyEdge.read_toJson r
  | summary => exact Summary.read_toJson r
  | warning => exact Warning.read_toJson r
  | analysisResult => exact AnalysisResult.read_toJson h

theorem admits_of_read {v : Json} (h : c.read v = ok r) : c.Admits r := by
  cases c with
  | fileRecord => exact FileRecord.isPlaced_of_read h
  | analysisResult => exact AnalysisResult.isPlaced_of_read h
  | _ => trivial

theorem nested (c : RecordClass) (r : c.Value) : (c.toJson r).Nested Json.maxDepth := by
  cases c with
  | importRecord => exact ImportRecord.nested r
  | exportRecord => exact ExportRecord.nested r
  | fileRecord => exact FileRecord.nested r
  | dependencyEdge => exact DependencyEdge.nested r
  | summary => exact Summary.nested r
  | warning => exact Warning.nested r
  | analysisResult => exact AnalysisResult.nested r

theorem readText_compact (h : c.Admits r) : readText c.read (c.toJson r).compact = ok r := by
  rw [readText, Json.parse?_compact (c.nested r)]
  exact read_toJson h

theorem admits_of_readText {text : String} (h : readText c.read text = ok r) : c.Admits r := by
  rw [readText] at h
  cases parsed : Json.parse? text with
  | none => simp [parsed, fail] at h
  | some v => exact admits_of_read (by simpa [parsed] using h)

end RecordClass

theorem AnalysisResult.readText_pretty {r : AnalysisResult} (h : r.IsPlaced) (indent : Nat) :
    readText read (r.toJson.pretty indent) = ok r := by
  have nested : r.toJson.Nested Json.maxDepth := r.nested
  rw [readText, (Json.parse?_pretty nested indent).1]
  exact read_toJson h

/-- A record that its class admits is read back from its text, a result also from its text on
several lines with any indent. A text that a class reads gives a record that is read back from its
own text, and that text is the same again. -/
theorem serialization_round_trips :
    (∀ (c : RecordClass) (r : c.Value), c.Admits r →
      readText c.read (c.toJson r).compact = ok r) ∧
    (∀ r : AnalysisResult, r.IsPlaced → ∀ indent : Nat,
      readText AnalysisResult.read (r.toJson.pretty indent) = ok r) ∧
    ∀ (c : RecordClass) (text : String) (r : c.Value), readText c.read text = ok r →
      c.Admits r ∧ ∃ again, readText c.read (c.toJson r).compact = ok again ∧
        (c.toJson again).compact = (c.toJson r).compact := by
  refine ⟨fun c r => RecordClass.readText_compact,
    fun r h indent => AnalysisResult.readText_pretty h indent, fun c text r h => ?_⟩
  have admitted := RecordClass.admits_of_readText h
  exact ⟨admitted, r, RecordClass.readText_compact admitted, rfl⟩

/-- A result with a quote, a backslash, a line end and characters of several bytes in its texts. -/
def AnalysisResult.sample : AnalysisResult :=
  ⟨[⟨"src/\"a\\.ts", [⟨"./é\n", ["x", "𝔸"], .named, true⟩], [⟨"\x7f", .typeAlias, false⟩]⟩],
    [], ⟨-1, 2⟩, [⟨.parse, "b.ts", ""⟩], true⟩

theorem serialization_round_trips_sample : AnalysisResult.sample.IsPlaced ∧
    readText AnalysisResult.read AnalysisResult.sample.toJson.compact = ok .sample ∧
    readText AnalysisResult.read (AnalysisResult.sample.toJson.pretty 2) = ok .sample ∧
    ∃ again, readText AnalysisResult.read AnalysisResult.sample.toJson.compact = ok again ∧
      again.toJson.compact = AnalysisResult.sample.toJson.compact := by
  have placed : AnalysisResult.sample.IsPlaced := by decide
  obtain ⟨reads, onLines, again⟩ := serialization_round_trips
  have read := reads .analysisResult .sample placed
  exact ⟨placed, read, onLines _ placed 2, (again .analysisResult _ _ read).2⟩

end ModuleAtlas
