import ModuleAtlas.Config
import ModuleAtlas.Proofs.Record.Serialization
import ModuleAtlas.Proofs.Rows
import Mathlib.Data.List.Pairwise

/-!
# Fields with two names

Some fields go by two names, and members that are no field are passed over. A value may name each
field of each object in it either way, and have any other members besides: it is read alike. What is
asked of it is that no object gives both names of one field.

## Main definitions

* `RecordField` — the two names of a field, and which values of it are the same input.
* `Respelled` — two values that differ in how fields are named, and in members that are no field.
* `RecordClass.fields`, `Config.fields` — the fields of each class.
-/
namespace ModuleAtlas

open Schema Checked

/-! ## Fields -/

/-- A field of an object: its two names, and which values of it are the same input. -/
structure RecordField where
  name : String
  other : String
  alike : Json → Json → Prop

namespace RecordField

def names (f : RecordField) (s : String) : Bool := s == f.name || s == f.other

/-- Two fields have no name in common. -/
def Apart (f g : RecordField) : Prop :=
  f.name ≠ g.name ∧ f.name ≠ g.other ∧ f.other ≠ g.name ∧ f.other ≠ g.other

instance : DecidableRel Apart := fun _ _ => inferInstanceAs (Decidable (_ ∧ _))

instance : Std.Symm Apart :=
  ⟨fun _ _ h => ⟨h.1.symm, h.2.2.1.symm, h.2.1.symm, h.2.2.2.symm⟩⟩

theorem names_iff {f : RecordField} {s : String} : f.names s = true ↔ s = f.name ∨ s = f.other := by
  simp [names]

theorem Apart.not_names {f g : RecordField} (h : f.Apart g) {s : String} (hf : f.names s = true) :
    ¬ g.names s = true := by
  intro hg
  obtain ⟨h₁, h₂, h₃, h₄⟩ := h
  rcases names_iff.1 hf with rfl | rfl <;> rcases names_iff.1 hg with same | same
  · exact h₁ same
  · exact h₂ same
  · exact h₃ same
  · exact h₄ same

end RecordField

/-- No two fields have a name in common. -/
def Distinct (fields : List RecordField) : Prop := fields.Pairwise RecordField.Apart

instance (fields : List RecordField) : Decidable (Distinct fields) :=
  inferInstanceAs (Decidable (List.Pairwise _ _))

theorem Distinct.eq_of_names {fields : List RecordField} (h : Distinct fields) {f g : RecordField}
    (hf : f ∈ fields) (hg : g ∈ fields) {s : String} (hfs : f.names s = true)
    (hgs : g.names s = true) : f = g := by
  by_contra differ
  exact (List.Pairwise.forall h hf hg differ).not_names hfs hgs

/-! ## Values that differ in names -/

/-- The members of an object that are fields. -/
def known (fields : List RecordField) (ms : Members) : Members :=
  ms.filter fun m => fields.any fun f => f.names m.1

/-- No field is given by both of its names. -/
def OneName (fields : List RecordField) (ms : Members) : Prop :=
  ∀ f ∈ fields, ∀ m ∈ ms, ∀ n ∈ ms, f.names m.1 = true → f.names n.1 = true → m.1 = n.1

instance (fields : List RecordField) (ms : Members) : Decidable (OneName fields ms) :=
  inferInstanceAs (Decidable (∀ f ∈ fields, ∀ m ∈ ms, ∀ n ∈ ms, f.names m.1 = true →
    f.names n.1 = true → m.1 = n.1))

/-- Two members give one field, with values that are the same input. -/
def SameField (fields : List RecordField) (m n : String × Json) : Prop :=
  ∃ f ∈ fields, f.names m.1 = true ∧ f.names n.1 = true ∧ f.alike m.2 n.2

/-- Values that differ in how fields are named, and in members that are no field. -/
inductive Respelled (fields : List RecordField) : Json → Json → Prop
  | same (v : Json) : Respelled fields v v
  | members {ms ns : Members} (one : OneName fields ms) (one' : OneName fields ns)
    (row : List.Forall₂ (SameField fields) (known fields ms) (known fields ns)) :
    Respelled fields (.object ms) (.object ns)

/-- Rows of such values. -/
inductive RespelledRow (fields : List RecordField) : Json → Json → Prop
  | same (v : Json) : RespelledRow fields v v
  | elements {xs ys : List Json} (row : List.Forall₂ (Respelled fields) xs ys) :
    RespelledRow fields (.array xs) (.array ys)

namespace RecordField

/-- A field with one name, in whose values nothing is named. -/
def plain (name : String) : RecordField := ⟨name, name, Eq⟩

def aliased (name other : String) : RecordField := ⟨name, other, Eq⟩

def object (name : String) (fields : List RecordField) : RecordField :=
  ⟨name, name, Respelled fields⟩

def row (name : String) (fields : List RecordField) : RecordField :=
  ⟨name, name, RespelledRow fields⟩

end RecordField

/-! ## Members -/

section Find

variable {fields : List RecordField} {f : RecordField} {ms ns : Members}

theorem lookup_eq_last (name : String) (ms : Members) :
    Json.lookup name ms = (ms.filter fun m => m.1 == name).getLast?.map Prod.snd := by
  rw [Json.lookup, ← List.head?_filter, List.filter_reverse, List.head?_reverse]

/-- The member that counts is the last one that gives the field. -/
theorem find?_eq_last (one : OneName fields ms) (hf : f ∈ fields) : ms.find? f.name f.other =
    (ms.filter fun m => f.names m.1).getLast?.map Prod.snd := by
  rw [Members.find?]
  -- The first name counts before the other one, but no object has both: the members with the name
  -- that is given are all members that give the field.
  by_cases given : ∃ m ∈ ms, m.1 = f.name
  · obtain ⟨m, hm, first⟩ := given
    have found : (Json.lookup f.name ms).isSome = true := by
      rw [Json.lookup, Option.isSome_map, List.find?_isSome]
      exact ⟨m, List.mem_reverse.2 hm, by simp [first]⟩
    have only : ∀ n ∈ ms, (n.1 == f.name) = f.names n.1 := by
      intro n hn
      rw [Bool.eq_iff_iff, beq_iff_eq, RecordField.names_iff]
      refine ⟨.inl, fun names => ?_⟩
      have same := one f hf n hn m hm (RecordField.names_iff.2 names)
        (RecordField.names_iff.2 (.inl first))
      exact same.trans first
    rw [Option.or_of_isSome found, lookup_eq_last, List.filter_congr only]
  · have none : Json.lookup f.name ms = none := by
      rw [Json.lookup, Option.map_eq_none_iff, List.find?_eq_none]
      exact fun m hm same => given ⟨m, List.mem_reverse.1 hm, eq_of_beq same⟩
    have only : ∀ n ∈ ms, (n.1 == f.other) = f.names n.1 := by
      intro n hn
      have differ : (n.1 == f.name) = false := by
        simpa using fun same => given ⟨n, hn, same⟩
      rw [RecordField.names, differ, Bool.false_or]
    rw [none, Option.none_or, lookup_eq_last, List.filter_congr only]

theorem filter_known (hf : f ∈ fields) (ms : Members) :
    (known fields ms).filter (fun m => f.names m.1) = ms.filter fun m => f.names m.1 := by
  rw [known, List.filter_filter]
  refine List.filter_congr fun m _ => ?_
  cases names : f.names m.1 with
  | false => rfl
  | true =>
    rw [Bool.true_and, List.any_eq_true]
    exact ⟨f, hf, names⟩

end Find

/-- Members that differ in how fields are named, and in members that are no field. -/
structure SameMembers (fields : List RecordField) (ms ns : Members) : Prop where
  distinct : Distinct fields
  one : OneName fields ms
  one' : OneName fields ns
  row : List.Forall₂ (SameField fields) (known fields ms) (known fields ns)

/-- A field is found in both or in none, with values that are the same input. -/
theorem SameMembers.find? {fields : List RecordField} {ms ns : Members}
    (h : SameMembers fields ms ns) {f : RecordField} (hf : f ∈ fields) :
    Option.Rel f.alike (ms.find? f.name f.other) (ns.find? f.name f.other) := by
  -- Members that correspond give one field; if it is this one for either, it is for both.
  have given {m n : String × Json} (same : SameField fields m n)
      (names : f.names m.1 = true ∨ f.names n.1 = true) :
      f.names m.1 = true ∧ f.names n.1 = true ∧ f.alike m.2 n.2 := by
    obtain ⟨g, hg, hm, hn, alike⟩ := same
    obtain rfl : f = g := names.elim (h.distinct.eq_of_names hf hg · hm)
      (h.distinct.eq_of_names hf hg · hn)
    exact ⟨hm, hn, alike⟩
  have row : List.Forall₂ (fun m n => f.alike m.2 n.2) (ms.filter fun m => f.names m.1)
      (ns.filter fun n => f.names n.1) := by
    rw [← filter_known hf ms, ← filter_known hf ns]
    refine filter_rows h.row (fun m n same => Bool.eq_iff_iff.2 ⟨?_, ?_⟩) fun m n same names => ?_
    · exact fun names => (given same (.inr names)).1
    · exact fun names => (given same (.inl names)).2.1
    · exact (given same (.inl names)).2.2
  rw [find?_eq_last h.one hf, find?_eq_last h.one' hf]
  have last := getLast?_rel row
  generalize (ms.filter fun m => f.names m.1).getLast? = o at *
  generalize (ns.filter fun n => f.names n.1).getLast? = o' at *
  cases last with
  | some alike => exact .some alike
  | none => exact .none

/-! ## Readers -/

namespace Schema

variable {α β : Type}

/-- Two values are read alike: as the same, or none of them is read. -/
def Checked.Agree (x y : Checked α) : Prop := ∀ a, x = ok a ↔ y = ok a

namespace Checked.Agree

theorem refl (x : Checked α) : x.Agree x := fun _ => .rfl

theorem map {x y : Checked α} (h : x.Agree y) (f : α → β) : (f <$> x).Agree (f <$> y) := by
  intro b
  simp only [map_eq_ok, h _]

theorem seq {f g : Checked (α → β)} {x y : Checked α} (hf : f.Agree g) (hx : x.Agree y) :
    (f <*> x).Agree (g <*> y) := by
  intro b
  simp only [seq_eq_ok, hf _, hx _]

end Checked.Agree

/-- A reader reads values alike that are the same input. -/
def Reads (read : Reading α) (alike : Json → Json → Prop) : Prop :=
  ∀ v w, alike v w → (read v).Agree (read w)

namespace Reads

theorem eq (read : Reading α) : Reads read Eq := by
  rintro v w rfl
  exact .refl _

theorem row {fields : List RecordField} {read : Reading α} (h : Reads read (Respelled fields)) :
    Reads (readRow read) (RespelledRow fields) := by
  intro v w same
  cases same with
  | same => exact .refl _
  | elements row =>
    intro as
    simp only [readRow_eq_ok, Json.array.injEq, exists_eq_left']
    induction row generalizing as with
    | nil => rfl
    | cons alike _ ih =>
      simp only [List.forall₂_cons_left_iff, h _ _ alike _, ih]

end Reads

theorem Reads.object {fields : List RecordField} (distinct : Distinct fields)
    {read : Members → Checked α}
    (h : ∀ ms ns, SameMembers fields ms ns → (read ms).Agree (read ns)) :
    Reads (readObject read) (Respelled fields) := by
  intro v w same
  cases same with
  | same => exact .refl _
  | members one one' row => exact h _ _ ⟨distinct, one, one', row⟩

end Schema

namespace SameMembers

variable {α : Type} {fields : List RecordField} {ms ns : Members} (h : SameMembers fields ms ns)
  (f : RecordField) (hf : f ∈ fields) {read : Reading α} (hread : Reads read f.alike)
include h hf hread

theorem required :
    (required ms f.name f.other read).Agree (required ns f.name f.other read) := by
  intro a
  rw [Schema.required, Schema.required, within_eq_ok, within_eq_ok]
  have found := h.find? hf
  generalize ms.find? f.name f.other = o at *
  generalize ns.find? f.name f.other = o' at *
  cases found with
  | some alike => exact hread _ _ alike a
  | none => rfl

theorem optional (b : α) :
    (optional ms f.name f.other read b).Agree (optional ns f.name f.other read b) := by
  intro a
  rw [Schema.optional, Schema.optional]
  have found := h.find? hf
  generalize ms.find? f.name f.other = o at *
  generalize ns.find? f.name f.other = o' at *
  cases found with
  | some alike => exact within_eq_ok.trans ((hread _ _ alike a).trans within_eq_ok.symm)
  | none => rfl

end SameMembers

/-! ## Classes -/

namespace ImportRecord

def fields : List RecordField :=
  [.plain "specifier", .plain "names", .plain "kind", .aliased "isTypeOnly" "is_type_only"]

theorem reads : Reads read (Respelled fields) := by
  refine Reads.object (by decide) fun ms ns h => ?_
  have specifier := h.required (.plain "specifier") (by simp [fields]) (.eq readString)
  have names := h.optional (.plain "names") (by simp [fields]) (.eq (readRow readString)) []
  have kind := h.required (.plain "kind") (by simp [fields]) (.eq (readKind (α := ImportKind)))
  have typeOnly := h.optional (.aliased "isTypeOnly" "is_type_only") (by simp [fields])
    (.eq readBool) false
  exact (((specifier.map mk).seq names).seq kind).seq typeOnly

end ImportRecord

namespace ExportRecord

def fields : List RecordField :=
  [.plain "name", .plain "kind", .aliased "isTypeOnly" "is_type_only"]

theorem reads : Reads read (Respelled fields) := by
  refine Reads.object (by decide) fun ms ns h => ?_
  have name := h.required (.plain "name") (by simp [fields]) (.eq readString)
  have kind := h.required (.plain "kind") (by simp [fields]) (.eq (readKind (α := ExportKind)))
  have typeOnly := h.optional (.aliased "isTypeOnly" "is_type_only") (by simp [fields])
    (.eq readBool) false
  exact ((name.map mk).seq kind).seq typeOnly

end ExportRecord

namespace FileRecord

def fields : List RecordField :=
  [.plain "path", .row "imports" ImportRecord.fields, .row "exports" ExportRecord.fields]

theorem reads : Reads read (Respelled fields) := by
  refine Reads.object (by decide) fun ms ns h => ?_
  have path := h.required (.plain "path") (by simp [fields])
    (.eq fun v => (readString v).andThen checkPath)
  have imports := h.optional (.row "imports" ImportRecord.fields) (by simp [fields])
    ImportRecord.reads.row []
  have exports := h.optional (.row "exports" ExportRecord.fields) (by simp [fields])
    ExportRecord.reads.row []
  exact ((path.map mk).seq imports).seq exports

end FileRecord

namespace DependencyEdge

def fields : List RecordField :=
  [.aliased "from" "from_path", .plain "to", .plain "origin", .plain "kind", .plain "names",
    .aliased "isTypeOnly" "is_type_only"]

theorem reads : Reads read (Respelled fields) := by
  refine Reads.object (by decide) fun ms ns h => ?_
  have source := h.required (.aliased "from" "from_path") (by simp [fields]) (.eq readString)
  have target := h.required (.plain "to") (by simp [fields]) (.eq readString)
  have origin := h.optional (.plain "origin") (by simp [fields])
    (.eq (readKind (α := EdgeOrigin))) .importing
  have kind := h.required (.plain "kind") (by simp [fields]) (.eq (readKind (α := ImportKind)))
  have names := h.optional (.plain "names") (by simp [fields]) (.eq (readRow readString)) []
  have typeOnly := h.optional (.aliased "isTypeOnly" "is_type_only") (by simp [fields])
    (.eq readBool) false
  exact (((((source.map mk).seq target).seq origin).seq kind).seq names).seq typeOnly

end DependencyEdge

namespace Summary

def fields : List RecordField :=
  [.aliased "totalFiles" "total_files", .aliased "totalDependencies" "total_dependencies"]

theorem reads : Reads read (Respelled fields) := by
  refine Reads.object (by decide) fun ms ns h => ?_
  have files := h.required (.aliased "totalFiles" "total_files") (by simp [fields]) (.eq readInt)
  have dependencies := h.required (.aliased "totalDependencies" "total_dependencies")
    (by simp [fields]) (.eq readInt)
  exact (files.map mk).seq dependencies

end Summary

namespace Warning

def fields : List RecordField := [.plain "kind", .plain "path", .plain "message"]

theorem reads : Reads read (Respelled fields) := by
  refine Reads.object (by decide) fun ms ns h => ?_
  have kind := h.required (.plain "kind") (by simp [fields]) (.eq (readKind (α := WarningKind)))
  have path := h.required (.plain "path") (by simp [fields]) (.eq readString)
  have message := h.required (.plain "message") (by simp [fields]) (.eq readString)
  exact ((kind.map mk).seq path).seq message

end Warning

namespace AnalysisResult

def fields : List RecordField :=
  [.row "files" FileRecord.fields, .row "dependencies" DependencyEdge.fields,
    .object "summary" Summary.fields, .row "warnings" Warning.fields, .plain "truncated"]

theorem reads : Reads read (Respelled fields) := by
  refine Reads.object (by decide) fun ms ns h => ?_
  have files := h.optional (.row "files" FileRecord.fields) (by simp [fields])
    FileRecord.reads.row []
  have dependencies := h.optional (.row "dependencies" DependencyEdge.fields) (by simp [fields])
    DependencyEdge.reads.row []
  have summary := h.required (.object "summary" Summary.fields) (by simp [fields]) Summary.reads
  have warnings := h.optional (.row "warnings" Warning.fields) (by simp [fields])
    Warning.reads.row []
  have truncated := h.optional (.plain "truncated") (by simp [fields]) (.eq readBool) false
  exact ((((files.map mk).seq dependencies).seq summary).seq warnings).seq truncated

end AnalysisResult

namespace Config

def fields : List RecordField :=
  [.aliased "excludedDirectoryNames" "excluded_directory_names",
    .aliased "sourceExtensions" "source_extensions",
    .aliased "includeTypeDeclarationFiles" "include_type_declaration_files"]

theorem reads : Reads read (Respelled fields) := by
  refine Reads.object (by decide) fun ms ns h => ?_
  have excluded := h.optional (.aliased "excludedDirectoryNames" "excluded_directory_names")
    (by simp [fields]) (.eq (readSet readString)) defaultExcluded
  have extensions := h.optional (.aliased "sourceExtensions" "source_extensions")
    (by simp [fields]) (.eq (readSet readString)) defaultExtensions
  have declarations := h.optional
    (.aliased "includeTypeDeclarationFiles" "include_type_declaration_files")
    (by simp [fields]) (.eq readBool) false
  exact ((excluded.map _).seq extensions).seq declarations

end Config

namespace RecordClass

/-- The fields of a class. -/
def fields : RecordClass → List RecordField
  | importRecord => ImportRecord.fields
  | exportRecord => ExportRecord.fields
  | fileRecord => FileRecord.fields
  | dependencyEdge => DependencyEdge.fields
  | summary => Summary.fields
  | warning => Warning.fields
  | analysisResult => AnalysisResult.fields

theorem reads (c : RecordClass) : Reads c.read (Respelled c.fields) := by
  cases c with
  | importRecord => exact ImportRecord.reads
  | exportRecord => exact ExportRecord.reads
  | fileRecord => exact FileRecord.reads
  | dependencyEdge => exact DependencyEdge.reads
  | summary => exact Summary.reads
  | warning => exact Warning.reads
  | analysisResult => exact AnalysisResult.reads

end RecordClass

/-- Values that differ only in which of its two names each field goes by, in any of the objects in
them, and in members that are no field, are read as the same record or configuration, or neither is
read. -/
theorem spellings_agree :
    (∀ (c : RecordClass) (v w : Json), Respelled c.fields v w →
      ∀ r : c.Value, c.read v = ok r ↔ c.read w = ok r) ∧
    ∀ v w : Json, Respelled Config.fields v w →
      ∀ c : Config, Config.read v = ok c ↔ Config.read w = ok c :=
  ⟨fun c => c.reads, Config.reads⟩

/-! ## A result with two spellings -/

namespace RecordClass.Sample

def edge : Json := .object
  [("from", .string "a.ts"), ("to", .string "./b"), ("kind", .string "named"),
    ("is_type_only", .bool true)]

def otherEdge : Json := .object
  [("from_path", .string "a.ts"), ("to", .string "./b"), ("note", .null), ("kind", .string "named"),
    ("isTypeOnly", .bool true)]

def summary : Json := .object [("totalFiles", .int 1), ("total_dependencies", .int 1)]

def otherSummary : Json := .object [("total_files", .int 1), ("totalDependencies", .int 1)]

def result : Json := .object [("dependencies", .array [edge]), ("summary", summary)]

def otherResult : Json := .object
  [("version", .int 2), ("dependencies", .array [otherEdge]), ("summary", otherSummary)]

theorem edges_respelled : Respelled DependencyEdge.fields edge otherEdge := by
  refine .members (by decide) (by decide) ?_
  refine .cons ⟨.aliased "from" "from_path", by simp [DependencyEdge.fields], rfl, rfl, rfl⟩ ?_
  refine .cons ⟨.plain "to", by simp [DependencyEdge.fields], rfl, rfl, rfl⟩ ?_
  refine .cons ⟨.plain "kind", by simp [DependencyEdge.fields], rfl, rfl, rfl⟩ ?_
  exact .cons ⟨.aliased "isTypeOnly" "is_type_only", by simp [DependencyEdge.fields], rfl, rfl, rfl⟩
    .nil

theorem summaries_respelled : Respelled Summary.fields summary otherSummary := by
  refine .members (by decide) (by decide) ?_
  refine .cons ⟨.aliased "totalFiles" "total_files", by simp [Summary.fields], rfl, rfl, rfl⟩ ?_
  exact .cons ⟨.aliased "totalDependencies" "total_dependencies", by simp [Summary.fields],
    rfl, rfl, rfl⟩ .nil

theorem results_respelled : Respelled AnalysisResult.fields result otherResult := by
  refine .members (by decide) (by decide) ?_
  refine .cons ⟨.row "dependencies" DependencyEdge.fields, by simp [AnalysisResult.fields],
    rfl, rfl, .elements (.cons edges_respelled .nil)⟩ ?_
  exact .cons ⟨.object "summary" Summary.fields, by simp [AnalysisResult.fields],
    rfl, rfl, summaries_respelled⟩ .nil

end RecordClass.Sample

namespace Config.Sample

def typed : Json := .object [("includeTypeDeclarationFiles", .bool true)]

def otherTyped : Json := .object
  [("include_type_declaration_files", .bool true), ("includeTests", .bool false)]

theorem typed_respelled : Respelled Config.fields typed otherTyped := by
  refine .members (by decide) (by decide) ?_
  exact .cons ⟨.aliased "includeTypeDeclarationFiles" "include_type_declaration_files",
    by simp [Config.fields], rfl, rfl, rfl⟩ .nil

end Config.Sample

section Sample

open RecordClass.Sample Config.Sample

theorem spellings_agree_sample :
    Respelled AnalysisResult.fields result otherResult ∧
      (∃ r, AnalysisResult.read result = ok r ∧ AnalysisResult.read otherResult = ok r) ∧
    Respelled Config.fields typed otherTyped ∧
      ∃ c, Config.read typed = ok c ∧ Config.read otherTyped = ok c := by
  have result_read : ∃ r, AnalysisResult.read result = ok r := ⟨_, rfl⟩
  have typed_read : ∃ c, Config.read typed = ok c := ⟨_, rfl⟩
  obtain ⟨r, read_result⟩ := result_read
  obtain ⟨c, read_typed⟩ := typed_read
  refine ⟨results_respelled, ⟨r, read_result, ?_⟩, typed_respelled, c, read_typed, ?_⟩
  · exact (spellings_agree.1 .analysisResult _ _ results_respelled r).1 read_result
  · exact (spellings_agree.2 _ _ typed_respelled c).1 read_typed

end Sample

end ModuleAtlas
