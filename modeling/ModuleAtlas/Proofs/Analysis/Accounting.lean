import ModuleAtlas.Proofs.Analysis.Endings

/-!
# Every file is accounted for

Whatever comes of reading, decoding and parsing each file, an analysis that nothing stops has one
record for each file that the walk has found, and one warning for each that something went wrong
with.

## Main definitions

* `Accounts` — the record and the warning that a file has.
* `Account` — a file with its record and its warning.
-/
namespace ModuleAtlas

open Text

/-- The record and the warning of a file, by what comes of reading, decoding and parsing it. -/
inductive Accounts (read : FileReader) (parse : SourceParser) (f : SourceFile) :
    FileRecord → Option Warning → Prop where
  | unread {reason : String} (h : read f.fullPath = .error reason) :
      Accounts read parse f ⟨f.path, [], []⟩
        (some ⟨.fileRead, f.path, s!"Could not read {f.path}: {reason}"⟩)
  | undecoded {bytes : List UInt8} {fault : Utf8.Fault} (h : read f.fullPath = .ok bytes)
      (decode : Utf8.decodeMarked bytes = .error fault) :
      Accounts read parse f ⟨f.path, [], []⟩
        (some ⟨.fileRead, f.path, s!"Could not read {f.path}: {fault.message}"⟩)
  | unparsed {bytes : List UInt8} {text : List Char} {fault : SyntaxFault}
      (h : read f.fullPath = .ok bytes) (decode : Utf8.decodeMarked bytes = .ok text)
      (check : (parse f.path (.ofList (Utf8.unifyLines text))).check f.path = .error fault) :
      Accounts read parse f ⟨f.path, [], []⟩
        (some ⟨.parse, f.path, s!"Could not parse {f.path}: {fault.message}"⟩)
  | analyzed {bytes : List UInt8} {text : List Char} {tree : Tree}
      (h : read f.fullPath = .ok bytes) (decode : Utf8.decodeMarked bytes = .ok text)
      (check : (parse f.path (.ofList (Utf8.unifyLines text))).check f.path = .ok tree) :
      Accounts read parse f ⟨f.path, tree.declarations.imports, tree.declarations.exports⟩ none

theorem accounts_ofFile (read : FileReader) (parse : SourceParser) (f : SourceFile) :
    Accounts read parse f (FileOutcome.ofFile read parse f).record
      (FileOutcome.ofFile read parse f).warning := by
  cases h : read f.fullPath with
  | error reason =>
    simp only [FileOutcome.ofFile, FileOutcome.textOf, h]
    exact .unread h
  | ok bytes =>
    cases decode : Utf8.decodeMarked bytes with
    | error fault =>
      simp only [FileOutcome.ofFile, FileOutcome.textOf, h, decode]
      exact .undecoded h decode
    | ok text =>
      simp only [FileOutcome.ofFile, FileOutcome.textOf, h, decode, FileOutcome.ofText]
      cases check : (parse f.path (.ofList (Utf8.unifyLines text))).check f.path with
      | error fault => exact .unparsed h decode check
      | ok tree => exact .analyzed h decode check

theorem Accounts.path {read : FileReader} {parse : SourceParser} {f : SourceFile} {r : FileRecord}
    {w : Option Warning} (h : Accounts read parse f r w) : r.path = f.path := by
  cases h <;> rfl

theorem FileOutcome.path_ofFile (read : FileReader) (parse : SourceParser) (f : SourceFile) :
    (ofFile read parse f).record.path = f.path := (accounts_ofFile read parse f).path

/-- A file with its record and its warning. -/
structure Account where
  file : SourceFile
  record : FileRecord
  warning : Option Warning

/-- The account of a file that some work is done on. -/
def Account.of (work : SourceFile → FileOutcome) (f : SourceFile) : Account :=
  ⟨f, (work f).record, (work f).warning⟩

theorem Account.map_file_of (work : SourceFile → FileOutcome) (files : List SourceFile) :
    (files.map (of work)).map file = files := by
  rw [List.map_map]
  exact List.map_id files

/-- A result holds what the accounts of its files do. -/
theorem Analysis.resultOf_eq_accounts (work : SourceFile → FileOutcome) (files : List SourceFile)
    (subtree : List Warning) (truncated : Bool) :
    resultOf work files subtree truncated =
      .ofParts ((files.map (.of work)).map Account.record)
        (edgesOf ((files.map (.of work)).map Account.record))
        (subtree ++ (files.map (.of work)).filterMap Account.warning) truncated := by
  rw [List.map_map, List.filterMap_map]
  rfl

theorem isLocal_iff (specifier : String) : isLocal specifier = true ↔
    specifier.toList.head? = some '.' ∨ specifier.toList.head? = some '/' := by
  unfold isLocal
  cases specifier.toList.head? <;> simp

/-- The edges are those of the local imports, file by file, each as its specifier is written. -/
theorem edgesOf_eq (files : List FileRecord) : edgesOf files = files.flatMap fun f =>
    (f.imports.filter fun i => decide (i.specifier.toList.head? = some '.' ∨
      i.specifier.toList.head? = some '/')).map fun i =>
        ⟨f.path, i.specifier, .importing, i.kind, i.names, i.isTypeOnly⟩ := by
  have asked : ImportRecord.isLocal = fun i => decide (i.specifier.toList.head? = some '.' ∨
      i.specifier.toList.head? = some '/') := by
    funext i
    rw [ImportRecord.isLocal, Bool.eq_iff_iff, isLocal_iff, decide_eq_true_iff]
  refine congrArg files.flatMap (funext fun f => ?_)
  rw [FileRecord.edges, asked]
  rfl

/-- An analysis that nothing stops comes to an end, whatever the steps of the workers are, and then
accounts for all files that discovery finds, in order: each has the record of its path and, if
something went wrong with it, one warning. Nothing else is reported but the directories that
discovery could not list. The files that are analyzed without workers are accounted for alike. -/
theorem analysis_accounts {d : Disk} (hd : d.IsProper) (path : Path) (c : Config) {e : Entry}
    (hroot : Discovery.Listable d (d.absolute path) e) (read : FileReader) (parse : SourceParser)
    (env : Environment) (kept : Settings.Kept) {asked : Option Int} {n : Int}
    (hcount : (Analysis.workerCount env kept asked).1 = .ok n) :
    ∃ found, discover d (d.absolute path) c .never = .ok found ∧
      Pool.Halts n.toNat .never (.ofFile read parse) (.ofDiscovery (d.absolute path) found) ∧
      (∃ a, Analyzes d read parse env kept ⟨path, c, asked, .never⟩ a) ∧
      (∃ a, (analyzeReading d read parse env kept ⟨path, c, asked, .never⟩).1 = .ok a ∧
        ∀ a', Analyzes d read parse env kept ⟨path, c, asked, .never⟩ a' → a.result = a'.result) ∧
      ∀ a, Analyzes d read parse env kept ⟨path, c, asked, .never⟩ a →
        a.result.files.map FileRecord.path = found.files.map SourceFile.path ∧
        (∃ accounts : List Account, accounts.map Account.file = found.files ∧
          accounts.map Account.record = a.result.files ∧
          a.result.warnings = found.warnings ++ accounts.filterMap Account.warning ∧
          ∀ x ∈ accounts, Accounts read parse x.file x.record x.warning) ∧
        (∀ w ∈ found.warnings, w.kind = .subtreeRead) ∧
        (a.result.dependencies = a.result.files.flatMap fun f =>
          (f.imports.filter fun i => decide (i.specifier.toList.head? = some '.' ∨
            i.specifier.toList.head? = some '/')).map fun i =>
              ⟨f.path, i.specifier, .importing, i.kind, i.names, i.isTypeOnly⟩) ∧
        a.result.summary = ⟨a.result.files.length, a.result.dependencies.length⟩ ∧
        a.result.truncated = false := by
  have result (a : Analysis) (h : Analyzes d read parse env kept ⟨path, c, asked, .never⟩ a) :=
    result_of_never hd hroot hcount h
  refine ⟨Discovery.whole d (d.absolute path) c e, Discovery.discover_never hd hroot,
    Pool.halts _, exists_analyzes_never hd c hroot read parse hcount, ?_, fun a h => ?_⟩
  · obtain ⟨a, done, alike⟩ := analyzeReading_eq (r := ⟨path, c, asked, .never⟩) hcount
      (Discovery.discover_never hd hroot)
      (analyzeFileRead_of_whole hd hroot (hd.isAbsolute path) read parse)
    obtain ⟨one, ending⟩ := Analysis.exists_ending 1 .never (.ofFile read parse)
      (d.absolute path) (Discovery.whole d (d.absolute path) c e)
    refine ⟨a, done, fun a' h => ?_⟩
    rw [alike one ending, Analysis.of_ending_never Nat.one_pos ending, result a' h]
  · rw [result a h, Analysis.resultOf_eq_accounts]
    refine ⟨?_, ⟨_, Account.map_file_of (.ofFile read parse) _, rfl, rfl, ?_⟩,
      fun w => kind_of_mem_whole, edgesOf_eq _, rfl, rfl⟩
    · simp [AnalysisResult.ofParts, Account.of, FileOutcome.path_ofFile]
    · intro x hx
      obtain ⟨f, -, rfl⟩ := List.mem_map.1 hx
      exact accounts_ofFile read parse f

theorem analysis_accounts_sample : ∃ a, Analyzes Discovery.Sample.disk Discovery.Sample.disk.reader
    (fun _ _ => default) [] none ⟨Discovery.Sample.root, .standard, some 2, .never⟩ a ∧
      a.result.truncated = false := by
  have count : (Analysis.workerCount [] none (some 2)).1 = .ok 2 := rfl
  obtain ⟨found, -, -, ⟨a, h⟩, -, all⟩ := analysis_accounts Discovery.Sample.disk_isProper
    Discovery.Sample.root .standard Discovery.Sample.disk_listable Discovery.Sample.disk.reader
    (fun _ _ => default) [] none count
  exact ⟨a, h, (all a h).2.2.2.2.2⟩

end ModuleAtlas
