import ModuleAtlas.Discovery
import ModuleAtlas.Extract
import ModuleAtlas.Record.Schema

/-!
# Analyzing a tree of files

Every source file below a root is read on its own. A file that cannot be read or parsed has a record
without imports and exports, and a warning; it never keeps other files from being read.
-/
namespace ModuleAtlas

open Text

/-- Makes a tree of the text of a file, given its path. -/
abbrev SourceParser := (path text : String) → Tree

/-- Opens and reads a file, or says what went wrong. It need not meet what the walk has seen. -/
abbrev FileReader := (fullPath : Path) → Except String (List UInt8)

/-- Reads the files of a disk. -/
def Disk.reader (d : Disk) : FileReader := fun p => (d.readFile p).mapError ReadFault.message

/-- What comes of one file, with the messages that are logged on the way. -/
structure FileOutcome where
  record : FileRecord
  warning : Option Warning
  log : Log
deriving DecidableEq, Inhabited

/-- What keeps a file from having a record at all: its path. -/
inductive FileFault
  | nulInPath
  | invalid (fs : List Schema.Fault)
deriving DecidableEq

namespace FileOutcome

def sender : String := "depgraph.pipeline"

/-- The outcome of a file that something went wrong with, which is logged at once. -/
def failed (path : String) (kind : WarningKind) (message : String) : FileOutcome :=
  ⟨.empty path, some ⟨kind, path, message⟩, [.warning sender message]⟩

/-- The text of a file: a byte order mark is dropped and line ends are made one. -/
def textOf (read : FileReader) (fullPath : Path) : Except String String :=
  match read fullPath with
  | .error reason => .error reason
  | .ok bytes =>
    match Utf8.decodeMarked bytes with
    | .error f => .error f.message
    | .ok text => .ok (String.ofList (Utf8.unifyLines text))

/-- The outcome of a file with some text. -/
def ofText (parse : SourceParser) (path text : String) : FileOutcome :=
  match (parse path text).check path with
  | .error f => failed path .parse s!"Could not parse {path}: {f.message}"
  | .ok tree =>
    let found := tree.declarations
    ⟨⟨path, found.imports, found.exports⟩, none, []⟩

/-- The outcome of a file whose path is as it should be. -/
def ofFile (read : FileReader) (parse : SourceParser) (f : SourceFile) : FileOutcome :=
  match textOf read f.fullPath with
  | .error reason => failed f.path .fileRead s!"Could not read {f.path}: {reason}"
  | .ok text => ofText parse f.path text

end FileOutcome

/-- Reports that something went wrong with a file. A report holds a record, too, so it fails where
there can be none. -/
def FileOutcome.report (path : String) (kind : WarningKind) (message : String) :
    Except FileFault FileOutcome :=
  match FileRecord.make path [] [] with
  | .faults fs => .error (.invalid fs)
  | .ok record => .ok ⟨record, some ⟨kind, path, message⟩, [.warning sender message]⟩

open FileOutcome (textOf report) in
/-- Analyzes one file. The path of its record need not be the one that it is read from. -/
def analyzeFileRead (read : FileReader) (parse : SourceParser) (f : SourceFile) :
    Except FileFault FileOutcome :=
  if f.fullPath.hasNul then .error .nulInPath
  else
    match textOf read f.fullPath with
    | .error reason => report f.path .fileRead s!"Could not read {f.path}: {reason}"
    | .ok text =>
      match (parse f.path text).check f.path with
      | .error fault => report f.path .parse s!"Could not parse {f.path}: {fault.message}"
      | .ok tree =>
        let found := tree.declarations
        match FileRecord.make f.path found.imports found.exports with
        | .ok record => .ok ⟨record, none, []⟩
        | .faults fs =>
          -- It is the path that is at fault, so this report fails, too, and its text is not seen.
          let reasons := ", ".intercalate (fs.map fun fault => fault.cause.message)
          report f.path .parse s!"Could not analyze {f.path}: {reasons}"

/-- A path that no record may have is a fault, whatever comes of the file; any other has the outcome
of the file. -/
theorem analyzeFileRead_eq (read : FileReader) (parse : SourceParser) (f : SourceFile) :
    analyzeFileRead read parse f =
      if f.fullPath.hasNul then .error .nulInPath
      else
        match Schema.Checked.within (.key "path") (FileRecord.checkPath f.path) with
        | .faults fs => .error (.invalid fs)
        | .ok _ => .ok (.ofFile read parse f) := by
  rw [analyzeFileRead]
  split
  · rfl
  · simp only [FileOutcome.report, FileRecord.make_eq]
    cases Schema.Checked.within (.key "path") (FileRecord.checkPath f.path) with
    | faults fs =>
      cases FileOutcome.textOf read f.fullPath with
      | error reason => rfl
      | ok text =>
        dsimp only
        cases (parse f.path text).check f.path <;> rfl
    | ok path =>
      rw [FileOutcome.ofFile]
      cases FileOutcome.textOf read f.fullPath with
      | error reason => rfl
      | ok text =>
        simp only [FileOutcome.ofText]
        cases (parse f.path text).check f.path <;> rfl

/-- There is an outcome where there may be a record, and then it is that of the file. -/
theorem analyzeFileRead_eq_ok {read : FileReader} {parse : SourceParser} {f : SourceFile}
    {o : FileOutcome} : analyzeFileRead read parse f = .ok o ↔
      f.fullPath.hasNul = false ∧ FileRecord.pathFault? f.path = none ∧
        o = .ofFile read parse f := by
  rw [analyzeFileRead_eq, FileRecord.checkPath]
  cases f.fullPath.hasNul with
  | true => exact iff_of_false nofun fun h => nomatch h.1
  | false =>
    cases FileRecord.pathFault? f.path with
    | some fault => exact iff_of_false nofun fun h => nomatch h.2.1
    | none =>
      constructor
      · rintro ⟨⟩
        exact ⟨rfl, rfl, rfl⟩
      · rintro ⟨-, -, rfl⟩
        rfl

/-- Analyzes one file of a disk. -/
def analyzeFile (d : Disk) : SourceParser → SourceFile → Except FileFault FileOutcome :=
  analyzeFileRead d.reader

/-- The full path of a file given by its path from a root. -/
def SourceFile.ofPath (root : Path) (path : String) : SourceFile :=
  ⟨path, (Path.ofText path).components.foldl Path.join root⟩

/-- A file given by its path from a root, which is opened by another path if one is given. -/
def SourceFile.located (root : Path) (path : String) : (opened : Option Path) → SourceFile
  | none => .ofPath root path
  | some fullPath => ⟨path, fullPath⟩

/-! ## A whole tree -/

/-- What an analysis is asked for. -/
structure AnalysisRequest where
  root : Path
  config : Config
  /-- The number of workers; none or zero leaves it to the settings. -/
  workers : Option Int
  stop : StopSignal

inductive AnalysisFault
  | settings (fs : List Schema.Fault)
  | discovery (f : DiscoveryFault)
  | file (f : FileFault)
deriving DecidableEq

structure Analysis where
  result : AnalysisResult
  log : Log
deriving DecidableEq, Inhabited

namespace Analysis

open FileOutcome (sender)

/-- The number of workers, for which the settings are read if it is not given. -/
def workerCount (e : Environment) (kept : Settings.Kept) (asked : Option Int) :
    Schema.Checked Int × Settings.Kept :=
  match asked.filter (· ≠ 0) with
  | some n => (.ok (max 1 n), kept)
  | none =>
    let (s, kept) := Settings.get e kept
    (s.map fun s => max 1 s.maxWorkers, kept)

/-- Analyzes files one after the other. Each asks the signal before it is read; a file that is
stopped has no outcome. -/
def outcomes (read : FileReader) (parse : SourceParser) (stop : StopSignal) :
    (checks : Nat) → List SourceFile → Except FileFault (List (Option FileOutcome))
  | _, [] => .ok []
  | checks, f :: rest =>
    if stop checks then (outcomes read parse stop (checks + 1) rest).map (none :: ·)
    else
      match analyzeFileRead read parse f with
      | .error e => .error e
      | .ok o => (outcomes read parse stop (checks + 1) rest).map (some o :: ·)

/-- The messages that are logged while files are read one after the other. -/
def readingLog (slots : List (Option FileOutcome)) : Log :=
  slots.reduceOption.flatMap FileOutcome.log

/-- Puts the outcomes of the files together with the warnings of the walk. Files without an outcome
are left out. What has been logged so far is given. -/
def assemble (root : Path) (found : Discovery.Outcome) (slots : List (Option FileOutcome))
    (logged : Log) : Analysis :=
  let done := slots.reduceOption
  let files := done.map FileOutcome.record
  let dependencies := edgesOf files
  let truncated := decide (files.length < found.files.length)
  let cut := if truncated then
      [Message.warning sender <| "Analysis of " ++ root ++
        s!" truncated after {files.length} of {found.files.length} files"]
    else []
  let summary := Message.info sender
    s!"Analyzed {files.length} files, {dependencies.length} local dependencies"
  ⟨.ofParts files dependencies (found.warnings ++ done.filterMap FileOutcome.warning) truncated,
    logged ++ cut ++ [summary]⟩

/-- The messages that are logged before any file is read. -/
def openingLog (root : Path) (found : Discovery.Outcome) : Log :=
  found.log ++
    [.info sender <| s!"Found {found.files.length} source files under " ++ root]

/-- The analysis when the signal stops it before any file is read. -/
def cancelled (root : Path) (found : Discovery.Outcome) : Analysis :=
  ⟨.ofParts [] [] found.warnings true,
    openingLog root found ++
      [.warning sender <| "Analysis of " ++ root ++ " cancelled during discovery"]⟩

/-- Analyzes the files that a walk has found. -/
def ofDiscovery (read : FileReader) (parse : SourceParser) (root : Path) (stop : StopSignal)
    (found : Discovery.Outcome) : Except FileFault Analysis :=
  if stop found.checks then .ok (cancelled root found)
  else
    (outcomes read parse stop (found.checks + 1) found.files).map fun slots =>
      assemble root found slots (openingLog root found ++ readingLog slots)

end Analysis

/-- Analyzes every source file below a root. How the files are read is given. -/
def analyzeReading (d : Disk) (read : FileReader) (parse : SourceParser) (e : Environment)
    (kept : Settings.Kept) (r : AnalysisRequest) :
    Except AnalysisFault Analysis × Settings.Kept :=
  let root := d.absolute r.root
  match Analysis.workerCount e kept r.workers with
  | (.faults fs, kept) => (.error (.settings fs), kept)
  | (.ok _, kept) =>
    match discover d root r.config r.stop with
    | .error f => (.error (.discovery f), kept)
    | .ok found =>
      ((Analysis.ofDiscovery read parse root r.stop found).mapError .file, kept)

/-- Analyzes every source file below a root, on a disk that stays as it is. -/
def analyze (d : Disk) : SourceParser → Environment → Settings.Kept → AnalysisRequest →
    Except AnalysisFault Analysis × Settings.Kept :=
  analyzeReading d d.reader

end ModuleAtlas
