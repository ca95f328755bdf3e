import ModuleAtlas.Record

/-!
# Reports for readers

A summary of a result, and the text that puts a question about it to a language model.
-/
namespace ModuleAtlas

/-- The elements before a bound. A negative bound counts from the end. -/
def upTo {α : Type} (bound : Int) (xs : List α) : List α :=
  if 0 ≤ bound then xs.take bound.toNat else xs.take (xs.length - bound.natAbs)

namespace Report

/-- The order of files in reports: those with more connections first, then by path. -/
def ranksBefore (a b : FileRecord) : Bool :=
  b.connections < a.connections || a.connections = b.connections && decide (a.path ≤ b.path)

/-- All files, those with most connections first. -/
def ranking (files : List FileRecord) : List FileRecord := files.mergeSort ranksBefore

/-- The files with most connections, up to a bound. -/
def mostConnected (r : AnalysisResult) (bound : Int) : List FileRecord :=
  upTo bound (ranking r.files)

def unlines (ls : List String) : String := "\n".intercalate ls

/-- Lines under a title, if they are wanted at all. -/
def titled (wanted : Bool) (title : String) (entries : List String) : List String :=
  if wanted then "" :: title :: entries else []

def edgeLine (e : DependencyEdge) : String := s!"  {e.source} → {e.target}"

def fileLine (f : FileRecord) : String :=
  s!"  {f.path} ({f.imports.length}↓ {f.exports.length}↑)"

def warningLine (w : Warning) : String := s!"  [{text w.kind}] {w.message}"

/-- How many edges a summary shows if nothing else is asked for. -/
def defaultTop : Int := 8

/-- The lines of a summary. -/
def summaryLines (r : AnalysisResult) (top : Int) : List String :=
  [s!"Files: {r.summary.totalFiles}", s!"Dependencies: {r.summary.totalDependencies}"] ++
  (if r.truncated then ["(analysis was cut short; results are partial)"] else []) ++
  titled (!r.dependencies.isEmpty) "Dependencies:" ((upTo top r.dependencies).map edgeLine) ++
  titled (!r.files.isEmpty) "Main files:" ((mostConnected r (max 1 (top - 3))).map fileLine) ++
  titled (!r.warnings.isEmpty) s!"Warnings ({r.warnings.length}):" (r.warnings.map warningLine)

def summary (r : AnalysisResult) (top : Int) : String := unlines (summaryLines r top)

/-! ## Questions -/

/-- Counts one more thing under a name. A name that is new stands behind the others. -/
def countOne : List (String × Nat) → String → List (String × Nat)
  | [], name => [(name, 1)]
  | (other, n) :: rest, name =>
    if other = name then (other, n + 1) :: rest else (other, n) :: countOne rest name

/-- How often each name occurs, in the order in which the names first do. -/
def tally (names : List String) : List (String × Nat) := names.foldl countOne []

/-- The order of counts: by name, then by number. -/
def countInOrder (a b : String × Nat) : Bool := a.1 < b.1 || a.1 = b.1 && decide (a.2 ≤ b.2)

/-- How often each name occurs, in the order of the names. -/
def histogram (names : List String) : List (String × Nat) := (tally names).mergeSort countInOrder

def histogramLine (entry : String × Nat) : String := s!"- {entry.1}: {entry.2}"

/-- An edge with the names that are imported along it. -/
def namedEdgeLine (e : DependencyEdge) : String :=
  let names := if e.names.isEmpty then "" else " [" ++ ", ".intercalate e.names ++ "]"
  let types := if e.isTypeOnly then " (type-only)" else ""
  s!"- {e.source} → {e.target}{names}{types}"

def connectionsLine (f : FileRecord) : String :=
  s!"- {f.path} ({f.imports.length} imports, {f.exports.length} exports)"

/-- The lines of a question about a result. -/
def questionLines (r : AnalysisResult) (question : String) : List String :=
  ["You are analyzing a TypeScript/JavaScript codebase. Here's what I found:", "",
   s!"**Files analyzed:** {r.summary.totalFiles}",
   s!"**Dependencies:** {r.summary.totalDependencies}", "", "**Key dependencies:**"] ++
  (upTo 15 r.dependencies).map namedEdgeLine ++
  ["", "**Files with most connections:**"] ++
  (mostConnected r 8).map connectionsLine ++
  ["", "**Export patterns:**"] ++
  (histogram (r.files.flatMap fun f => f.exports.map fun e => text e.kind)).map histogramLine ++
  ["", "**Import patterns:**"] ++
  (histogram (r.files.flatMap fun f => f.imports.map fun i => text i.kind)).map histogramLine ++
  ["", s!"**Question:** {question}", "",
   "Please answer the question based on the codebase analysis above. " ++
     "Be specific and reference actual file names when possible."]

def question (r : AnalysisResult) (asked : String) : String := unlines (questionLines r asked)

end Report

end ModuleAtlas
