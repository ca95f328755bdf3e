import ModuleAtlas.Kind

/-!
# Records of an analysis

What is known of each file, the edges between files, and what went wrong.
-/
namespace ModuleAtlas

structure ImportRecord where
  specifier : String
  names : List String
  kind : ImportKind
  isTypeOnly : Bool
deriving DecidableEq, Inhabited, Repr

structure ExportRecord where
  name : String
  kind : ExportKind
  isTypeOnly : Bool
deriving DecidableEq, Inhabited, Repr

structure FileRecord where
  path : String
  imports : List ImportRecord
  exports : List ExportRecord
deriving DecidableEq, Inhabited, Repr

structure DependencyEdge where
  source : String
  target : String
  origin : EdgeOrigin
  kind : ImportKind
  names : List String
  isTypeOnly : Bool
deriving DecidableEq, Inhabited, Repr

structure Summary where
  totalFiles : Int
  totalDependencies : Int
deriving DecidableEq, Inhabited, Repr

structure Warning where
  kind : WarningKind
  path : String
  message : String
deriving DecidableEq, Inhabited, Repr

structure AnalysisResult where
  files : List FileRecord
  dependencies : List DependencyEdge
  summary : Summary
  warnings : List Warning
  /-- Whether the analysis was stopped before all files were read. -/
  truncated : Bool
deriving DecidableEq, Inhabited, Repr

/-! ## Paths of file records -/

/-- What is wrong with a path that does not lead to a place below the root. -/
inductive PathFault
  | absolute
  | leavesRoot
deriving DecidableEq

namespace FileRecord

/-- A record's path is relative and no part of it goes up. -/
def pathFault? (path : String) : Option PathFault :=
  if path.toList.head? = some '/' then some .absolute
  else if ['.', '.'] ∈ path.toList.splitOn '/' then some .leavesRoot
  else none

/-- The record of a file of which nothing is known. -/
def empty (path : String) : FileRecord := ⟨path, [], []⟩

/-- The number of imports and exports. -/
def connections (f : FileRecord) : Nat := f.imports.length + f.exports.length

end FileRecord

/-! ## Edges and results -/

/-- A specifier that names a file, by a path from the importing file or from the root. -/
def isLocal (specifier : String) : Bool :=
  match specifier.toList.head? with
  | some c => c = '.' || c = '/'
  | none => false

def ImportRecord.isLocal (i : ImportRecord) : Bool := ModuleAtlas.isLocal i.specifier

/-- The edge of an import of a file. -/
def ImportRecord.edgeFrom (path : String) (i : ImportRecord) : DependencyEdge :=
  ⟨path, i.specifier, .importing, i.kind, i.names, i.isTypeOnly⟩

/-- One edge for each local import, as the specifiers are written. -/
def FileRecord.edges (f : FileRecord) : List DependencyEdge :=
  (f.imports.filter ImportRecord.isLocal).map (ImportRecord.edgeFrom f.path)

def edgesOf (files : List FileRecord) : List DependencyEdge := files.flatMap FileRecord.edges

namespace AnalysisResult

/-- A result that counts its own files and dependencies. -/
def ofParts (files : List FileRecord) (dependencies : List DependencyEdge)
    (warnings : List Warning) (truncated : Bool) : AnalysisResult :=
  ⟨files, dependencies, ⟨files.length, dependencies.length⟩, warnings, truncated⟩

end AnalysisResult

end ModuleAtlas
