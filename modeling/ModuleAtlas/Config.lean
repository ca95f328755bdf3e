import ModuleAtlas.NameSet
import ModuleAtlas.Schema.Reading
import ModuleAtlas.Text.Space
import ModuleAtlas.Text.Utf8
import ModuleAtlas.Disk

/-!
# What is analyzed

A configuration names the directories that are passed over and the endings of source files. Endings
are held in lower case with a leading dot, and match whatever the case of a file name.
-/
namespace ModuleAtlas

open Text

structure Config where
  excludedDirectoryNames : NameSet
  sourceExtensions : NameSet
  includeTypeDeclarationFiles : Bool
deriving DecidableEq, Inhabited

namespace Config

def defaultExcluded : List String := [".git", ".hg", ".svn", "node_modules", "dist", "build"]

def defaultExtensions : List String := [".ts", ".tsx", ".js", ".jsx"]

def typeDeclarationSuffixes : List String := [".d.ts", ".d.mts", ".d.cts"]

def standard : Config := ⟨.ofList defaultExcluded, .ofList defaultExtensions, false⟩

/-- An ending as it is compared: trimmed, in lower case and with a leading dot. An empty one does
not count. -/
def normalizeExtension? (e : String) : Option String :=
  match lower (trim e.toList) with
  | [] => none
  | '.' :: s => some (String.ofList ('.' :: s))
  | s => some (String.ofList ('.' :: s))

def normalizeExtensions (es : List String) : NameSet :=
  .ofList (es.filterMap normalizeExtension?)

/-- Whether a name in lower case ends in a text. -/
def endsIn (name : Name) (s : String) : Bool := (Glyph.ofText s.toList).isSuffixOf name

variable (c : Config)

/-- Whether a file of some name is analyzed. -/
def isSourceFile (name : Name) : Bool :=
  let lowered := Glyph.lower name
  c.sourceExtensions.toList.any (endsIn lowered) &&
    (c.includeTypeDeclarationFiles || !typeDeclarationSuffixes.any (endsIn lowered))

/-- Whether a directory of some name is passed over. -/
def excludes (name : Name) : Bool :=
  c.excludedDirectoryNames.toList.any fun s => Glyph.ofText s.toList = name

/-! ## As JSON -/

open Schema in
def read : Reading Config := readObject fun ms =>
  (fun excluded extensions declarations =>
      ⟨.ofList excluded, normalizeExtensions extensions, declarations⟩)
    <$> optional ms "excludedDirectoryNames" "excluded_directory_names" (readSet readString)
      defaultExcluded
    <*> optional ms "sourceExtensions" "source_extensions" (readSet readString) defaultExtensions
    <*> optional ms "includeTypeDeclarationFiles" "include_type_declaration_files" readBool false

def toJson : Json := .object
  [("excludedDirectoryNames", .ofStrings c.excludedDirectoryNames.toList),
   ("sourceExtensions", .ofStrings c.sourceExtensions.toList),
   ("includeTypeDeclarationFiles", .bool c.includeTypeDeclarationFiles)]

/-! ## Loading -/

inductive LoadFault
  | unreadable (f : Disk.ReadFault)
  | undecodable (f : Utf8.Fault)
  | invalid (fs : List Schema.Fault)

/-- Reads the configuration in a file; without a path it is the standard one. -/
def load (d : Disk) (path : Path) : Except LoadFault Config :=
  if path = [] then .ok standard
  else
    match d.readFile path with
    | .error f => .error (.unreadable f)
    | .ok bytes =>
      match Utf8.decode bytes with
      | .error f => .error (.undecodable f)
      | .ok text =>
        match Schema.readText read (String.ofList (Utf8.unifyLines text)) with
        | .ok c => .ok c
        | .faults fs => .error (.invalid fs)

end Config

end ModuleAtlas
