/-!
# Kinds of imports, exports, edges and warnings

Each kind has one spelling in reports.
-/
namespace ModuleAtlas

/-- A finite type with a spelling for each of its values. -/
class Spelled (α : Type) where
  all : List α
  text : α → String

export Spelled (text)

/-- The value with a spelling. -/
def Spelled.ofText? {α : Type} [Spelled α] (s : String) : Option α :=
  (all (α := α)).find? fun a => text a == s

inductive ImportKind
  | byDefault
  | named
  | wholeModule
  | sideEffect
deriving DecidableEq, Inhabited, Repr

instance : Spelled ImportKind where
  all := [.byDefault, .named, .wholeModule, .sideEffect]
  text
    | .byDefault => "default"
    | .named => "named"
    | .wholeModule => "namespace"
    | .sideEffect => "side-effect"

inductive ExportKind
  | byDefault
  | named
  | wholeModule
  | function
  | classType
  | interfaceType
  | typeAlias
deriving DecidableEq, Inhabited, Repr

instance : Spelled ExportKind where
  all :=
    [.byDefault, .named, .wholeModule, .function, .classType, .interfaceType, .typeAlias]
  text
    | .byDefault => "default"
    | .named => "named"
    | .wholeModule => "namespace"
    | .function => "function"
    | .classType => "class"
    | .interfaceType => "interface"
    | .typeAlias => "type"

/-- The statement that an edge comes from. -/
inductive EdgeOrigin
  | importing
  | exporting
deriving DecidableEq, Inhabited, Repr

instance : Spelled EdgeOrigin where
  all := [.importing, .exporting]
  text
    | .importing => "import"
    | .exporting => "export"

inductive WarningKind
  | subtreeRead
  | fileRead
  | parse
deriving DecidableEq, Inhabited, Repr

instance : Spelled WarningKind where
  all := [.subtreeRead, .fileRead, .parse]
  text
    | .subtreeRead => "subtree-read"
    | .fileRead => "file-read"
    | .parse => "parse"

end ModuleAtlas
