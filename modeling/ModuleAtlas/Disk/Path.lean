import ModuleAtlas.Text.Glyph

/-!
# Paths

A path is a row of glyphs with slashes in it. The operations here are on paths as they are written
and never look at a disk.
-/
namespace ModuleAtlas

open Text

abbrev Path := List Glyph

namespace Path

def ofText (s : String) : Path := Glyph.ofText s.toList

def toText (p : Path) : String := String.ofList (Glyph.text p)

def slash : Glyph := .char '/'

def dot : Glyph := .char '.'

def components (p : Path) : List Path := p.splitOn slash

def ofComponents (cs : List Path) : Path := List.intercalate [slash] cs

def isAbsolute (p : Path) : Bool := p.head? = some slash

def hasNul (p : Path) : Bool := p.contains (.char '\x00')

def byteLength (p : Path) : Nat := (Glyph.toBytes p).length

/-- A path seen from a directory; an absolute path stays as it is. -/
def join (directory p : Path) : Path :=
  if isAbsolute p then p
  else if directory.isEmpty || directory.getLast? = some slash then directory ++ p
  else directory ++ slash :: p

/-- The slashes that a path keeps at its start: two are kept, more become one. -/
def leadingSlashes (p : Path) : Nat :=
  match (p.takeWhile (· = slash)).length with
  | 0 => 0
  | 2 => 2
  | _ => 1

def parent : Path := [dot, dot]

/-- Adds a component to those before it, which are held in reverse. Going up from a component takes
it away; at the root there is nothing above. -/
def climb (rooted : Bool) (before : List Path) (c : Path) : List Path :=
  if c = [] ∨ c = [dot] then before
  else if c = parent then
    match before with
    | [] => if rooted then [] else [c]
    | b :: rest => if b = parent then c :: b :: rest else rest
  else c :: before

/-- The components of a path without those that cancel out. -/
def essential (p : Path) : List Path :=
  (p.components.foldl (climb (p.leadingSlashes ≠ 0)) []).reverse

/-- The shortest spelling of a path. -/
def normalize (p : Path) : Path :=
  match List.replicate p.leadingSlashes slash ++ ofComponents p.essential with
  | [] => [dot]
  | q => q

def absolute (workingDirectory p : Path) : Path := normalize (join workingDirectory p)

/-- The length of the longest common start. -/
def commonLength : List Path → List Path → Nat
  | a :: as, b :: bs => if a = b then commonLength as bs + 1 else 0
  | _, _ => 0

/-- The way from one place to another, both given by their components. -/
def way (start target : List Path) : List Path :=
  let n := commonLength start target
  List.replicate (start.length - n) parent ++ target.drop n

/-- The way from a root to a path. -/
def relative (workingDirectory root p : Path) : Path :=
  let place (q : Path) : List Path :=
    ((absolute workingDirectory q).components).filter fun c => !c.isEmpty
  match way (place root) (place p) with
  | [] => [dot]
  | cs => ofComponents cs

end Path

end ModuleAtlas
