/-!
# Trees of source files

A node has a kind, a text and children; a child may play a named role for its parent, its field.
Anonymous nodes are the bare tokens of the language.
-/
namespace ModuleAtlas

/-- A place in a text, both numbers counted from zero. Columns count bytes. -/
structure Place where
  row : Nat
  column : Nat
deriving Inhabited, BEq, DecidableEq

structure Tree where
  kind : String
  named : Bool
  field : Option String
  text : String
  children : List Tree
  /-- Whether the node is text that does not fit the grammar. -/
  isError : Bool
  /-- Whether the node stands for something that the text lacks. -/
  isMissing : Bool
  /-- Whether the node is marked as having an error in it. -/
  hasError : Bool
  place : Place
deriving Inhabited

namespace Tree

variable (t : Tree)

def namedChildren : List Tree := t.children.filter named

/-- The first child with a field. -/
def child? (field : String) : Option Tree :=
  t.children.find? fun c => c.field == some field

/-- The first named child of a kind. -/
def first? (kind : String) : Option Tree :=
  t.namedChildren.find? fun c => c.kind == kind

/-- Whether a token of a kind is among the children. -/
def hasToken (kind : String) : Bool :=
  t.children.any fun c => !c.named && c.kind == kind

/-- Whether the node itself is an error. -/
def isFault : Bool := t.isError || t.isMissing

/-! ## Numbers of nodes -/

mutual

def size : Tree → Nat
  | ⟨_, _, _, _, children, _, _, _, _⟩ => 1 + sizeIn children

def sizeIn : List Tree → Nat
  | [] => 0
  | t :: ts => size t + sizeIn ts

end

theorem size_eq (t : Tree) : t.size = 1 + sizeIn t.children := by
  cases t
  rfl

theorem sizeIn_append (ts us : List Tree) : sizeIn (ts ++ us) = sizeIn ts + sizeIn us := by
  induction ts with
  | nil => rw [List.nil_append, sizeIn, Nat.zero_add]
  | cons t ts ih => rw [List.cons_append, sizeIn, sizeIn, ih, Nat.add_assoc]

/-! ## The first error

A node without the error mark is not searched, so the mark decides where an error may be found.
-/

/-- The children of a node at a place. A place is given by the child numbers that lead to it, the
last one first. -/
def placedChildren (place : List Nat) (t : Tree) : List (List Nat × Tree) :=
  t.children.zipIdx.map fun x => (x.2 :: place, x.1)

theorem map_snd_placedChildren (place : List Nat) (t : Tree) :
    (t.placedChildren place).map Prod.snd = t.children := by
  rw [placedChildren, List.map_map]
  exact List.zipIdx_map_fst 0 t.children

/-- Searches trees at their places one after the other. The children of a marked node take its
place. The answer is the first error, with the child numbers that lead to it. -/
def search : List (List Nat × Tree) → Option (List Nat × Tree)
  | [] => none
  | (place, t) :: rest =>
    if t.isFault then some (place.reverse, t)
    else if t.hasError then search (t.placedChildren place ++ rest)
    else search rest
termination_by trees => sizeIn (trees.map Prod.snd)
decreasing_by
  · simp only [List.map_append, sizeIn_append, map_snd_placedChildren, List.map_cons, sizeIn,
      size_eq]
    omega
  · simp only [List.map_cons, sizeIn, size_eq]
    omega

/-- The child numbers that lead to the first error, and the error. -/
def firstFault? (t : Tree) : Option (List Nat × Tree) := search [([], t)]

end Tree

/-! ## Files that the grammar refuses

A tree with an error anywhere in it is refused. The fault names the place of the first error.
-/

/-- A place in a file, counted from one. -/
structure SyntaxFault where
  path : String
  line : Nat
  column : Nat
deriving DecidableEq, Inhabited, Repr

def SyntaxFault.message (f : SyntaxFault) : String :=
  s!"Syntax error in {f.path} at {f.line}:{f.column}"

/-- The tree of a file, if there is no error in it. -/
def Tree.check (path : String) (t : Tree) : Except SyntaxFault Tree :=
  if t.hasError then
    let fault := (t.firstFault?.map Prod.snd).getD t
    .error ⟨path, fault.place.row + 1, fault.place.column + 1⟩
  else .ok t

end ModuleAtlas
