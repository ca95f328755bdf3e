import ModuleAtlas.Parse.Piece
import ModuleAtlas.Tree

/-!
# The tree that pieces stand for

Hidden pieces give way to their parts. A rule may show one of its parts under another name and may
give it a field; a field of a hidden part goes to the first node below it.
-/
namespace ModuleAtlas.Parse

open Grammar

namespace Piece

def kindOf (g : Grammar) : Label → String
  | .token t => (g.tokens.getD t default).name
  | .rule r => (g.rules.getD r default).name
  | .error => "ERROR"
  | .skipped => ""

/-- The step of a production that a part was read by. -/
def stepOf (g : Grammar) (production : Option Nat) (place : Nat) : Option Step :=
  production.bind fun n => (g.productions.getD n default).steps[place]?

def withField (f : Option String) : List Tree → List Tree
  | [] => []
  | t :: ts => { t with field := f.or t.field } :: ts

mutual

/-- The nodes that a piece stands for. -/
def nodes (g : Grammar) (text : String) (start : Extent) (step : Option Step) : Piece → List Tree
  | ⟨label, _, size, parts, production, cost, _, extra, missing, _, visible, _, _, _⟩ =>
    let step := if extra then none else step
    let as := step.bind Step.shownAs
    let field := step.bind Step.field
    let children := nodesOfParts g text production start 0 parts
    if visible || as.isSome then
      [{ kind := as.elim (kindOf g label) Alias.name
         named := as.elim (label.showing g == .named) Alias.named
         field
         text := String.Pos.Raw.extract text ⟨start.bytes⟩ ⟨start.bytes + size.bytes⟩
         children
         isError := label == .error
         isMissing := missing
         hasError := 0 < cost
         place := ⟨start.rows, start.column⟩ }]
    else withField field children

/-- The nodes of a row of parts, the first of which starts at a place. -/
def nodesOfParts (g : Grammar) (text : String) (production : Option Nat) (start : Extent)
    (place : Nat) : List Piece → List Tree
  | [] => []
  | p :: ps =>
    let behind := start + p.size
    let next := match ps with
      | q :: _ => behind + q.gap
      | [] => behind
    nodes g text start (stepOf g production place) p ++
      nodesOfParts g text production next (if p.extra then place else place + 1) ps

end

/-- The tree of a whole text. -/
def tree (g : Grammar) (text : String) (p : Piece) : Tree :=
  (nodes g text p.gap none { p with visible := true }).head?.getD default

end Piece

end ModuleAtlas.Parse
