import ModuleAtlas.Parse.Piece

/-!
# The stack with branches

Where the grammar leaves several ways open, the parser follows them side by side. All ways share
one graph of nodes: a node has a state of the table and links to the nodes below it, each link
holding the piece between them. A branch is one way, named by its topmost node.
-/
namespace ModuleAtlas.Parse

open Grammar

/-- A link without a piece marks the place where an error was met. -/
structure Link where
  node : Nat
  piece : Option Piece
deriving Inhabited

structure Node where
  state : Nat
  position : Extent
  links : Array Link
  cost : Nat
  count : Nat
  weight : Int
deriving Inhabited

inductive Status
  | active
  /-- Stopped before a token that has no action. -/
  | paused (next : Piece)
  | halted
deriving Inhabited

/-- A state below the top of a branch that recovery may return to. -/
structure Landmark where
  position : Extent
  depth : Nat
  state : Nat
deriving Inhabited

structure Branch where
  node : Nat
  landmarks : Option (Array Landmark)
  /-- The count of the node at which the last error was met. -/
  countAtError : Nat
  status : Status
deriving Inhabited

structure Stack where
  nodes : Array Node
  branches : Array Branch
deriving Inhabited

/-- How many links a node may have, and how many ways down are followed at once. -/
def maxLinks : Nat := 8
def maxWays : Nat := 64

namespace Branch

def isActive (b : Branch) : Bool := match b.status with
  | .active => true
  | _ => false

def isPaused (b : Branch) : Bool := match b.status with
  | .paused _ => true
  | _ => false

def isHalted (b : Branch) : Bool := match b.status with
  | .halted => true
  | _ => false

end Branch

namespace Stack

def empty : Stack :=
  ⟨#[⟨startState, .zero, #[], 0, 0, 0⟩], #[⟨0, none, 0, .active⟩]⟩

variable (s : Stack)

def node (n : Nat) : Node := s.nodes.getD n default

def branch (b : Nat) : Branch := s.branches.getD b default

def top (b : Nat) : Node := s.node (s.branch b).node

def modifyBranch (b : Nat) (f : Branch → Branch) : Stack :=
  { s with branches := s.branches.modify b f }

def remove (b : Nat) : Stack := { s with branches := s.branches.eraseIdxIfInBounds b }

def halt (b : Nat) : Stack := s.modifyBranch b fun x => { x with status := .halted }

/-- A new node on top of a branch. Without a piece the node marks an error. -/
def push (b : Nat) (piece : Option Piece) (state : Nat) : Stack :=
  let below := s.branch b
  let n := s.node below.node
  let links := #[Link.mk below.node piece]
  let n : Node := match piece with
    | some p =>
      { state, links, position := n.position + p.extent, cost := n.cost + p.cost
        count := n.count + p.count, weight := n.weight + p.weight }
    | none => { n with state, links }
  let self := s.nodes.size
  let branches := s.branches.modify b fun x =>
    { x with node := self, countAtError := if piece.isNone then n.count else x.countAtError }
  { nodes := s.nodes.push n, branches }

/-- A branch that waits after an error costs as much as the recovery it will need. -/
def cost (b : Nat) : Nat :=
  let n := s.top b
  let waits := (s.branch b).isPaused ||
    n.state = recoveryState && (n.links[0]?.bind Link.piece).isNone
  n.cost + if waits then recoveryCost else 0

/-- How far a branch has come since the last error. A branch that has fewer pieces than it had then
starts to count anew. -/
def countSinceError (b : Nat) : Nat × Stack :=
  let x := s.branch b
  let n := (s.node x.node).count
  if n < x.countAtError then (0, s.modifyBranch b fun y => { y with countAtError := n })
  else (n - x.countAtError, s)

/-- Whether two pieces between the same nodes need not be told apart. -/
def equivalent : Option Piece → Option Piece → Bool
  | none, none => true
  | some p, some q =>
    p.label == q.label &&
      (0 < p.cost && 0 < q.cost ||
       p.gap.bytes = q.gap.bytes && p.size.bytes = q.size.bytes &&
       p.parts.length = q.parts.length && p.extra == q.extra)
  | _, _ => false

def weightOf (p : Option Piece) : Int := p.elim 0 Piece.weight

/-- Joins a link to those of a node. A link to the same node keeps the heavier piece; nodes that
agree become one; all else stays apart as long as there is room. -/
def addLink : (fuel : Nat) → Array Node → (self : Nat) → Link → Array Node
  | 0, nodes, _, _ => nodes
  | fuel + 1, nodes, self, link =>
    if link.node = self then nodes
    else
      let below := nodes.getD link.node default
      let n := nodes.getD self default
      let joins (old : Link) : Bool :=
        equivalent old.piece link.piece &&
          (old.node = link.node ||
            let o := nodes.getD old.node default
            o.state = below.state && o.position.bytes = below.position.bytes &&
              o.cost = below.cost)
      match n.links.findIdx? joins with
      | some i =>
        let old := n.links.getD i default
        if old.node = link.node then
          if weightOf old.piece < weightOf link.piece then
            nodes.set! self { n with
              links := n.links.set! i link
              weight := below.weight + weightOf link.piece }
          else nodes
        else
          let nodes := below.links.foldl (fun ns l => addLink fuel ns old.node l) nodes
          nodes.modify self fun n =>
            { n with weight := max n.weight (below.weight + weightOf link.piece) }
      | none =>
        if maxLinks ≤ n.links.size then nodes
        else
          nodes.set! self { n with
            links := n.links.push link
            count := max n.count (below.count + link.piece.elim 0 Piece.count)
            weight := max n.weight (below.weight + weightOf link.piece) }

/-- Whether two branches have come to the same state at the same place at the same cost. -/
def canMerge (a b : Nat) : Bool :=
  let (x, y) := (s.top a, s.top b)
  (s.branch a).isActive && (s.branch b).isActive && x.state = y.state &&
    x.position.bytes = y.position.bytes && x.cost = y.cost

/-- Joins the second branch to the first, which has come to the same state at the same place. -/
def merge (a b : Nat) : Stack :=
  let self := (s.branch a).node
  let links := (s.top b).links
  let nodes := links.foldl (fun ns l => addLink ns.size ns self l) s.nodes
  let n := nodes.getD self default
  let branches := if n.state = recoveryState then
      s.branches.modify a fun x => { x with countAtError := n.count }
    else s.branches
  Stack.remove ⟨nodes, branches⟩ b

/-- Moves a branch to the place of an earlier one, which it replaces. -/
def renumber (a b : Nat) : Stack :=
  if a = b then s
  else
    let (x, y) := (s.branch a, s.branch b)
    Stack.remove
      { s with branches := s.branches.set! b { x with landmarks := x.landmarks.or y.landmarks } } a

def copy (b : Nat) : Stack :=
  { s with branches := s.branches.push { s.branch b with landmarks := none } }

/-! ## Ways down -/

/-- A way from the top of a branch to a node, with the pieces on it from below upwards. -/
structure Way where
  node : Nat
  pieces : List Piece
  /-- The number of pieces that are not extra. -/
  depth : Nat
deriving Inhabited

/-- What is done at a node: whether the way is taken, and whether it ends there. -/
structure Visit where
  take : Bool
  stop : Bool

def Way.along (w : Way) (l : Link) : Way :=
  match l.piece with
  | some p => ⟨l.node, p :: w.pieces, if p.extra then w.depth else w.depth + 1⟩
  | none => ⟨l.node, w.pieces, w.depth + 1⟩

/-- One step down all ways. A way goes on along its node's first link; ways along other links are
followed behind those already there. -/
def descend {σ : Type} (visit : σ → Way → σ × Visit) (ways : Array Way) (acc : σ)
    (taken : Array Way) : Array Way × σ × Array Way :=
  let start : Array Way × Array Way × σ × Array Way := (#[], #[], acc, taken)
  let (onward, branched, acc, taken) := ways.foldl
    (fun (onward, branched, acc, taken) w =>
      let n := s.node w.node
      let (acc, v) := visit acc w
      let taken := if v.take then taken.push w else taken
      if v.stop || n.links.isEmpty then (onward, branched, acc, taken)
      else
        let room := maxWays - (ways.size + branched.size)
        let others := (n.links.extract 1 n.links.size).extract 0 room
        (onward.push (w.along (n.links.getD 0 default)), branched ++ others.map w.along, acc,
          taken))
    start
  (onward ++ branched, acc, taken)

/-- Follows all ways down from a node until each has ended. -/
def explore {σ : Type} (visit : σ → Way → σ × Visit) (b : Nat) (acc : σ) : σ × Array Way :=
  go s.nodes.size #[⟨(s.branch b).node, [], 0⟩] acc #[]
where
  go : (fuel : Nat) → Array Way → σ → Array Way → σ × Array Way
    | 0, _, acc, taken => (acc, taken)
    | fuel + 1, ways, acc, taken =>
      if ways.isEmpty then (acc, taken)
      else
        let (ways, acc, taken) := s.descend visit ways acc taken
        go fuel ways acc taken

/-- A way that was taken, and the branch that now ends at its node. -/
structure Slice where
  pieces : List Piece
  branch : Nat
deriving Inhabited

/-- Opens a branch for the node of each way; ways to one node share their branch. -/
def openBranches (origin : Nat) (ways : Array Way) : Array Slice × Stack :=
  ways.foldl
    (fun (slices, s) w =>
      match (slices.zipIdx.filter fun (e : Slice × Nat) =>
          (s.branch e.1.branch).node = w.node).back? with
      | some (e, i) => (slices.insertIdxIfInBounds (i + 1) ⟨w.pieces, e.branch⟩, s)
      | none =>
        let b : Branch := ⟨w.node, none, (s.branch origin).countAtError, .active⟩
        (slices.push ⟨w.pieces, s.branches.size⟩,
          { s with branches := s.branches.push b }))
    (#[], s)

/-- The ways that pass a number of pieces. -/
def popCount (b count : Nat) : Array Slice × Stack :=
  let visit (_ : Unit) (w : Way) : Unit × Visit :=
    let done := decide (w.depth = count)
    ((), ⟨done, done⟩)
  s.openBranches b (s.explore visit b ()).2

/-- The ways to the bottom. -/
def popAll (b : Nat) : Array Slice × Stack :=
  let visit (_ : Unit) (w : Way) : Unit × Visit :=
    ((), ⟨(s.node w.node).links.isEmpty, false⟩)
  s.openBranches b (s.explore visit b ()).2

/-- Takes an error off the top of a branch. -/
def popError (b : Nat) : Option (Piece × Stack) :=
  let isError (l : Link) : Bool := l.piece.any fun p => p.label == .error
  if (s.top b).links.any isError then
    let visit (found : Bool) (w : Way) : Bool × Visit :=
      match w.pieces with
      | [] => (found, ⟨false, false⟩)
      | p :: _ =>
        if !found && p.label == .error then (true, ⟨true, true⟩) else (found, ⟨false, true⟩)
    let (slices, t) := s.openBranches b (s.explore visit b false).2
    slices[0]?.bind fun e => e.pieces.head?.map fun p => (p, t.renumber e.branch b)
  else none

/-- How deep below the top a state may lie to be returned to. -/
def maxDepth : Nat := 16

/-- Notes the states below the top of a branch, once for each depth. -/
def recordLandmarks (b : Nat) : Stack :=
  let visit (acc : Array Landmark) (w : Way) : Array Landmark × Visit :=
    let n := s.node w.node
    if w.depth > maxDepth then (acc, ⟨false, true⟩)
    else if acc.any fun l => l.depth = w.depth && l.state = n.state then (acc, ⟨false, false⟩)
    else (acc.push ⟨n.position, w.depth, n.state⟩, ⟨false, false⟩)
  let (found, _) := s.explore visit b #[]
  s.modifyBranch b fun x => { x with landmarks := some found }

/-- Whether a branch has read anything since its last error, if it has met one. -/
def hasAdvanced (b : Nat) : Bool :=
  (s.top b).cost = 0 || go s.nodes.size (s.branch b).node
where
  go : (fuel : Nat) → Nat → Bool
    | 0, _ => false
    | fuel + 1, i =>
      let n : Node := s.node i
      let link : Link := n.links.getD 0 default
      match link.piece with
      | some p =>
        if 0 < p.extent.bytes then true
        else if (s.branch b).countAtError < n.count && p.cost = 0 then go fuel link.node
        else false
      | none => false

end Stack

end ModuleAtlas.Parse
