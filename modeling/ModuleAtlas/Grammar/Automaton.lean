import ModuleAtlas.Grammar.Production

/-!
# The token automaton

The patterns of all tokens as one nondeterministic automaton. A node consumes a character of its
class or accepts its token; every node belongs to exactly one token.
-/
namespace ModuleAtlas.Grammar

inductive Move
  | consume (k : CharClass) (next : Nat)
  | split (a b : Nat)
  | accept
deriving Inhabited

structure LexNode where
  token : Nat
  level : Int
  accepts : Bool
  reads : CharClass
  /-- The nodes reached behind the character. -/
  targets : List Nat
deriving Inhabited

structure Automaton where
  nodes : Array LexNode
  /-- The nodes at which the reading of a token starts. -/
  starts : Array (List Nat)
  immediate : Array Bool
  /-- Decides between tokens of one level: a written-out literal beats a pattern. -/
  strength : Array Nat
deriving Inhabited

namespace Automaton

/-- Adds the moves of a pattern in front of a node and returns the first of them. -/
def chain : Pattern → (next : Nat) → StateM (Array Move) Nat
  | .empty, next => return next
  | .oneOf k, next => modifyGet fun ms => (ms.size, ms.push (.consume k next))
  | .seq p q, next => do chain p (← chain q next)
  | .alt p q, next => do
    let a ← chain p next
    let b ← chain q next
    modifyGet fun ms => (ms.size, ms.push (.split a b))
  | .star p, next => do
    let loop ← modifyGet fun (ms : Array Move) => (ms.size, ms.push .accept)
    let body ← chain p loop
    modify fun ms => ms.set! loop (.split body next)
    return loop

/-- The moves other than splits that a node stands for, added to those already found. -/
def resolve (moves : Array Move) : (fuel : Nat) → Nat → List Nat → List Nat
  | 0, _, found => found
  | fuel + 1, n, found =>
    match moves.getD n .accept with
    | .split a b => resolve moves fuel b (resolve moves fuel a found)
    | _ => if found.contains n then found else found ++ [n]

def patternOf (t : TokenRule) : Pattern :=
  match t.shape with
  | .literal s => .text s
  | .pattern p => p

/-- A literal is stronger than a pattern, and an immediate token stronger than one that is not. -/
def strengthOf (t : TokenRule) : Nat :=
  (match t.shape with
    | .literal _ => 2
    | .pattern _ => 0) + if t.immediate then 1 else 0

/-- The moves of every token, each with the token it belongs to, and the first move of each. -/
def assemble (tokens : Array Token) : Array Move × Array Nat × Array (Option Nat) :=
  tokens.zipIdx.foldl
    (fun (moves, owners, firsts) (t, i) =>
      match t.written with
      | none => (moves, owners, firsts.push none)
      | some w =>
        let (first, moves) := (chain (patternOf w) moves.size) (moves.push .accept)
        (moves, owners ++ Array.replicate (moves.size - owners.size) i, firsts.push (some first)))
    (#[], #[], #[])

def ofTokens (tokens : Array Token) : Automaton :=
  let (moves, owners, firsts) := assemble tokens
  let rule (i : Nat) : Option TokenRule := (tokens.getD i default).written
  let level (i : Nat) : Int := (rule i).elim 0 TokenRule.level
  { nodes := moves.zipIdx.map fun (m, n) =>
      let token := owners.getD n 0
      match m with
      | .consume k next => ⟨token, level token, false, k, resolve moves moves.size next []⟩
      | _ => ⟨token, level token, true, ⟨[]⟩, []⟩
    starts := firsts.map fun f => f.elim [] fun n => resolve moves moves.size n []
    immediate := tokens.map fun t => t.written.elim false TokenRule.immediate
    strength := tokens.map fun t => t.written.elim 0 strengthOf }

/-- Whether a token of one level is taken rather than another of the same text. -/
def prefers (a : Automaton) (l : Int) (t : Nat) (m : Int) (u : Nat) : Bool :=
  let (s, r) := (a.strength.getD t 0, a.strength.getD u 0)
  if l ≠ m then l > m else if s ≠ r then s > r else t < u

/-- The preferred token that a set of nodes accepts, with its level. -/
def accepted (a : Automaton) (active : List Nat) : Option (Nat × Int) :=
  active.foldl
    (fun best n =>
      let node := a.nodes.getD n default
      if node.accepts then
        match best with
        | some (t, l) => if a.prefers l t node.level node.token then best
                         else some (node.token, node.level)
        | none => some (node.token, node.level)
      else best)
    none

end Automaton

end ModuleAtlas.Grammar
