import ModuleAtlas.Parse.Stack
import ModuleAtlas.Parse.Lexer

/-!
# A run of the parser

A run holds the table as far as it has been built, the stack with its branches, and the best tree
found so far.
-/
namespace ModuleAtlas.Parse

open Grammar

/-- A parse table under construction and the rule for what only a scanner finds. The scanner is told
which of its tokens are valid and answers with one of them and its place. -/
structure Language where
  machine : Machine
  scan : Source → (Nat → Bool) → Extent → Option (Nat × Extent × Extent)

structure Run where
  table : Table
  stack : Stack
  finished : Option Piece
  /-- The number of trees found so far. -/
  accepted : Nat

abbrev Parsing := StateM Run

namespace Run

/-- Reads something off the stack. -/
def ask {α : Type} (f : Stack → α) : Parsing α := modifyGet fun r => (f r.stack, r)

def modifyStack (f : Stack → Stack) : Parsing Unit := modify fun r => { r with stack := f r.stack }

def withStack {α : Type} (f : Stack → α × Stack) : Parsing α := modifyGet fun r =>
  let (a, stack) := f r.stack
  (a, { r with stack })

def branchCount : Parsing Nat := ask fun s => s.branches.size

def branch (b : Nat) : Parsing Branch := ask fun s => s.branch b

def topState (b : Nat) : Parsing Nat := ask fun s => (s.top b).state

def position (b : Nat) : Parsing Extent := ask fun s => (s.top b).position

def push (b : Nat) (p : Piece) (state : Nat) : Parsing Unit :=
  modifyStack fun s => s.push b (some p) state

def remove (b : Nat) : Parsing Unit := modifyStack fun s => s.remove b

def halt (b : Nat) : Parsing Unit := modifyStack fun s => s.halt b

/-- Joins a branch to the first of some others that it can be joined to, and tells whether there is
one. -/
def mergeInto (others : List Nat) (b : Nat) : Parsing Bool := do
  match ← ask fun s => others.find? fun a => s.canMerge a b with
  | some a =>
    modifyStack fun s => s.merge a b
    return true
  | none => return false

end Run

namespace Language

variable (l : Language)

def grammar : Grammar := l.machine.grammar

/-- A state of the table with its actions. -/
def state (n : Nat) : Parsing State := modifyGet fun r =>
  let table := r.table.ensure l.machine n
  (table.states.getD n default, { r with table })

/-- The actions before a token. Text that is no token has none. -/
def actions (n : Nat) : Label → Parsing (List Action)
  | .token t => do return (← l.state n).actions.getD t []
  | _ => return []

/-- The state behind a token, which is the one of the last action, or zero if it is not read. -/
def stateBehind (n t : Nat) : Parsing Nat := do
  match (← l.actions n (.token t)).getLast? with
  | some (.shift m _) => return m
  | some .skip => return n
  | _ => return 0

/-- The state behind a rule. -/
def goto (n r : Nat) : Parsing Nat := do return (← l.state n).gotos.getD r 0

end Language

end ModuleAtlas.Parse
