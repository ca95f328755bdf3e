import ModuleAtlas.Parse.Reading

/-!
# Reductions

A reduction takes the parts of a production off a branch and puts the rule in their place. Where
several ways lead down from the top, every one of them is reduced.
-/
namespace ModuleAtlas.Parse

open Grammar Stack

/-- How many branches may wait between two steps, and how many more within one. -/
def maxBranches : Nat := 6
def maxOverflow : Nat := 4

namespace Language

variable (l : Language)

/-- Of several readings of one text the best, with the extra pieces behind it. -/
def bestReading (production : Nat) (ways : List Slice) : Piece × List Piece :=
  let g := l.grammar
  let p := g.productions.getD production default
  let reading (w : Slice) : Piece × List Piece :=
    let (parts, trailing) := Piece.splitTrailing w.pieces
    (.join g (.rule p.rule) parts (some production), trailing)
  match ways with
  | [] => (.join g (.rule p.rule) [] (some production), [])
  | w :: rest =>
    rest.foldl
      (fun best w => let r := reading w; if Piece.better g best.1 r.1 then r else best)
      (reading w)

/-- Puts a rule in the place of its parts. The branches for all ways but one are new; the answer is
the first of the new ones. -/
def reduce (b production : Nat) : Parsing (Option Nat) := do
  let p := l.grammar.productions.getD production default
  let first ← Run.branchCount
  let slices ← Run.withStack fun s => s.popCount b p.steps.size
  let halted ← Run.ask fun s => (s.branches.filter Branch.isHalted).size
  let groups := slices.toList.splitBy fun v w => v.branch == w.branch
  let _ ← groups.foldlM
    (fun (removed : Nat) (ways : List Slice) => do
      let c := (ways.head?.elim 0 Slice.branch) - removed
      if c > maxBranches + maxOverflow + halted then
        Run.remove c
        return removed + 1
      let (piece, trailing) := l.bestReading production ways
      let next ← l.goto (← Run.topState c) p.rule
      Run.push c { piece with weight := piece.weight + p.weight } next
      for t in trailing do Run.push c t next
      let merged ← Run.mergeInto ((List.range c).filter (· ≠ b)) c
      return if merged then removed + 1 else removed)
    0
  return if first < (← Run.branchCount) then some first else none

/-- The tree of a whole text: the rule that was read, with the extra pieces around it among its
parts. -/
def wholeTree (pieces : List Piece) : Option Piece :=
  let (front, after) := Piece.splitTrailing pieces
  front.getLast?.map fun p =>
    .join l.grammar p.label (front.dropLast ++ p.parts ++ after) p.production

/-- Ends a branch at the end of the text. -/
def accept (b : Nat) (next : Piece) : Parsing Unit := do
  Run.push b next startState
  let slices ← Run.withStack fun s => s.popAll b
  for w in slices do
    if let some tree := l.wholeTree w.pieces then
      modify fun r =>
        let keep := r.finished.any fun old => !Piece.better l.grammar old tree
        { r with finished := if keep then r.finished else some tree, accepted := r.accepted + 1 }
  match slices[0]? with
  | some w => Run.remove w.branch
  | none => pure ()
  Run.halt b

/-- The reductions among some actions, one for each rule and length, and whether any of the actions
reads on. -/
def reductionsIn (actions : List Action) : Bool × List Nat :=
  let g := l.grammar
  let shape (n : Nat) : Nat × Nat :=
    let p := g.productions.getD n default
    (p.rule, p.steps.size)
  actions.foldl
    (fun (acc : Bool × List Nat) a => match a with
      | .shift _ false | .recover => (true, acc.2)
      | .reduce n =>
        if (shape n).2 = 0 || acc.2.any (fun m => shape m = shape n) then acc
        else (acc.1, acc.2 ++ [n])
      | _ => acc)
    (false, [])

/-- Carries out every reduction that some token allows, or that the given one does, on a branch and
on those that come from it. Branches that cannot read the given token are dropped. The answer tells
whether any branch can read on. -/
def reduceAll (b : Nat) (next : Option Nat) : Parsing Bool := do
  let first ← Run.branchCount
  let rec go : (fuel round c : Nat) → (reads : Bool) → Parsing Bool
    | 0, _, _, reads => return reads
    | fuel + 1, round, c, reads => do
      let count ← Run.branchCount
      if count ≤ c then return reads
      if ← Run.mergeInto ((List.range c).filter (first ≤ ·)) c then
        go fuel (round + 1) c reads
      else
        let state ← l.state (← Run.topState c)
        let actions := match next with
          | some t => state.actions.getD t []
          | none => (state.actions.toList.drop 1).flatten
        let (shifts, reductions) := l.reductionsIn actions
        let mut last : Option Nat := none
        for n in reductions do last ← l.reduce c n
        let onward := if c = b then count else c + 1
        match shifts, last with
        | true, _ => go fuel (round + 1) onward true
        | false, some d =>
          if round < maxBranches then
            Run.modifyStack fun s => s.renumber d c
            go fuel (round + 1) c reads
          else
            if next.isSome then Run.remove c
            go fuel (round + 1) onward reads
        | false, none =>
          if next.isSome then Run.remove c
          go fuel (round + 1) onward reads
  go 1000 0 b false

end Language

end ModuleAtlas.Parse
