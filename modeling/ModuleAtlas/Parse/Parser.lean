import ModuleAtlas.Parse.Recovery

/-!
# The parser

The branches take turns: each reads on until it is ahead of those before it. After each round the
worse branches are dropped, and one of those that stopped before an unreadable token recovers.
-/
namespace ModuleAtlas.Parse

open Grammar

namespace Language

variable (l : Language) (source : Source)

/-- Carries out the actions before a piece until it is read or the branch stops. -/
def readPiece (b : Nat) : (fuel : Nat) → (n : Nat) → (next : Piece) → List Action → Parsing Unit
  | 0, _, _, _ => Run.halt b
  | fuel + 1, n, next, actions => do
    match actions.findIdx? isFinal with
    | some i =>
      let _ ← reductions (actions.take i)
      match actions.getD i .recover with
      | .shift m _ => Run.push b { next with extra := false } m
      | .skip => Run.push b { next with extra := true } n
      | .accept => l.accept b next
      | _ => l.recover b next
    | none =>
      match ← reductions actions with
      | some c =>
        Run.modifyStack fun s => s.renumber c b
        let n ← Run.topState b
        readPiece b fuel n next (← l.actions n next.firstLeaf)
      | none =>
        if actions.any isReduction then Run.halt b
        else
          let asWord ← if next.keyword then l.actions n (.token wordToken) else pure []
          if !asWord.isEmpty && next.label != .token wordToken then
            let word := Piece.token l.grammar (.token wordToken) next.gap next.size next.keyword
            readPiece b fuel n word asWord
          else if n = recoveryState then l.recover b next
          else Run.modifyStack fun s => s.modifyBranch b fun x => { x with status := .paused next }
where
  isFinal : Action → Bool
    | .shift _ repeated => !repeated
    | .reduce _ => false
    | _ => true
  isReduction : Action → Bool
    | .reduce _ => true
    | _ => false
  reductions (actions : List Action) : Parsing (Option Nat) :=
    actions.foldlM
      (fun (last : Option Nat) a => match a with
        | .reduce p => return (← l.reduce b p).or last
        | _ => return last)
      none

/-- Reads the next piece on a branch. -/
def advance (b : Nat) : Parsing Unit := do
  let n ← Run.topState b
  let next ← l.read source b n
  l.readPiece b (1000 + 100 * source.size) n next (← l.actions n next.label)

/-- Advances a branch until it is ahead of the place that branches have come to. -/
def advanceBeyond (b : Nat) : (fuel : Nat) → (reached : Nat) → Parsing Nat
  | 0, reached => return reached
  | fuel + 1, reached => do
    if !(← Run.branch b).isActive then return reached
    l.advance source b
    let p := (← Run.position b).bytes
    if reached < p || 0 < b && p = reached then return p
    if (← Run.branchCount) ≤ b then return reached
    advanceBeyond b fuel reached

/-- Advances all branches, also those that are opened on the way. -/
def advanceAll : (fuel b reached : Nat) → Parsing Nat
  | 0, _, reached => return reached
  | fuel + 1, b, reached => do
    if (← Run.branchCount) ≤ b then return reached
    let reached ← l.advanceBeyond source b (1000 + 100 * source.size) reached
    advanceAll fuel (b + 1) reached

/-- Compares a branch with those before it; the answer is the number of the branch to go on with. -/
def contest (standing : Standing) : (fuel b rival : Nat) → Parsing Nat
  | 0, b, _ => return b + 1
  | fuel + 1, b, rival => do
    if b ≤ rival then return b + 1
    match (← Run.standing rival).prefer standing with
    | .takeLeft =>
      Run.remove b
      return b
    | .preferLeft | .neither =>
      if ← Run.mergeInto [rival] b then return b
      contest standing fuel b (rival + 1)
    | .preferRight =>
      if ← Run.mergeInto [rival] b then return b
      Run.modifyStack fun s => { s with branches := s.branches.swapIfInBounds b rival }
      contest standing fuel b (rival + 1)
    | .takeRight =>
      Run.remove rival
      contest standing fuel (b - 1) rival

/-- Drops the branches that others are preferred to; the answer is the least cost of a branch that
is not in an error. -/
def dropWorse : (fuel b : Nat) → (least : Option Nat) → Parsing (Option Nat)
  | 0, _, least => return least
  | fuel + 1, b, least => do
    let count ← Run.branchCount
    if count ≤ b then return least
    if (← Run.branch b).isHalted then
      Run.remove b
      dropWorse fuel b least
    else
      let standing ← Run.standing b
      let least :=
        if standing.inError then least else some (least.elim standing.cost (min standing.cost))
      dropWorse fuel (← contest standing (2 * count) b 0) least

/-- Lets the first of the paused branches recover unless a better branch goes on; all other paused
branches are dropped. -/
def resumePaused : (fuel : Nat) → (count b : Nat) → (goesOn : Bool) → (least : Option Nat) →
    Parsing (Option Nat)
  | 0, _, _, _, least => return least
  | fuel + 1, count, b, goesOn, least => do
    if count ≤ b then return least
    match (← Run.branch b).status with
    | .paused next =>
      if !goesOn && (← get).accepted < maxBranches then
        let cost ← Run.ask fun s => s.cost b
        Run.modifyStack fun s => s.modifyBranch b fun x => { x with status := .active }
        l.meetError b next
        resumePaused fuel count (b + 1) true (some cost)
      else
        Run.remove b
        resumePaused fuel (count - 1) b goesOn least
    | _ => resumePaused fuel count (b + 1) true least

/-- Reduces the branches to those worth following. -/
def condense : Parsing (Option Nat) := do
  let count ← Run.branchCount
  let least ← dropWorse (2 * count + 1) 0 none
  Run.modifyStack fun s => { s with branches := s.branches.extract 0 maxBranches }
  let count ← Run.branchCount
  l.resumePaused (count + 1) count 0 false least

/-- Goes on until no branch is left that could be cheaper than the best tree. -/
def rounds : (fuel reached : Nat) → Parsing Unit
  | 0, _ => return
  | fuel + 1, reached => do
    let reached ← l.advanceAll source (1000 + 100 * source.size) 0 reached
    let least ← l.condense
    if (← get).finished.any fun p => least.all (p.cost < ·) then return
    if (← Run.branchCount) = 0 then return
    rounds fuel reached

/-- The tree of a text, and the table with the states that the text has reached. -/
def parse (table : Table) : Option Piece × Table :=
  let (_, run) := l.rounds source (1000 + 100 * source.size) 0 ⟨table, .empty, none, 0⟩
  (run.finished, run.table)

end Language

end ModuleAtlas.Parse
