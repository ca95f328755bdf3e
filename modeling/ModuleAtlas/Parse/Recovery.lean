import ModuleAtlas.Parse.Reduction

/-!
# Recovery

A branch that cannot read the next token does three things side by side: it supposes that a token is
missing, it returns to an earlier state that can read the token, and it skips the token. Costs
decide which of these ways is followed to the end.
-/
namespace ModuleAtlas.Parse

open Grammar

/-- What speaks for and against a branch. -/
structure Standing where
  cost : Nat
  /-- How far the branch has come since its last error. -/
  count : Nat
  weight : Int
  inError : Bool

inductive Preference
  | takeLeft | preferLeft | neither | preferRight | takeRight
deriving DecidableEq

/-- How much more a branch may cost than another before it is given up. -/
def maxDifference : Nat := 1800

namespace Standing

/-- A branch that is not in an error is preferred, then a cheaper one, then a heavier one. The
farther the cheaper branch has come, the sooner the other is given up. -/
def prefer (a b : Standing) : Preference :=
  if !a.inError && b.inError then if a.cost < b.cost then .takeLeft else .preferLeft
  else if a.inError && !b.inError then if b.cost < a.cost then .takeRight else .preferRight
  else if a.cost < b.cost then
    if (b.cost - a.cost) * (1 + a.count) > maxDifference then .takeLeft else .preferLeft
  else if b.cost < a.cost then
    if (a.cost - b.cost) * (1 + b.count) > maxDifference then .takeRight else .preferRight
  else if b.weight < a.weight then .preferLeft
  else if a.weight < b.weight then .preferRight
  else .neither

end Standing

namespace Run

def countSinceError (b : Nat) : Parsing Nat := withStack fun s => s.countSinceError b

def standing (b : Nat) : Parsing Standing := do
  let count ← countSinceError b
  ask fun s =>
    let paused := (s.branch b).isPaused
    let n := s.top b
    ⟨s.cost b + if paused then skippedPieceCost else 0, count, n.weight,
      paused || n.state = recoveryState⟩

/-- Whether another branch that has come as far makes it pointless to follow a branch at a cost. -/
def betterExists (b : Nat) (inError : Bool) (cost : Nat) : Parsing Bool := do
  if (← get).finished.any fun p => p.cost ≤ cost then return true
  let at' ← position b
  let own : Standing := ⟨cost, ← countSinceError b, (← ask fun s => s.top b).weight, inError⟩
  for i in List.range (← branchCount) do
    let rival ← branch i
    if i ≠ b && rival.isActive && at'.bytes ≤ (← position i).bytes then
      match own.prefer (← standing i) with
      | .takeRight => return true
      | .preferRight => if ← ask fun s => s.canMerge i b then return true
      | _ => pure ()
  return false

end Run

namespace Language

variable (l : Language)

/-- Gives up what lies above a state and returns to it. What is given up becomes an error, together
with an error that already lay there. -/
def returnTo (b depth state : Nat) : Parsing Bool := do
  let slices ← Run.withStack fun s => s.popCount b depth
  let last ← slices.foldlM
    (fun (last : Option Nat) w => do
      if last = some w.branch then return last
      if (← Run.topState w.branch) ≠ state then
        Run.halt w.branch
        return last
      let below ← Run.withStack fun s => match s.popError w.branch with
        | some (p, s) => (p.parts, s)
        | none => ([], s)
      let (parts, trailing) := Piece.splitTrailing (below ++ w.pieces)
      if !parts.isEmpty then
        Run.push w.branch { Piece.join l.grammar .error parts none with extra := true } state
      for t in trailing do Run.push w.branch t state
      return some w.branch)
    none
  return last.isSome

/-- Returns to the first landmark that can read the next piece, as long as no other branch is
better. -/
def returnToLandmark (b : Nat) (next : Piece) : Parsing Bool := do
  let count ← Run.branchCount
  let here ← Run.position b
  let since ← Run.countSinceError b
  let cost ← Run.ask fun s => s.cost b
  for m in (← Run.branch b).landmarks.getD #[] do
    if m.state ≠ recoveryState && m.position.bytes ≠ here.bytes then
      let taken ← Run.ask fun s => (List.range count).any fun i =>
        (s.top i).state = m.state && (s.top i).position.bytes = here.bytes
      if !taken then
        let price := cost + m.depth * skippedPieceCost +
          (here.bytes - m.position.bytes) * skippedByteCost +
          (here.rows - m.position.rows) * skippedLineCost
        if ← Run.betterExists b false price then return false
        if !(← l.actions m.state next.label).isEmpty then
          if ← l.returnTo b (if 0 < since then m.depth + 1 else m.depth) m.state then return true
  return false

/-- Drops the branches from a number on that are no longer active. -/
def dropInactive (first : Nat) : Parsing Unit :=
  Run.modifyStack fun s =>
    { s with
      branches := s.branches.extract 0 first ++
        (s.branches.extract first s.branches.size).filter Branch.isActive }

/-- Skips a piece; text that was skipped just before becomes part of what is skipped now. -/
def skipPiece (b : Nat) (next : Piece) (since : Nat) : Parsing Unit := do
  let g := l.grammar
  let skips := (← l.actions startState next.label).getLast? == some .skip
  let skipped := Piece.join g .skipped [{ next with extra := next.extra || skips }] none
  if since = 0 then Run.push b skipped recoveryState
  else
    let slices ← Run.withStack fun s => s.popCount b 1
    let w := slices.getD 0 default
    if 1 < slices.size then
      Run.modifyStack fun s => { s with branches := s.branches.extract 0 (w.branch + 1) }
    Run.modifyStack fun s => s.renumber w.branch b
    Run.push b (Piece.join g .skipped (w.pieces ++ [skipped]) none) recoveryState

/-- Goes on after an error, before a piece that could not be read. -/
def recover (b : Nat) (next : Piece) : Parsing Unit := do
  let count ← Run.branchCount
  let since ← Run.countSinceError b
  let cost ← Run.ask fun s => s.cost b
  let returned ← if next.label == .error then pure false else l.returnToLandmark b next
  dropInactive count
  if returned && maxBranches < (← Run.branchCount) then Run.halt b
  else if next.label == .token endToken then
    Run.push b (Piece.join l.grammar .error [] none) startState
    l.accept b next
  else
    let price := cost + skippedPieceCost + next.extent.bytes * skippedByteCost +
      next.extent.rows * skippedLineCost
    if ← Run.betterExists b false price then Run.halt b
    else l.skipPiece b next since

/-- Whether the first action before a token is a reduction. -/
def reducesBefore (n : Nat) (next : Label) : Parsing Bool := do
  match ← l.actions n next with
  | .reduce _ :: _ => return true
  | _ => return false

/-- Supposes that a token is missing: the first one behind which the next token leads on. -/
def supposeMissing (b : Nat) (next : Piece) : Parsing Bool := do
  let n ← Run.topState b
  let .token t := next.firstLeaf | return false
  for i in List.range l.grammar.tokens.size do
    if i ≠ endToken then
      let behind ← l.stateBehind n i
      if behind ≠ recoveryState && behind ≠ n then
        if ← l.reducesBefore behind next.firstLeaf then
          let c ← Run.branchCount
          Run.modifyStack fun s => s.copy b
          Run.push c (Piece.absent l.grammar i) behind
          if ← l.reduceAll c (if t = endToken then none else some t) then return true
  return false

/-- Meets an error on a branch: carries out all reductions there are, supposes a missing token on
the first branch that allows it, marks the error on all of them, and recovers. -/
def meetError (b : Nat) (next : Piece) : Parsing Unit := do
  let first ← Run.branchCount
  let _ ← l.reduceAll b none
  let count ← Run.branchCount
  let _ ← (b :: (List.range count).filter (first ≤ ·)).foldlM
    (fun (supposed : Bool) c => do
      let supposed ← if supposed then pure true else l.supposeMissing c next
      Run.modifyStack fun s => s.push c none recoveryState
      return supposed)
    false
  for _ in List.range (count - first) do
    let _ ← Run.mergeInto [b] first
  Run.modifyStack fun s => s.recordLandmarks b
  l.recover b next

end Language

end ModuleAtlas.Parse
