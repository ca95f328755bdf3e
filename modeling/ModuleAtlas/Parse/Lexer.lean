import ModuleAtlas.Parse.Piece

/-!
# Reading one token

Blanks before a token are skipped, except that an immediate token starts where the last one ended.
Of the tokens that match, the longest is taken, unless a stronger one has already ended.
-/
namespace ModuleAtlas.Parse

open Grammar

structure Lexeme where
  token : Option Nat
  start : Extent
  stop : Extent
  /-- Where reading ended, also if nothing was found. -/
  reached : Extent
deriving Inhabited

namespace Lexer

structure Reading where
  position : Extent
  start : Extent
  /-- Whether blanks may still be skipped, and whether nothing else has been read. -/
  fresh : Bool
  onlyBlanks : Bool
  active : List Nat
  best : Option (Nat × Extent)

/-- The nodes behind a character, and the highest level among those that read it. -/
def moves (a : Automaton) (nodes : List Nat) (c : Char) : List Nat × Option Int :=
  nodes.foldl
    (fun (acc : List Nat × Option Int) n =>
      let node := a.nodes.getD n default
      if node.reads.has c then
        (node.targets.foldl (fun ts t => if ts.contains t then ts else t :: ts) acc.1,
          some (acc.2.elim node.level (max node.level)))
      else acc)
    ([], none)

/-- Whether reading goes on where a token has already ended. -/
def goesOn (a : Automaton) (k : Lookout) (ended : Nat × Int) (level : Int) (separates : Bool)
    (blank fresh : Bool) (targets : List Nat) : Bool :=
  if level < ended.2 then false
  else if ended.2 < level then true
  else if separates then false
  else
    !fresh || targets.any (fun t => (a.nodes.getD t default).token = ended.1) ||
      blank && k.afterBlank.testBit ended.1

def read (a : Automaton) (blanks : CharClass) (k : Lookout) (source : Source) (p : Extent) :
    Lexeme :=
  go (source.size - p.chars + 1) ⟨p, p, true, true, k.attached, none⟩
where
  finish (r : Reading) (best : Option (Nat × Extent)) : Lexeme :=
    match best with
    | some (t, stop) => ⟨some t, r.start, stop, r.position⟩
    | none => ⟨none, r.start, r.position, r.position⟩
  go : (fuel : Nat) → Reading → Lexeme
    | 0, r => finish r r.best
    | fuel + 1, r =>
      let ended := a.accepted r.active
      let best := ended.elim r.best fun e => some (e.1, r.position)
      match source.peek r.position with
      | none =>
        finish r (if k.atEnd && r.onlyBlanks then some (endToken, r.position) else best)
      | some c =>
        let blank := r.fresh && blanks.has c
        let nodes := if r.fresh then r.active ++ k.detached else r.active
        let (targets, level) := moves a nodes c
        let separates := level.isNone
        let strongest := level.elim 0 fun l => if blank then max l 0 else l
        if separates && !blank then finish r best
        else if ended.any fun e =>
            !goesOn a k e strongest separates blank r.fresh targets then finish r best
        else
          let next := r.position.past c
          go fuel
            { position := next
              start := if separates then next else r.start
              fresh := blank
              onlyBlanks := r.onlyBlanks && separates
              active := targets, best }

end Lexer

end ModuleAtlas.Parse
