import ModuleAtlas.Parse.Run

/-!
# The next piece of the text

A branch asks for the token that its state looks for. If there is none, any token will do that
leads out of an error; text before the first such token is one unreadable piece.
-/
namespace ModuleAtlas.Parse

open Grammar

namespace Language

variable (l : Language) (source : Source)

/-- What the scanner finds. An empty token is of no use to a branch that recovers, that has read
nothing since its last error, or that the token would leave in its state. -/
def scanToken (b n : Nat) (recovering : Bool) (k : Lookout) (p : Extent) :
    Parsing (Option (Nat × Extent × Extent)) := do
  let scanned := l.grammar.scanned
  match l.scan source (fun i => k.valid.testBit (scanned.getD i endToken)) p with
  | some (i, start, stop) =>
    let t := scanned.getD i endToken
    if p.bytes < stop.bytes then return some (t, start, stop)
    let stays := (← l.stateBehind n t) = n
    let advanced ← Run.ask fun s => s.hasAdvanced b
    return if recovering || !advanced || stays then none else some (t, start, stop)
  | none => return none

/-- The text between two places. -/
def between (start stop : Extent) : String :=
  String.ofList (source.extract start.chars stop.chars).toList

/-- A word that is a keyword counts as one where the state can read it. -/
def asKeyword (n t : Nat) (start stop : Extent) : Parsing (Nat × Bool) := do
  if t ≠ wordToken then return (t, false)
  match l.machine.keywords[between source start stop]? with
  | some k => return (if (← l.actions n (.token k)).isEmpty then t else k, true)
  | none => return (t, false)

/-- A byte order mark at the start of the text is no part of it. -/
def afterMark (p : Extent) : Extent :=
  if p.chars = 0 && source.peek p = some '\uFEFF' then source.step p else p

/-- Looks for a token from a place on; `unread` is the text passed over so far. -/
def readFrom (b n : Nat) (origin : Extent) : (fuel : Nat) → (recovering : Bool) →
    (unread : Option (Extent × Extent)) → Extent → Parsing Piece
  | 0, _, _, p => return Piece.token l.grammar .error (p.since origin) .zero false
  | fuel + 1, recovering, unread, p => do
    let k := (← l.state (if recovering then recoveryState else n)).lookout
    let place := afterMark source p
    let found ← l.scanToken source b n recovering k place
    let lexeme := Lexer.read l.machine.automaton l.grammar.blanks k source place
    let ended (unread : Extent × Extent) : Piece :=
      .token l.grammar .error (unread.1.since origin) (unread.2.since unread.1) false
    match found, lexeme.token, unread with
    | some (t, start, stop), _, none =>
      return .token l.grammar (.token t) (start.since origin) (stop.since start) false
    | none, some t, none =>
      let (t, keyword) ← l.asKeyword source n t lexeme.start lexeme.stop
      return .token l.grammar (.token t) (lexeme.start.since origin)
        (lexeme.stop.since lexeme.start) keyword
    | some _, _, some unread | none, some _, some unread => return ended unread
    | none, none, _ =>
      if !recovering then readFrom b n origin fuel true unread origin
      else
        let unread := unread.getD (lexeme.start, lexeme.start)
        if lexeme.reached.bytes ≠ unread.2.bytes then
          readFrom b n origin fuel true (some (unread.1, lexeme.reached)) lexeme.reached
        else if (source.peek lexeme.reached).isNone then return ended unread
        else
          let next := source.step lexeme.reached
          readFrom b n origin fuel true (some (unread.1, next)) next

/-- The next piece for a branch in a state. -/
def read (b n : Nat) : Parsing Piece := do
  let origin ← Run.position b
  l.readFrom source b n origin (source.size + 3 - origin.chars) (n = recoveryState) none origin

end Language

end ModuleAtlas.Parse
