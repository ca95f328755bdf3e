import ModuleAtlas.Grammar.Rule
import Std.Data.HashMap

/-!
# Productions

A definition is reduced to numbered tokens and numbered rules with plain productions: repetition
becomes a rule of its own, choices become separate productions, and inlined rules disappear.
-/
namespace ModuleAtlas.Grammar

inductive Symbol
  | token (i : Nat)
  | rule (i : Nat)
deriving BEq, Hashable, Inhabited, DecidableEq

/-- Whether a node stands in the tree, and whether it counts as a named one there. -/
inductive Showing
  | hidden | anonymous | named
deriving BEq, Inhabited, DecidableEq

structure Token where
  name : String
  showing : Showing
  /-- How the token is written; none for the end of the text and for what only a scanner finds. -/
  written : Option TokenRule
deriving Inhabited

structure RuleInfo where
  name : String
  showing : Showing
  /-- Whether the rule stands for a repetition inside other rules. -/
  repetition : Bool
deriving Inhabited

structure Step where
  symbol : Symbol
  rank : Option Rank
  side : Option Side
  shownAs : Option Alias
  field : Option String
deriving BEq, Hashable, Inhabited

structure Production where
  rule : Nat
  weight : Int
  steps : Array Step
deriving BEq, Hashable, Inhabited

/-- The token that ends every text. -/
def endToken : Nat := 0

/-- The token that keywords are told apart from. -/
def wordToken : Nat := 1

end ModuleAtlas.Grammar

/-- Numbered tokens and rules, and what decides between the ways to read a text with them. -/
structure ModuleAtlas.Grammar where
  tokens : Array Grammar.Token
  rules : Array Grammar.RuleInfo
  productions : Array Grammar.Production
  blanks : Grammar.CharClass
  extras : List Nat
  /-- The tokens that the scanner answers for, in the order of the definition. -/
  scanned : Array Nat
  rankings : List (List Grammar.Ranked)
  notInRecovery : List Nat
deriving Inhabited

namespace ModuleAtlas.Grammar

/-- A leading underscore hides a rule. -/
def showingOf (groups : List String) (name : String) : Showing :=
  if name.startsWith "_" || groups.contains name then .hidden else .named

namespace Rule

/-- The tokens that a rule writes out, in order. -/
def tokens : Rule → List TokenRule
  | blank | ref _ => []
  | token t => [t]
  | seq a b | alt a b => tokens a ++ tokens b
  | many1 a | rank _ _ a | weight _ a | renamed _ a | field _ a => tokens a

/-- The rules that repetition gave rise to, found again by what they repeat. -/
structure Repetitions where
  rules : Array (String × Rule)
  known : Std.HashMap Rule String
deriving Inhabited

/-- Replaces every repetition by a rule `x` with the alternatives `x x` and the repeated part. -/
def withoutRepetition (owner : String) : Rule → StateM Repetitions Rule
  | many1 a => do
    let body ← withoutRepetition owner a
    let s ← get
    match s.known[body]? with
    | some name => return ref name
    | none =>
      let name := s!"{owner} repeat {s.rules.size}"
      set (Repetitions.mk (s.rules.push (name, ref name ++ ref name ||| body))
        (s.known.insert body name))
      return ref name
  | seq a b => return seq (← withoutRepetition owner a) (← withoutRepetition owner b)
  | alt a b => return alt (← withoutRepetition owner a) (← withoutRepetition owner b)
  | rank r s a => return rank r s (← withoutRepetition owner a)
  | weight n a => return weight n (← withoutRepetition owner a)
  | renamed n a => return renamed n (← withoutRepetition owner a)
  | field n a => return field n (← withoutRepetition owner a)
  | blank => return blank
  | token t => return token t
  | ref n => return ref n

end Rule

/-- One way to read a rule: its steps, and its weight where readings compete. -/
structure Reading where
  steps : List Step
  weight : Int
deriving BEq, Hashable, Inhabited

namespace Reading

/-- Of two weights the one farther from zero, and the first of equals. -/
def heavier (v w : Int) : Int := if w.natAbs > v.natAbs then w else v

def append (r s : Reading) : Reading := ⟨r.steps ++ s.steps, heavier r.weight s.weight⟩

/-- Applies a function to the last step. -/
def mapLast (f : Step → Step) : List Step → List Step
  | [] => []
  | [s] => [f s]
  | s :: rest => s :: mapLast f rest

/-- What surrounds a part of a rule. -/
structure Around where
  rank : Option Rank
  side : Option Side
  shownAs : Option Alias
  field : Option String

/-- All readings of a rule. The rank and the side of a part hold for its steps, but behind its last
step, unless the production ends there, those of its surroundings hold again. -/
def all (symbolOf : Rule → Symbol) : Rule → Around → (atEnd : Bool) → List Reading
  | .blank, _, _ => [⟨[], 0⟩]
  | .token t, c, _ => [⟨[⟨symbolOf (.token t), c.rank, c.side, c.shownAs, c.field⟩], 0⟩]
  | .ref n, c, _ => [⟨[⟨symbolOf (.ref n), c.rank, c.side, c.shownAs, c.field⟩], 0⟩]
  | .seq a b, c, atEnd =>
    (all symbolOf a c false).flatMap fun r => (all symbolOf b c atEnd).map r.append
  | .alt a b, c, atEnd => all symbolOf a c atEnd ++ all symbolOf b c atEnd
  | .many1 a, c, atEnd => all symbolOf a c atEnd
  | .rank k side a, c, atEnd =>
    let inner : Around := { c with rank := some k, side := side.or c.side }
    (all symbolOf a inner atEnd).map fun r =>
      if atEnd then r
      else { r with
        steps := mapLast
          (fun s => { s with rank := c.rank, side := if side.isSome then c.side else s.side })
          r.steps }
  | .weight n a, c, atEnd =>
    (all symbolOf a c atEnd).map fun r => { r with weight := heavier n r.weight }
  | .renamed as a, c, atEnd => all symbolOf a { c with shownAs := some as } atEnd
  | .field n a, c, atEnd => all symbolOf a { c with field := some n } atEnd

/-- A reading put in place of a step: it takes over how the step is shown and, where its last step
has none of its own, how strongly the step binds. -/
def inPlaceOf (s : Step) (r : Reading) : Reading :=
  let steps := r.steps.map fun t =>
    { t with shownAs := s.shownAs.or t.shownAs, field := s.field.or t.field }
  { r with steps := mapLast (fun t => { t with rank := t.rank.or s.rank, side := t.side.or s.side })
             steps }

/-- Replaces inlined rules by their readings, up to a nesting depth. -/
def expand (inlined : Nat → Option (List Reading)) : (depth : Nat) → Reading → List Reading
  | 0, r => [r]
  | depth + 1, r =>
    r.steps.foldl
      (fun done s =>
        let ways := match s.symbol with
          | .rule i =>
            match inlined i with
            | some rs => rs.flatMap fun q => expand inlined depth (inPlaceOf s q)
            | none => [⟨[s], 0⟩]
          | .token _ => [⟨[s], 0⟩]
        done.flatMap fun d => ways.map d.append)
      [⟨[], r.weight⟩]

end Reading

namespace Definition

/-- A rule that is one token, used nowhere else, is that token. -/
def tokenNames (d : Definition) (uses : Std.HashMap TokenRule Nat) :
    Std.HashMap TokenRule String :=
  (d.rules.drop 1).foldl
    (fun m r => match r.2 with
      | .token t => if uses.getD t 0 = 1 then m.insert t r.1 else m
      | _ => m)
    ∅

/-- How a token appears in the tree. -/
def describe (names : Std.HashMap TokenRule String) (t : TokenRule) : Token :=
  match names[t]?, t.shape with
  | some n, _ => ⟨n, showingOf [] n, some t⟩
  | none, .literal s => ⟨s, .anonymous, some t⟩
  | none, .pattern _ => ⟨"", .hidden, some t⟩

/-- The tokens of a grammar: the end, the word, all others in order of appearance, and those that
only the scanner finds. -/
def tokenTable (d : Definition) : Array Token :=
  let occurrences := d.rules.flatMap fun r => r.2.tokens
  let uses := occurrences.foldl (fun m t => m.insert t (m.getD t 0 + 1)) (∅ : Std.HashMap _ Nat)
  let names := d.tokenNames uses
  let seen := occurrences.foldl (fun m t => m.insert t (m.getD t m.size))
    (∅ : Std.HashMap TokenRule Nat)
  let written := (seen.toArray.qsort fun a b => a.2 < b.2).map fun a => describe names a.1
  let isWord (t : Token) : Bool := t.name == d.word && t.showing == .named
  let found := d.scanned.filterMap fun
    | .named s =>
      if written.any (fun t => t.name == s && t.showing != .anonymous) then none
      else some (Token.mk s (showingOf [] s) none)
    | .literal _ => none
  #[Token.mk "end" .hidden none] ++ written.filter isWord ++
    written.filter (fun t => !isWord t) ++ found.toArray

/-- The position of each key in an array; of equal keys the last one counts. -/
def positions {α κ : Type} [BEq κ] [Hashable κ] (key : α → Option κ) (xs : Array α) :
    Std.HashMap κ Nat :=
  xs.zipIdx.foldl
    (fun m (x, i) => match key x with
      | some k => m.insert k i
      | none => m)
    ∅

/-- Keeps the first of equal elements. -/
def distinct {α : Type} [BEq α] [Hashable α] (xs : List α) : Array α :=
  (xs.foldl
    (fun (acc, seen) x => if seen.contains x then (acc, seen) else (acc.push x, seen.insert x ()))
    ((#[], ∅) : Array α × Std.HashMap α Unit)).1

/-- The grammar that a definition describes. -/
def compile (d : Definition) : Grammar :=
  let tokens := d.tokenTable
  let tokenByName : Std.HashMap String Nat :=
    positions (fun t => if t.showing == .anonymous then none else some t.name) tokens
  let tokenByRule : Std.HashMap TokenRule Nat := positions Token.written tokens
  let proper := d.rules.filter fun r => !tokenByName.contains r.1
  let noRepetitions : Rule.Repetitions := ⟨#[], ∅⟩
  let (flat, repetitions) : List (String × Rule) × Rule.Repetitions :=
    (proper.mapM fun (r : String × Rule) =>
      return (r.1, ← Rule.withoutRepetition r.1 r.2)) noRepetitions
  let rules : Array (String × Rule) := flat.toArray ++ repetitions.rules
  let ruleByName : Std.HashMap String Nat := positions (fun r => some r.1) rules
  let symbolOf : Rule → Symbol
    | .token t => .token (tokenByRule.getD t endToken)
    | .ref n =>
      match ruleByName[n]? with
      | some i => .rule i
      | none => .token (tokenByName.getD n endToken)
    | _ => .token endToken
  let readings : Array (List Reading) := rules.map fun (r : String × Rule) =>
    (distinct (Reading.all symbolOf r.2 ⟨none, none, none, none⟩ true)).toList
  let isInlined (i : Nat) : Bool := d.inlined.contains (rules.getD i default).1
  let inlined (i : Nat) : Option (List Reading) :=
    if isInlined i then some (readings.getD i []) else none
  let productionsOf (rs : List Reading) (i : Nat) : Array Production :=
    if isInlined i then #[]
    else
      (distinct (rs.flatMap (Reading.expand inlined (d.inlined.length + 1)))).map fun r =>
        ⟨i, r.weight, r.steps.toArray⟩
  let named (n : String) : Nat := tokenByName.getD n endToken
  let literal (s : String) : Nat := tokenByRule.getD ⟨.literal s, false, 0⟩ endToken
  { tokens
    rules := rules.zipIdx.map fun (r, i) =>
      if i < flat.length then ⟨r.1, showingOf d.groups r.1, false⟩ else ⟨r.1, .hidden, true⟩
    productions := readings.zipIdx.flatMap fun (rs, i) => productionsOf rs i
    blanks := d.blanks
    extras := d.extras.map named
    scanned := (d.scanned.map fun
      | .named s => named s
      | .literal s => literal s).toArray
    rankings := d.rankings
    notInRecovery := d.notInRecovery.map fun n => tokenByName.getD n (literal n) }

end Definition

end ModuleAtlas.Grammar
