import ModuleAtlas.Grammar.Production

/-!
# Items

An item is a production with a position in it. Items that can only be continued and finished in
the same way are one item, so that the parser does not tell them apart.
-/
namespace ModuleAtlas.Grammar

/-- A set of tokens, as the bits of a number. -/
abbrev TokenSet := Nat

namespace TokenSet

def single (t : Nat) : TokenSet := 1 <<< t

def ofList (ts : List Nat) : TokenSet := ts.foldl (fun s t => s ||| single t) 0

end TokenSet

structure Item where
  production : Nat
  position : Nat
  rule : Nat
  /-- The symbol behind the position and the item that follows when it has been read. -/
  next : Option (Symbol × Nat)
  /-- The symbol behind that one, if there is one. -/
  following : Option Symbol
  /-- Rank and side of the step before the position. -/
  rank : Option Rank
  side : Option Side
deriving Inhabited

/-- What tells items apart: the rule, what has been read as far as it still matters, and the steps
that remain. -/
structure Item.Key where
  rule : Nat
  position : Nat
  length : Nat
  weight : Int
  rank : Option Rank
  side : Option Side
  inherits : Bool
  read : Nat
  rest : Nat
deriving BEq, Hashable

structure Items where
  all : Array Item
  /-- The first items of each rule. -/
  ofRule : Array (Array Nat)
  /-- The item with which a whole text is read. -/
  start : Nat
deriving Inhabited

namespace Items

/-- The number of a value, a new one if the value has none yet. -/
def number {α : Type} [BEq α] [Hashable α] (m : Std.HashMap α Nat) (x : α) :
    Nat × Std.HashMap α Nat :=
  match m[x]? with
  | some n => (n, m)
  | none => (m.size + 1, m.insert x (m.size + 1))

/-- The hidden rules with a field inside them, which their parent takes over. -/
def carriesFields (g : Grammar) : Array Bool :=
  (List.range g.rules.size).foldl
    (fun known _ =>
      g.productions.foldl
        (fun k p => if !k.getD p.rule false && p.steps.any (carries k) then k.set! p.rule true
                    else k)
        known)
    (Array.replicate g.rules.size false)
where
  carries (known : Array Bool) (s : Step) : Bool :=
    s.field.isSome || match s.symbol with
      | .rule i => (g.rules.getD i default).showing == .hidden && known.getD i false
      | .token _ => false

structure Builder where
  rests : Std.HashMap (Step × Nat) Nat
  reads : Std.HashMap (Nat × Option Alias × Option String × Option Symbol) Nat
  items : Std.HashMap Item.Key Nat
  all : Array Item

/-- Numbers of the remaining steps from each position on, in order of positions. -/
def restsOf (steps : List Step) : StateM Builder (List Nat) :=
  match steps with
  | [] => return [0]
  | s :: rest => do
    let after ← restsOf rest
    let b ← get
    let (n, rests) := number b.rests (s, after.headD 0)
    set { b with rests }
    return n :: after

/-- Adds the items of a production and returns the first one. -/
def addProduction (g : Grammar) (fields : Array Bool) (index : Nat) (p : Production) :
    StateM Builder Nat := do
  let rests ← restsOf p.steps.toList
  let mut read := 0
  let mut readSymbols := 0
  let mut inherits := false
  let mut ids : Array Nat := #[]
  for i in [0:p.steps.size + 1] do
    let before : Option Step := if i = 0 then none else p.steps[i - 1]?
    if let some s := before then
      let b ← get
      let (n, reads) := number b.reads (read, s.shownAs, s.field, none)
      let (m, reads) := number reads (readSymbols, s.shownAs, s.field, some s.symbol)
      set { b with reads }
      read := n
      readSymbols := m
      if let .rule r := s.symbol then
        if (g.rules.getD r default).showing == .hidden && fields.getD r false then
          inherits := true
    let b ← get
    let key : Item.Key :=
      { rule := p.rule, position := i, length := p.steps.size, weight := p.weight
        rank := before.bind Step.rank, side := before.bind Step.side, inherits
        read := if inherits then readSymbols else read, rest := rests.getD i 0 }
    match b.items[key]? with
    | some n => ids := ids.push n
    | none =>
      let item : Item :=
        { production := index, position := i, rule := p.rule
          next := p.steps[i]?.map fun s => (s.symbol, 0)
          following := p.steps[i + 1]?.map Step.symbol
          rank := before.bind Step.rank, side := before.bind Step.side }
      set { b with items := b.items.insert key b.all.size, all := b.all.push item }
      ids := ids.push b.all.size
  for i in [0:p.steps.size] do
    modify fun b => { b with
      all := b.all.modify (ids.getD i 0) fun x =>
        if x.production = index then
          { x with next := x.next.map fun (s, _) => (s, ids.getD (i + 1) 0) }
        else x }
  return ids.getD 0 0

/-- All items of a grammar. The whole text is read by a rule of its own behind all others. -/
def ofGrammar (g : Grammar) : Items :=
  let whole : Production := ⟨g.rules.size, 0, #[⟨.rule 0, none, none, none, none⟩]⟩
  let fields := carriesFields g
  let add : StateM Builder (Array Nat) :=
    (g.productions.push whole).zipIdx.mapM fun (p, i) => addProduction g fields i p
  let (firsts, b) := add ⟨∅, ∅, ∅, #[]⟩
  let ofRule := firsts.foldl
    (fun (acc : Array (Array Nat)) f =>
      acc.modify (b.all.getD f default).rule fun fs => if fs.contains f then fs else fs.push f)
    (Array.replicate (g.rules.size + 1) #[])
  { all := b.all, ofRule, start := firsts.back?.getD 0 }

end Items

end ModuleAtlas.Grammar
