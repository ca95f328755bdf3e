import ModuleAtlas.Grammar.Item
import ModuleAtlas.Grammar.Automaton

/-!
# The parse table

A state is a set of items with the tokens that may follow each of them. States are built when the
parser first reaches them: `Table.ensure` adds the actions of one state and, still without
actions, the states behind it. Where several actions compete for a token, ranks and sides decide;
what they leave open stays open, and the parser follows every remaining action.
-/
namespace ModuleAtlas.Grammar

inductive Action
  /-- Read the token and go on; a repeated one only restates what a reduction already says. -/
  | shift (state : Nat) (repeated : Bool)
  /-- Put the token into the tree where it stands. -/
  | skip
  | reduce (production : Nat)
  | accept
  /-- Begin to recover from an error. -/
  | recover
deriving Inhabited, BEq

/-- What the lexer looks for in a state. -/
structure Lookout where
  /-- The tokens with an action. -/
  valid : TokenSet
  /-- The first nodes of immediate tokens, and those of the others. -/
  attached : List Nat
  detached : List Nat
  /-- The tokens that may follow blanks. -/
  afterBlank : TokenSet
  atEnd : Bool
deriving Inhabited

structure State where
  kernel : Array (Nat × TokenSet)
  actions : Array (List Action)
  gotos : Array Nat
  lookout : Lookout
deriving Inhabited

/-- What a rule starts with: another rule, and what may follow it there. -/
structure Corner where
  rule : Nat
  follow : TokenSet
  /-- Whether what follows the whole may follow here. -/
  passes : Bool
deriving Inhabited

structure Machine where
  grammar : Grammar
  items : Items
  automaton : Automaton
  /-- The tokens that each rule can begin with. -/
  firsts : Array TokenSet
  /-- The rules that each rule can begin with, directly or through others. -/
  corners : Array (Array Corner)
  keywords : Std.HashMap String Nat
  isKeyword : Array Bool
  /-- The dividing slash, which is also looked for where it has no action. -/
  slash : Nat
  /-- The ranking lists with rules by number. -/
  rankings : List (List (String ⊕ Nat))
deriving Inhabited

structure Table where
  states : Array State
  known : Std.HashMap (Array (Nat × TokenSet)) Nat
deriving Inhabited

/-- The state in which an error is recovered from, and the one in which a text begins. -/
def recoveryState : Nat := 0

def startState : Nat := 1

namespace Machine

/-- The least solution of a system of token sets that grows from nothing. -/
def grow {α : Type} [BEq α] (step : α → α) : (fuel : Nat) → α → α
  | 0, x => x
  | fuel + 1, x =>
    let y := step x
    if y == x then x else grow step fuel y

def firstOf (firsts : Array TokenSet) : Symbol → TokenSet
  | .token t => .single t
  | .rule r => firsts.getD r 0

def firstSets (g : Grammar) : Array TokenSet :=
  grow
    (fun fs => g.productions.foldl
      (fun fs p => match p.steps[0]? with
        | some s => fs.modify p.rule (· ||| firstOf fs s.symbol)
        | none => fs)
      fs)
    g.rules.size (Array.replicate g.rules.size 0)

/-- Adds a corner to those of the same rule. -/
def addCorner (cs : Array Corner) (c : Corner) : Array Corner :=
  match cs.findIdx? fun d => d.rule = c.rule with
  | some i => cs.modify i fun d =>
      { d with follow := d.follow ||| c.follow, passes := d.passes || c.passes }
  | none => cs.push c

def directCorners (g : Grammar) (firsts : Array TokenSet) : Array (Array Corner) :=
  g.productions.foldl
    (fun acc p => match p.steps[0]?.map Step.symbol with
      | some (.rule r) =>
        let c : Corner := match p.steps[1]? with
          | some s => ⟨r, firstOf firsts s.symbol, false⟩
          | none => ⟨r, 0, true⟩
        acc.modify p.rule fun cs => addCorner cs c
      | _ => acc)
    (Array.replicate g.rules.size #[])

structure Reached where
  order : Array Nat
  follow : Array TokenSet
  passes : Array Bool
  seen : Array Bool

/-- Spreads what may follow a rule to the rules it begins with. -/
def spread (direct : Array (Array Corner)) : (fuel : Nat) → List Corner → Reached → Reached
  | 0, _, r => r
  | _, [], r => r
  | fuel + 1, c :: rest, r =>
    let old := r.follow.getD c.rule 0
    let follow := old ||| c.follow
    let passes := r.passes.getD c.rule false || c.passes
    let isNew := !r.seen.getD c.rule false
    if isNew || follow != old || passes != r.passes.getD c.rule false then
      let r : Reached :=
        { order := if isNew then r.order.push c.rule else r.order
          follow := r.follow.set! c.rule follow
          passes := r.passes.set! c.rule passes
          seen := r.seen.set! c.rule true }
      let more := (direct.getD c.rule #[]).toList.map fun d =>
        if d.passes then { d with follow := d.follow ||| follow, passes := passes } else d
      spread direct fuel (more ++ rest) r
    else spread direct fuel rest r

def allCorners (g : Grammar) (firsts : Array TokenSet) : Array (Array Corner) :=
  let direct := directCorners g firsts
  let n := g.rules.size
  let fuel := n * n * (g.tokens.size + 1)
  (Array.range n).map fun r =>
    let reached := spread direct fuel [⟨r, 0, true⟩]
      ⟨#[], Array.replicate n 0, Array.replicate n false, Array.replicate n false⟩
    reached.order.map fun q => ⟨q, reached.follow.getD q 0, reached.passes.getD q false⟩

/-- A keyword is a literal that the word token could also read. -/
def keywordOf (t : Token) : Option String :=
  match t.written with
  | some ⟨.literal s, _, _⟩ => if s.toList.head?.any Char.isAlpha then some s else none
  | _ => none

def ofGrammar (g : Grammar) : Machine :=
  let firsts := firstSets g
  let ruleByName := Definition.positions (fun (r : RuleInfo) => some r.name) g.rules
  { grammar := g
    items := .ofGrammar g
    automaton := .ofTokens g.tokens
    firsts
    corners := allCorners g firsts
    keywords := Definition.positions keywordOf g.tokens
    isKeyword := g.tokens.map fun t => (keywordOf t).isSome
    slash := (g.tokens.findIdx? fun t =>
      t.written == some ⟨.literal "/", false, 0⟩).getD endToken
    rankings := g.rankings.map fun l => l.map fun
      | .name s => .inl s
      | .rule s => .inr (ruleByName.getD s g.rules.size) }

variable (m : Machine)

def item (i : Nat) : Item := m.items.all.getD i default

def first (s : Symbol) : TokenSet := firstOf m.firsts s

/-- What competes for a token: a rank, and the rules that bring it. -/
structure Claim where
  rank : Option Rank
  rules : List Nat
deriving Inhabited

/-- Searches the ranking lists for the first one that orders two claims. -/
def compareByLists (a b : Claim) : Ordering :=
  (m.rankings.findSome? fun l => scan l false false).getD .eq
where
  names (c : Claim) : String ⊕ Nat → Bool
    | .inl s => c.rank == some (.name s)
    | .inr r => c.rules.contains r
  scan : List (String ⊕ Nat) → Bool → Bool → Option Ordering
    | [], _, _ => none
    | e :: rest, sawA, sawB =>
      if names a e then if sawB then some .lt else scan rest true sawB
      else if names b e then if sawA then some .gt else scan rest sawA true
      else scan rest sawA sawB

/-- Numbers compare with numbers, and with zero where there is no rank; all else by the lists. -/
def compareClaims (a b : Claim) : Ordering :=
  match a.rank, b.rank with
  | some (.level x), some (.level y) =>
    if x ≠ 0 ∨ y ≠ 0 then compare x y else m.compareByLists a b
  | some (.level x), none => if x ≠ 0 then compare x 0 else m.compareByLists a b
  | none, some (.level y) => if y ≠ 0 then compare 0 y else m.compareByLists a b
  | _, _ => m.compareByLists a b

/-- The reductions that compete for one token, all of one rank. -/
structure Contest where
  actions : List Action
  claim : Claim
  sides : List (Option Side)
deriving Inhabited

/-- Adds a reduction: a stronger one drives the others out, a weaker one is left out. -/
def Contest.add (c : Option Contest) (x : Item) (action : Action) : Contest :=
  let alone : Contest := ⟨[action], ⟨x.rank, [x.rule]⟩, [x.side]⟩
  match c with
  | none => alone
  | some c =>
    match m.compareClaims ⟨x.rank, [x.rule]⟩ c.claim with
    | .gt => alone
    | .eq => ⟨c.actions ++ [action], ⟨x.rank, x.rule :: c.claim.rules⟩, x.side :: c.sides⟩
    | .lt => c

/-- Settles a token that can also be shifted. -/
def settle (kernel : Array (Nat × TokenSet)) (t : Nat) (c : Contest) (target : Nat) :
    List Action :=
  let rivals := kernel.filter fun (i, follow) =>
    let x := m.item i
    match x.next with
    | some (s, _) => 0 < x.position && (m.first s).testBit t
    | none => follow.testBit t
  let rules := (rivals.map fun (i, _) => (m.item i).rule).toList.filter (· < m.grammar.rules.size)
  let shifting := rivals.filterMap fun (i, _) =>
    let x := m.item i
    if x.next.isSome then some (m.compareClaims ⟨x.rank, [x.rule]⟩ c.claim) else none
  let same : Bool := match rules with
    | r :: rest => (m.grammar.rules.getD r default).repetition && rest.all (· = r)
    | [] => false
  let shift := Action.shift target false
  if same then c.actions ++ [.shift target true]
  else
    let more := shifting.contains .gt
    let less := shifting.contains .lt
    if more && !less then [shift]
    else if less && !more then c.actions
    else if !less && !more then
      if c.sides.all (· == some .left) then c.actions
      else if c.sides.all (· == some .right) then [shift]
      else c.actions ++ [shift]
    else c.actions ++ [shift]

/-- What follows each rule that an item of the kernel expects next. -/
def expected (kernel : Array (Nat × TokenSet)) : List (Nat × TokenSet) :=
  kernel.foldl
    (fun acc (i, follow) =>
      let x := m.item i
      match x.next with
      | some (.rule r, _) =>
        let follow := x.following.elim follow m.first
        match acc.lookup r with
        | some _ => acc.map fun (q, f) => if q = r then (q, f ||| follow) else (q, f)
        | none => (r, follow) :: acc
      | _ => acc)
    []

/-- The tokens that may follow the first items of each rule in a state. -/
def closure (kernel : Array (Nat × TokenSet)) : Array (Option TokenSet) :=
  (m.expected kernel).foldl
    (fun acc (r, follow) =>
      (m.corners.getD r #[]).foldl
        (fun acc c =>
          let f := if c.passes then c.follow ||| follow else c.follow
          acc.modify c.rule fun old => some (old.getD 0 ||| f))
        acc)
    (Array.replicate m.grammar.rules.size none)

/-- Adds an item to the kernel of a state behind. -/
def addItem (k : Array (Nat × TokenSet)) (i : Nat) (f : TokenSet) : Array (Nat × TokenSet) :=
  match k.findIdx? fun e => e.1 = i with
  | some n => k.modify n fun e => (i, e.2 ||| f)
  | none => k.push (i, f)

/-- The kernels behind each symbol: by token, then by rule. -/
def successors (kernel : Array (Nat × TokenSet)) : Array (Array (Nat × TokenSet)) :=
  let tokens := m.grammar.tokens.size
  let place : Symbol → Nat
    | .token t => t
    | .rule r => tokens + r
  let add (acc : Array (Array (Nat × TokenSet))) (i : Nat) (f : TokenSet) :=
    match (m.item i).next with
    | some (s, after) => acc.modify (place s) fun k => addItem k after f
    | none => acc
  let own := kernel.foldl (fun acc (i, f) => add acc i f)
    (Array.replicate (tokens + m.grammar.rules.size) #[])
  (m.closure kernel).zipIdx.foldl
    (fun acc (f, r) => match f with
      | some f => (m.items.ofRule.getD r #[]).foldl (fun acc i => add acc i f) acc
      | none => acc)
    own

/-- The reductions of a state by token. The order of the actions is the order in which the parser
tries them. -/
def reductions (kernel : Array (Nat × TokenSet)) : Array (Option Contest) :=
  let done := (kernel ++ (if kernel.any fun e => e.1 = m.items.start then empties else #[])).filter
    fun e => (m.item e.1).next.isNone
  let sorted := done.qsort fun a b =>
    let (x, y) := (m.item a.1, m.item b.1)
    x.position < y.position || x.position = y.position &&
      (x.rule < y.rule || x.rule = y.rule && a.1 < b.1)
  sorted.foldl
    (fun acc (i, follow) =>
      let x := m.item i
      let action :=
        if x.rule < m.grammar.rules.size then Action.reduce x.production else .accept
      (List.range m.grammar.tokens.size).foldl
        (fun acc t =>
          if follow.testBit t then acc.modify t fun c => some (Contest.add m c x action) else acc)
        acc)
    (Array.replicate m.grammar.tokens.size none)
where
  /-- A text may be empty. -/
  empties : Array (Nat × TokenSet) :=
    (m.items.ofRule.getD 0 #[]).map fun i => (i, .single endToken)

/-- Prepares the lexer for the tokens with an action. Keywords are read as words. The dividing slash
is looked for as well where no immediate token is, for it then stands for itself. -/
def lookoutFor (valid : TokenSet) (inRecovery : Bool) : Lookout :=
  let present := (List.range m.grammar.tokens.size).filter fun t => valid.testBit t
  let attachedTokens := present.filter fun t => m.automaton.immediate.getD t false
  let present := if inRecovery || !attachedTokens.isEmpty then present else m.slash :: present
  let plain := present.filter fun t => !m.automaton.immediate.getD t false
  let detached := plain.foldl
    (fun ts t =>
      let t := if m.isKeyword.getD t false then wordToken else t
      if ts.contains t then ts else t :: ts)
    []
  let nodes (ts : List Nat) := ts.flatMap fun t => m.automaton.starts.getD t []
  { valid, attached := nodes attachedTokens, detached := nodes detached
    afterBlank := .ofList detached, atEnd := valid.testBit endToken }

/-- The state of recovery: every token that may be looked for leads out of the error. -/
def recovery : State :=
  let g := m.grammar
  let actions := (Array.range g.tokens.size).map fun t =>
    if g.extras.contains t then [Action.skip]
    else if g.notInRecovery.contains t then [] else [.recover]
  let valid := TokenSet.ofList <| (List.range g.tokens.size).filter fun t =>
    !(actions.getD t []).isEmpty
  ⟨#[], actions, Array.replicate g.rules.size 0, m.lookoutFor valid true⟩

def emptyTable : Table :=
  let kernel := #[(m.items.start, TokenSet.single endToken)]
  ⟨#[m.recovery, ⟨kernel, #[], #[], default⟩], (∅ : Std.HashMap _ _).insert kernel startState⟩

end Machine

namespace Table

/-- The number of the state with a kernel, a new one if there is none yet. -/
def intern (t : Table) (kernel : Array (Nat × TokenSet)) : Nat × Table :=
  match t.known[kernel]? with
  | some n => (n, t)
  | none =>
    let n := t.states.size
    (n, ⟨t.states.push ⟨kernel, #[], #[], default⟩, t.known.insert kernel n⟩)

/-- The targets behind each symbol, zero where there is none. -/
def internAll (t : Table) (kernels : Array (Array (Nat × TokenSet))) : Array Nat × Table :=
  kernels.foldl
    (fun (targets, t) k =>
      if k.isEmpty then (targets.push 0, t)
      else
        let (n, t) := t.intern (k.qsort fun a b => a.1 < b.1)
        (targets.push n, t))
    (#[], t)

/-- Builds the actions of a state. -/
def build (m : Machine) (t : Table) (s : Nat) : Table :=
  let kernel := (t.states.getD s default).kernel
  let tokens := m.grammar.tokens.size
  let (targets, t) := t.internAll (m.successors kernel)
  let contests := m.reductions kernel
  let actions := (Array.range tokens).map fun i =>
    match targets.getD i 0, contests.getD i none with
    | 0, none => if m.grammar.extras.contains i then [Action.skip] else []
    | 0, some c => c.actions
    | n, none => [.shift n false]
    | n, some c => m.settle kernel i c n
  let valid := TokenSet.ofList <| (List.range tokens).filter fun i => !(actions.getD i []).isEmpty
  let state : State :=
    ⟨kernel, actions, targets.extract tokens targets.size, m.lookoutFor valid false⟩
  { t with states := t.states.set! s state }

/-- The table with the actions of a state in it. -/
def ensure (m : Machine) (t : Table) (s : Nat) : Table :=
  if (t.states.getD s default).actions.isEmpty then t.build m s else t

end Table

end ModuleAtlas.Grammar
