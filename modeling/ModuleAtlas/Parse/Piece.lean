import ModuleAtlas.Grammar.Table

/-!
# Pieces of a tree under construction

A piece is a token or a finished rule with the blanks before it. Its cost says how much of the text
under it did not fit the grammar; the parser prefers cheap pieces.
-/
namespace ModuleAtlas.Parse

open Grammar

/-- A length of text, or the place at its end when counted from the start of the text. Columns
count bytes, and only a line feed ends a line. -/
structure Extent where
  chars : Nat
  bytes : Nat
  rows : Nat
  column : Nat
deriving Inhabited, BEq, DecidableEq

namespace Extent

def zero : Extent := ⟨0, 0, 0, 0⟩

/-- One extent behind another. -/
def add (a b : Extent) : Extent :=
  ⟨a.chars + b.chars, a.bytes + b.bytes, a.rows + b.rows,
    if b.rows = 0 then a.column + b.column else b.column⟩

instance : Add Extent := ⟨add⟩

/-- The way from an earlier place to a later one. -/
def since (b a : Extent) : Extent :=
  ⟨b.chars - a.chars, b.bytes - a.bytes, b.rows - a.rows,
    if b.rows = a.rows then b.column - a.column else b.column⟩

/-- The place behind a character. -/
def past (a : Extent) (c : Char) : Extent :=
  if c = '\n' then ⟨a.chars + 1, a.bytes + 1, a.rows + 1, 0⟩
  else ⟨a.chars + 1, a.bytes + c.utf8Size, a.rows, a.column + c.utf8Size⟩

end Extent

abbrev Source := Array Char

namespace Source

def peek (s : Source) (p : Extent) : Option Char := s[p.chars]?

/-- The place behind the next character; the end stays where it is. -/
def step (s : Source) (p : Extent) : Extent := (s.peek p).elim p p.past

end Source

/-- What a piece is: a token, a rule, an error, or skipped text that becomes part of one. -/
inductive Label
  | token (t : Nat)
  | rule (r : Nat)
  | error
  | skipped
deriving BEq, Inhabited, DecidableEq

namespace Label

/-- Tokens come before rules, and errors last. -/
def order (g : Grammar) : Label → Nat
  | token t => t
  | rule r => g.tokens.size + r
  | skipped => g.tokens.size + g.rules.size
  | error => g.tokens.size + g.rules.size + 1

def showing (g : Grammar) : Label → Showing
  | token t => (g.tokens.getD t default).showing
  | rule r => (g.rules.getD r default).showing
  | error => .named
  | skipped => .hidden

/-- Whether the label marks text that does not fit the grammar. -/
def isWrong : Label → Bool
  | error | skipped => true
  | _ => false

end Label

structure Piece where
  label : Label
  /-- The blanks before the piece. -/
  gap : Extent
  size : Extent
  parts : List Piece
  /-- The production that a rule was read by; none for errors and tokens. -/
  production : Option Nat
  cost : Nat
  weight : Int
  extra : Bool
  missing : Bool
  keyword : Bool
  visible : Bool
  /-- The pieces directly below that stand in the tree, and all of those below. -/
  shownParts : Nat
  shownBelow : Nat
  /-- The label of the first token. -/
  firstLeaf : Label
deriving Inhabited

/-- What is paid for recovering, for a token that is missing, for a skipped piece, for a skipped
byte and for a skipped line. -/
def recoveryCost : Nat := 500
def missingCost : Nat := 110
def skippedPieceCost : Nat := 100
def skippedByteCost : Nat := 1
def skippedLineCost : Nat := 30

namespace Piece

def extent (p : Piece) : Extent := p.gap + p.size

def token (g : Grammar) (label : Label) (gap size : Extent) (keyword : Bool) : Piece :=
  { label, gap, size, parts := [], production := none, cost := 0, weight := 0
    extra := label == .token endToken, missing := false, keyword
    visible := label.showing g != .hidden
    shownParts := 0, shownBelow := 0, firstLeaf := label }

/-- A token that the text lacks. -/
def absent (g : Grammar) (t : Nat) : Piece :=
  { token g (.token t) .zero .zero false with
    missing := true, cost := missingCost + recoveryCost }

/-- What the parts of an error add to its cost: everything in it that is neither extra nor itself
unreadable text. -/
def skipCost (parts : List Piece) : Nat :=
  parts.foldl
    (fun (n : Nat) (p : Piece) =>
      if p.extra || p.label == .error && p.parts.isEmpty then n
      else if p.visible then n + skippedPieceCost
      else if p.parts.isEmpty then n
      else n + skippedPieceCost * p.shownParts)
    0

/-- How a part is shown in the tree, by its place among the parts that are not extra. -/
def shownAs (g : Grammar) (production : Option Nat) (place : Nat) : Option Alias :=
  production.bind fun n => ((g.productions.getD n default).steps[place]?).bind Step.shownAs

/-- The parts with their places among those that are not extra. -/
def placed : List Piece → Nat → List (Piece × Nat)
  | [], _ => []
  | p :: ps, n => (p, n) :: placed ps (if p.extra then n else n + 1)

/-- The blanks before a row of pieces, and the extent behind them. -/
def span : List Piece → Extent × Extent
  | [] => (.zero, .zero)
  | p :: ps => (p.gap, ps.foldl (fun (e : Extent) (q : Piece) => e + q.extent) p.size)

/-- The costs of the parts. Skipped text is charged once, where it ends. -/
def inheritedCost (parts : List Piece) : Nat :=
  parts.foldl (fun (n : Nat) (p : Piece) => if p.label == .skipped then n else n + p.cost) 0

/-- The parts that stand in the tree, directly and all together. -/
def countShown (g : Grammar) (production : Option Nat) (parts : List Piece) : Nat × Nat :=
  (placed parts 0).foldl
    (fun (n : Nat × Nat) (e : Piece × Nat) =>
      let p := e.1
      if p.visible || !p.extra && (shownAs g production e.2).isSome then
        (n.1 + 1, n.2 + p.shownBelow + 1)
      else (n.1 + p.shownParts, n.2 + p.shownBelow))
    (0, 0)

/-- A piece made of parts. -/
def join (g : Grammar) (label : Label) (parts : List Piece) (production : Option Nat) : Piece :=
  let (gap, size) := span parts
  let own :=
    if label.isWrong then
      skipCost parts + recoveryCost + skippedByteCost * size.bytes + skippedLineCost * size.rows
    else 0
  let (shown, below) := countShown g production parts
  { label, gap, size, parts, production, cost := inheritedCost parts + own
    weight := parts.foldl (fun (n : Int) (p : Piece) => n + p.weight) 0
    extra := false, missing := false, keyword := false
    visible := label.showing g != .hidden
    shownParts := shown, shownBelow := below
    firstLeaf := parts.head?.elim (.token endToken) Piece.firstLeaf }

/-- How many pieces a piece adds to the tree. Skipped text counts too, for it is progress. -/
def count (p : Piece) : Nat :=
  p.shownBelow + (if p.visible then 1 else 0) + if p.label == .skipped then 1 else 0

/-- Compares pieces by what they are, then by their parts from left to right. -/
def compareWith (g : Grammar) : Piece → Piece → Ordering
  | a, b =>
    (compare (a.label.order g) (b.label.order g)).then <|
      (compare a.parts.length b.parts.length).then <|
        (a.parts.zip b.parts).attach.foldl
          (fun o ⟨(p, q), h⟩ =>
            have := List.sizeOf_lt_of_mem (List.of_mem_zip h).1
            o.then (compareWith g p q))
          .eq
termination_by a => sizeOf a
decreasing_by
  cases a; simp_all; omega

/-- Whether the second of two pieces for the same text is the better one. -/
def better (g : Grammar) (a b : Piece) : Bool :=
  if b.cost ≠ a.cost then b.cost < a.cost
  else if b.weight ≠ a.weight then b.weight > a.weight
  else 0 < a.cost || compareWith g a b == .gt

/-- Separates the extra pieces at the end. -/
def splitTrailing (ps : List Piece) : List Piece × List Piece :=
  let reversed := ps.reverse
  ((reversed.dropWhile Piece.extra).reverse, (reversed.takeWhile Piece.extra).reverse)

end Piece

end ModuleAtlas.Parse
