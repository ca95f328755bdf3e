/-!
# Character classes and patterns

A character class is a list of closed ranges of code points. A pattern is a regular expression
over classes.
-/
namespace ModuleAtlas.Grammar

/-- A set of characters, given by closed ranges of code points. -/
structure CharClass where
  ranges : List (Nat × Nat)
deriving BEq, Hashable, Inhabited

namespace CharClass

def has (k : CharClass) (c : Char) : Bool :=
  k.ranges.any fun r => r.1 ≤ c.toNat && c.toNat ≤ r.2

def range (a b : Char) : CharClass := ⟨[(a.toNat, b.toNat)]⟩

def only (c : Char) : CharClass := range c c

def codes (a b : Nat) : CharClass := ⟨[(a, b)]⟩

/-- The characters of a text. -/
def listed (s : String) : CharClass := ⟨s.toList.map fun c => (c.toNat, c.toNat)⟩

instance : Append CharClass := ⟨fun k l => ⟨k.ranges ++ l.ranges⟩⟩

/-- The gaps between sorted ranges, from a lower bound on. -/
def gaps (low : Nat) : List (Nat × Nat) → List (Nat × Nat)
  | [] => if low ≤ 0x10FFFF then [(low, 0x10FFFF)] else []
  | (a, b) :: rest =>
    if a ≤ low then gaps (max low (b + 1)) rest else (low, a - 1) :: gaps (max low (b + 1)) rest

/-- Every character that is not in the class. -/
def except (k : CharClass) : CharClass :=
  ⟨gaps 0 (k.ranges.mergeSort fun r s => r.1 ≤ s.1)⟩

def digit : CharClass := range '0' '9'

def hexDigit : CharClass := digit ++ range 'a' 'f' ++ range 'A' 'F'

def letter : CharClass := range 'a' 'z' ++ range 'A' 'Z'

/-- Space and the control characters that count as one: tab, line feed, vertical tab, form feed
and carriage return. -/
def blank : CharClass := codes 9 13 ++ only ' '

/-- The characters of the Unicode category `Zs`. -/
def spaceSeparator : CharClass :=
  ⟨[(0x20, 0x20), (0xA0, 0xA0), (0x1680, 0x1680), (0x2000, 0x200A), (0x202F, 0x202F),
    (0x205F, 0x205F), (0x3000, 0x3000)]⟩

end CharClass

inductive Pattern
  | empty
  | oneOf (k : CharClass)
  | seq (p q : Pattern)
  | alt (p q : Pattern)
  | star (p : Pattern)
deriving BEq, Hashable, Inhabited

namespace Pattern

instance : Append Pattern := ⟨seq⟩

instance : OrOp Pattern := ⟨alt⟩

/-- The pattern that matches one text. -/
def text (s : String) : Pattern := s.toList.foldr (fun c p => oneOf (.only c) ++ p) empty

instance : Coe CharClass Pattern := ⟨oneOf⟩

instance : Coe String Pattern := ⟨text⟩

def plus (p : Pattern) : Pattern := p ++ star p

def opt (p : Pattern) : Pattern := p ||| empty

/-- At least `least` and at most `least + more` times. -/
def times (p : Pattern) (least : Nat) : Nat → Pattern
  | 0 => (List.replicate least p).foldr (· ++ ·) empty
  | more + 1 => times p least 0 ++ (upTo more).opt
where
  upTo : Nat → Pattern
    | 0 => p
    | k + 1 => p ++ (upTo k).opt

end Pattern

end ModuleAtlas.Grammar
