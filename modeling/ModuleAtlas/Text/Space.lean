/-!
# White space

Blanks are the white space of Unicode. Where text is trimmed, the four separators of ASCII count as
blanks too. A line ends at a line feed, a carriage return or both, and at the other characters that
Unicode counts as line ends.
-/
namespace ModuleAtlas.Text

/-! ## Blanks -/

/-- White space as Unicode defines it. -/
def isWhite (c : Char) : Bool :=
  let n := c.toNat
  9 ≤ n && n ≤ 13 || n = 0x20 || n = 0x85 || n = 0xA0 || n = 0x1680 ||
    0x2000 ≤ n && n ≤ 0x200A || n = 0x2028 || n = 0x2029 || n = 0x202F || n = 0x205F || n = 0x3000

/-- White space and the separators of ASCII. -/
def isBlank (c : Char) : Bool := isWhite c || 0x1C ≤ c.toNat && c.toNat ≤ 0x1F

/-- A text without what passes a test at its ends. -/
def trimBy (test : Char → Bool) (s : List Char) : List Char :=
  ((s.dropWhile test).reverse.dropWhile test).reverse

def trim (s : List Char) : List Char := trimBy isBlank s

/-! ## Lines -/

def endsLine (c : Char) : Bool :=
  let n := c.toNat
  10 ≤ n && n ≤ 13 || 0x1C ≤ n && n ≤ 0x1E || n = 0x85 || n = 0x2028 || n = 0x2029

/-- The lines of a text, the first of which has begun with some characters in reverse. -/
def linesFrom : (begun : List Char) → List Char → List (List Char)
  | [], [] => []
  | begun, [] => [begun.reverse]
  | begun, '\r' :: '\n' :: s => begun.reverse :: linesFrom [] s
  | begun, c :: s =>
    if endsLine c then begun.reverse :: linesFrom [] s else linesFrom (c :: begun) s

/-- The lines of a text without their ends. -/
def lines (s : String) : List String := (linesFrom [] s.toList).map String.ofList

end ModuleAtlas.Text
