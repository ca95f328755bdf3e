import ModuleAtlas.Parse.Piece

/-!
# What the lexer alone cannot tell

Some tokens depend on the text around them: a line end that stands for a semicolon, the text parts
of templates and markup, a question mark that starts a conditional, and comments in the style of
HTML.
-/
namespace ModuleAtlas.TypeScript.Scanner

open Parse

/-- The tokens the scanner knows, in the order of the definition. -/
inductive Kind
  | semicolon | templateChars | ternaryMark | htmlComment | logicalOr | escape | regexPattern
  | jsxText | signatureSemicolon | recovery
deriving DecidableEq, Inhabited

namespace Kind

def index : Kind → Nat
  | semicolon => 0
  | templateChars => 1
  | ternaryMark => 2
  | htmlComment => 3
  | logicalOr => 4
  | escape => 5
  | regexPattern => 6
  | jsxText => 7
  | signatureSemicolon => 8
  | recovery => 9

end Kind

structure Found where
  kind : Kind
  start : Extent
  stop : Extent

variable (s : Source)

def isBlank (c : Char) : Bool :=
  let n := c.toNat
  9 ≤ n && n ≤ 13 || n = 0x20 || n = 0x1680 || 0x2000 ≤ n && n ≤ 0x200A && n ≠ 0x2007 ||
    n = 0x2028 || n = 0x2029 || n = 0x205F || n = 0x3000

def isLetter (c : Char) : Bool := c.isAlpha || 0x80 ≤ c.toNat

/-- The first place from here on whose character fails a test. -/
def skipWhile (test : Char → Bool) (p : Extent) : Extent :=
  go (s.size - p.chars) p
where
  go : (fuel : Nat) → Extent → Extent
    | 0, p => p
    | fuel + 1, p => match s.peek p with
      | some c => if test c then go fuel (p.past c) else p
      | none => p

def skipBlanks (p : Extent) : Extent := skipWhile s isBlank p

/-- Whether a text stands here. -/
def matchesText (text : List Char) (p : Extent) : Option Extent :=
  text.foldl (fun q c => q.bind fun q => if s.peek q = some c then some (q.past c) else none)
    (some p)

/-- The place behind a comment's closing star and slash, or the end. -/
def skipBlockComment (p : Extent) : Extent :=
  go (s.size - p.chars) p
where
  go : (fuel : Nat) → Extent → Extent
    | 0, p => p
    | fuel + 1, p => match matchesText s ['*', '/'] p with
      | some q => q
      | none => go fuel (s.step p)

/-- Skips blanks and comments. The flags say whether there was a comment, and whether a slash that
starts none stands in the way. -/
def skipTrivia (p : Extent) : Extent × Bool × Bool :=
  go (s.size - p.chars + 1) p false
where
  go : (fuel : Nat) → Extent → Bool → Extent × Bool × Bool
    | 0, p, saw => (p, saw, false)
    | fuel + 1, p, saw =>
      let p := skipBlanks s p
      if s.peek p = some '/' then
        let p := s.step p
        match s.peek p with
        | some '/' => go fuel (skipWhile s (· ≠ '\n') p) true
        | some '*' => go fuel (skipBlockComment s (s.step p)) true
        | _ => (p, saw, true)
      else (p, saw, false)

/-- Whether a line end stands for a semicolon before what comes next. A bracket or an operator goes
on with the line before. -/
def endsBefore (valid : Kind → Bool) (p : Extent) : Bool :=
  match s.peek p with
  | none => true
  | some c =>
    let next := s.peek (s.step p)
    if "\x60,.;*%><=?^|&/:".contains c then false
    else if c = '\x7b' then !valid .signatureSemicolon
    else if c = '(' || c = '[' then !valid .logicalOr
    else if c = '+' || c = '-' then next = some c
    else if c = '!' then next ≠ some '='
    else if c = 'i' then
      if next ≠ some 'n' then true
      else
        let p := s.step (s.step p)
        let letterAt (p : Extent) : Bool := (s.peek p).any isLetter
        if !letterAt p then false
        else match matchesText s "stanceof".toList p with
          | some q => letterAt q
          | none => true
    else true

/-- Looks for a line end, a closing brace or the end of the text, each of which may end a
statement. Also says where the search ended and whether it passed a comment. -/
def endOfStatement (valid : Kind → Bool) (p : Extent) : Bool × Extent × Bool :=
  let q := skipWhile s (fun c => isBlank c && c ≠ '\n') p
  match s.peek q with
  | none => (true, q, false)
  | some '\x7d' =>
    let r := skipBlanks s (s.step q)
    (if s.peek r = some ':' then valid .logicalOr else true, r, false)
  | some '\n' =>
    let (r, saw, slash) := skipTrivia s (s.step q)
    (!slash && endsBefore s valid r, r, saw)
  | some _ => (false, q, false)

/-- A question mark that starts a conditional expression: it is neither doubled, nor followed by a
point without a digit, nor by what marks something as optional. -/
def ternaryMark (p : Extent) : Option Found :=
  let start := skipBlanks s p
  if s.peek start = some '?' then
    let stop := s.step start
    let digitFollows (q : Extent) : Bool := (s.peek (s.step q)).any Char.isDigit
    let ok : Bool := match s.peek stop with
      | some '?' => false
      | some '.' => digitFollows stop
      | _ =>
        let q := skipBlanks s stop
        match s.peek q with
        | some ':' | some ')' | some ',' => false
        | some '.' => digitFollows q
        | _ => true
    if ok then some ⟨.ternaryMark, start, stop⟩ else none
  else none

/-- The text of a template up to a substitution, an escape or the closing mark. -/
def templateChars (p : Extent) : Option Found :=
  go (s.size - p.chars + 1) p
where
  go : (fuel : Nat) → Extent → Option Found
    | 0, _ => none
    | fuel + 1, q =>
      let found : Option Found := if q.chars = p.chars then none else some ⟨.templateChars, p, q⟩
      match s.peek q with
      | none | some '\x00' => none
      | some '\x60' | some '\\' => found
      | some '$' => if s.peek (s.step q) = some '\x7b' then found else go fuel (s.step q)
      | some _ => go fuel (s.step q)

/-- Text between markup elements. Blanks with a line end among them are no text. -/
def jsxText (p : Extent) : Bool × Extent :=
  go (s.size - p.chars) p false false
where
  go : (fuel : Nat) → Extent → Bool → Bool → Bool × Extent
    | 0, q, saw, _ => (saw, q)
    | fuel + 1, q, saw, atLineEnd =>
      match s.peek q with
      | none => (saw, q)
      | some c =>
        if "<>&\x7b\x7d\x00".contains c then (saw, q)
        else if c = '\n' then go fuel (q.past c) saw true
        else
          let atLineEnd := atLineEnd && isBlank c
          go fuel (q.past c) (saw || !atLineEnd) atLineEnd

def htmlComment (p : Extent) : Option Found :=
  let start := skipBlanks s p
  let opened := (matchesText s "<!--".toList start).or (matchesText s "-->".toList start)
  opened.map fun q =>
    ⟨.htmlComment, start,
      skipWhile s (fun c => c ≠ '\n' && c ≠ '\x00' && c.toNat ≠ 0x2028 && c.toNat ≠ 0x2029) q⟩

/-- Looks for the tokens that are valid here. While the parser recovers all of them are, and nothing
is found. -/
def scan (valid : Kind → Bool) (p : Extent) : Option Found :=
  if valid .templateChars then
    if valid .semicolon then none else templateChars s p
  else
    let (isText, q) := if valid .jsxText then jsxText s p else (false, p)
    if isText then some ⟨.jsxText, p, q⟩
    else if valid .semicolon || valid .signatureSemicolon then
      let (ends, r, sawComment) := endOfStatement s valid q
      if ends then
        some ⟨if valid .semicolon then .semicolon else .signatureSemicolon, p, p⟩
      else if !sawComment && valid .ternaryMark && s.peek r = some '?' then ternaryMark s r
      else none
    else if valid .ternaryMark then ternaryMark s q
    else if valid .htmlComment && !valid .logicalOr && !valid .escape && !valid .regexPattern then
      htmlComment s q
    else none

end ModuleAtlas.TypeScript.Scanner
