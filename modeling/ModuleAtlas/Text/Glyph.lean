import ModuleAtlas.Text.LowerCase
import ModuleAtlas.Text.Utf8

/-!
# File names

A file name is a row of bytes. Where the bytes are UTF-8 they are characters; a byte that is no part
of a character stands for itself.
-/
namespace ModuleAtlas.Text

inductive Glyph
  | char (c : Char)
  | byte (b : UInt8)
deriving DecidableEq, Inhabited, Repr

namespace Glyph

/-- The place in the order of names. Stray bytes come where the low surrogates are. -/
def code : Glyph → Nat
  | char c => c.toNat
  | byte b => 0xDC00 + b.toNat

def hexDigit (n : Nat) : Char := (Nat.toDigits 16 n).headD '0'

/-- The last hexadecimal digits of a number, as many as asked for. -/
def hex (width n : Nat) : List Char :=
  match width with
  | 0 => []
  | width + 1 => hex width (n / 16) ++ [hexDigit (n % 16)]

/-- A stray byte is spelled by its number. -/
def spelled : Glyph → List Char
  | char c => [c]
  | byte b => '\\' :: 'x' :: hex 2 b.toNat

def ofText (s : List Char) : List Glyph := s.map char

/-- A text is a row of glyphs without stray bytes. -/
instance : Coe String (List Glyph) := ⟨fun s => ofText s.toList⟩

def char? : Glyph → Option Char
  | char c => some c
  | byte _ => none

/-- The text that a row of glyphs is, if there are no stray bytes in it. -/
def string? (g : List Glyph) : Option String := (g.mapM char?).map String.ofList

/-- The characters and stray bytes of a row of bytes. -/
def ofBytes (bs : List UInt8) : List Glyph := go bs.length bs
where
  go : (fuel : Nat) → List UInt8 → List Glyph
    | 0, _ => []
    | _, [] => []
    | fuel + 1, b :: bs =>
      match Utf8.character? (b :: bs) with
      | some (c, rest) => char c :: go fuel rest
      | none => byte b :: go fuel bs

def toBytes (g : List Glyph) : List UInt8 :=
  g.flatMap fun
    | char c => String.utf8EncodeChar c
    | byte b => [b]

/-- The text of a row of glyphs; stray bytes are spelled out. -/
def text (g : List Glyph) : List Char := g.flatMap spelled

/-- The characters up to the first stray byte. -/
def leadingText : List Glyph → List Char
  | char c :: g => c :: leadingText g
  | _ => []

/-- The lower-case form. A stray byte bounds the text on both sides of it. -/
def lowerBehind : (before : List Char) → List Glyph → List Glyph
  | _, [] => []
  | before, char c :: g =>
    (lowerAt before (leadingText g) c).map char ++ lowerBehind (c :: before) g
  | _, byte b :: g => byte b :: lowerBehind [] g

def lower (g : List Glyph) : List Glyph := lowerBehind [] g

/-- The order of names, glyph by glyph. -/
def before (a b : List Glyph) : Bool := a.map code < b.map code

end Glyph

end ModuleAtlas.Text
