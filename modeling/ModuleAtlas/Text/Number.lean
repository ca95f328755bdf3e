import ModuleAtlas.Json.Reader
import ModuleAtlas.Text.Space

/-!
# Numbers in arguments

Numbers may have white space around them, a sign, and single underscores between digits. The decimal
digits of every script count.
-/
namespace ModuleAtlas.Text

/-- The zeros of all scripts; the other nine digits follow each of them. -/
def zeros : List Nat :=
  [0x30, 0x660, 0x6F0, 0x7C0, 0x966, 0x9E6, 0xA66, 0xAE6, 0xB66, 0xBE6, 0xC66, 0xCE6, 0xD66, 0xDE6,
   0xE50, 0xED0, 0xF20, 0x1040, 0x1090, 0x17E0, 0x1810, 0x1946, 0x19D0, 0x1A80, 0x1A90, 0x1B50,
   0x1BB0, 0x1C40, 0x1C50, 0xA620, 0xA8D0, 0xA900, 0xA9D0, 0xA9F0, 0xAA50, 0xABF0, 0xFF10, 0x104A0,
   0x10D30, 0x11066, 0x110F0, 0x11136, 0x111D0, 0x112F0, 0x11450, 0x114D0, 0x11650, 0x116C0,
   0x11730, 0x118E0, 0x11950, 0x11C50, 0x11D50, 0x11DA0, 0x16A60, 0x16AC0, 0x16B50, 0x1D7CE,
   0x1D7D8, 0x1D7E2, 0x1D7EC, 0x1D7F6, 0x1E140, 0x1E2F0, 0x1E950, 0x1FBF0]

def digitValue? (c : Char) : Option Nat :=
  (zeros.find? fun z => z ≤ c.toNat && c.toNat ≤ z + 9).map fun z => c.toNat - z

def isDigit (c : Char) : Bool := (digitValue? c).isSome

/-- A sign and what is behind it. -/
def signed (s : List Char) : Bool × List Char :=
  match s with
  | '-' :: s => (true, s)
  | '+' :: s => (false, s)
  | s => (false, s)

/-- Digits in groups that are set apart by single underscores. -/
def grouped? (s : List Char) : Option (List Nat) :=
  let groups := s.splitOn '_'
  if groups.all fun g => !g.isEmpty && g.all isDigit then
    some (groups.flatten.filterMap digitValue?)
  else none

def natural (ds : List Nat) : Nat := ds.foldl (fun n d => n * 10 + d) 0

def integer? (s : List Char) : Option Int :=
  let (negative, s) := signed (trimBy isWhite s)
  (grouped? s).bind fun ds =>
    if 4300 < ds.length then none
    else
      let n : Int := natural ds
      some (if negative then -n else n)

/-- Digits that may be missing. -/
def maybeGrouped? (s : List Char) : Option (List Nat) := if s.isEmpty then some [] else grouped? s

/-- The words for numbers that have no digits. -/
def wordNumber? (s : List Char) : Option Float :=
  match String.ofList (s.map Char.toLower) with
  | "inf" | "infinity" => some (1 / 0)
  | "nan" => some (0 / 0)
  | _ => none

/-- A number with digits, a point and a power of ten. -/
def decimal? (s : List Char) : Option Float := do
  let (mantissa, power) := s.span fun c => c ≠ 'e' && c ≠ 'E'
  let power ← match power with
    | [] => some 0
    | _ :: p =>
      let (negative, p) := signed p
      (grouped? p).map fun ds => if negative then -(natural ds : Int) else natural ds
  let (whole, fraction) := mantissa.span (· ≠ '.')
  let whole ← maybeGrouped? whole
  let fraction ← maybeGrouped? (fraction.drop 1)
  if whole.isEmpty && fraction.isEmpty then none
  else (Json.real (natural (whole ++ fraction)) (power - fraction.length)).toFloat?

def float? (s : List Char) : Option Float :=
  let (negative, s) := signed (trimBy isWhite s)
  ((wordNumber? s).or (decimal? s)).map fun x => if negative then -x else x

end ModuleAtlas.Text
