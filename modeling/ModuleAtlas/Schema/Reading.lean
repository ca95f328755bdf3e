import ModuleAtlas.Schema.Checked
import ModuleAtlas.Json.Reader
import ModuleAtlas.Kind
import ModuleAtlas.Text.Space

/-!
# Reading JSON values as what they are meant to be

Readers are lenient: words and numbers may stand for truth values, and texts and whole numbers with
a fraction of zero for integers. A member of an object may go by two names; the first one wins.
-/
namespace ModuleAtlas.Schema

open Checked

/-- Reads a value of some type. -/
abbrev Reading (α : Type) := Json → Checked α

def readString : Reading String
  | .string s => ok s
  | _ => fail .notString

/-! ## Truth values -/

def trueWords : List String := ["1", "on", "t", "true", "y", "yes"]

def falseWords : List String := ["0", "off", "f", "false", "n", "no"]

/-- The integer that a number stands for, if it is one and a word of 64 bits holds it. -/
def integerOf (x : Float) : Except Cause Int :=
  if x.isNaN || x.isInf then .error .infiniteInt
  else if x.floor != x then .error .fractionalInt
  else if -9223372036854775808 < x && x < 9223372036854775808 then .ok x.toInt64.toInt
  else .error .hugeInt

def boolOfInt : Int → Checked Bool
  | 0 => ok false
  | 1 => ok true
  | _ => fail .unreadableBool

def readBool : Reading Bool
  | .bool b => ok b
  | .string s =>
    let word := String.ofList (s.toList.map Char.toLower)
    if trueWords.contains word then ok true
    else if falseWords.contains word then ok false
    else fail .unreadableBool
  | .int n => if n.natAbs < 0x8000000000000000 then boolOfInt n else fail .notBool
  | v =>
    match v.toFloat?.map integerOf with
    | some (.ok n) => boolOfInt n
    | _ => fail .notBool

/-! ## Integers -/

/-- The digits of a number that may be grouped by single underscores. -/
def groupedDigits? (s : List Char) : Option (List Char) :=
  let groups := s.splitOn '_'
  if groups.all fun g => !g.isEmpty && g.all Json.Reader.isDigit then some groups.flatten else none

/-- A text without a point and zeros at its end. -/
def withoutZeroFraction (s : List Char) : List Char :=
  let (whole, rest) := s.span (· ≠ '.')
  match rest with
  | _ :: fraction => if fraction.all (· = '0') then whole else s
  | [] => s

/-- How many digits an integer may be written with. -/
def maxDigits : Nat := 4300

/-- The integer that a text stands for: blanks around it, a sign, grouped digits and a fraction of
zero are allowed. -/
def integerText? (s : List Char) : Option Int :=
  let s := Text.trimBy Text.isWhite s
  let (negative, s) := match s with
    | '-' :: s => (true, s)
    | '+' :: s => (false, s)
    | s => (false, s)
  (groupedDigits? (withoutZeroFraction s)).map fun ds =>
    let n : Int := Json.Reader.natural 0 ds
    if negative then -n else n

def readIntText (s : String) : Checked Int :=
  if maxDigits < (Text.trimBy Text.isWhite s.toList).length then fail .hugeInt
  else
    match integerText? s.toList with
    | some n => ok n
    | none => fail .unreadableInt

def readInt : Reading Int
  | .int n => ok n
  | .bool b => ok (if b then 1 else 0)
  | .string s => readIntText s
  | v =>
    match v.toFloat?.map integerOf with
    | some (.ok n) => ok n
    | some (.error c) => fail c
    | none => fail .notInt

/-! ## Kinds, rows and sets -/

def readKind {α : Type} [Spelled α] : Reading α
  | .string s =>
    match Spelled.ofText? s with
    | some a => ok a
    | none => fail (.notOneOf ((Spelled.all (α := α)).map text))
  | _ => fail (.notOneOf ((Spelled.all (α := α)).map text))

def readRow {α : Type} (f : Reading α) : Reading (List α)
  | .array xs => row f xs 0
  | _ => fail .notRow

def readSet {α : Type} (f : Reading α) : Reading (List α)
  | .array xs => row f xs 0
  | _ => fail .notSet

/-! ## Objects -/

/-- The members of an object. -/
abbrev Members := List (String × Json)

def readObject {α : Type} (f : Members → Checked α) : Reading α
  | .object ms => f ms
  | _ => fail .notObject

/-- The member with one of two names. -/
def Members.find? (ms : Members) (name other : String) : Option Json :=
  (Json.lookup name ms).or (Json.lookup other ms)

/-- A member that must be there. -/
def required {α : Type} (ms : Members) (name other : String) (f : Reading α) : Checked α :=
  within (.key name) <|
    match ms.find? name other with
    | some v => f v
    | none => fail .missing

/-- A member with a value to fall back on. -/
def optional {α : Type} (ms : Members) (name other : String) (f : Reading α) (a : α) : Checked α :=
  match ms.find? name other with
  | some v => within (.key name) (f v)
  | none => ok a

/-- Reads the text of a value. -/
def readText {α : Type} (f : Reading α) (s : String) : Checked α :=
  match Json.parse? s with
  | some v => f v
  | none => fail .notJson

end ModuleAtlas.Schema
