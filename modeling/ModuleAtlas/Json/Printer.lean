import ModuleAtlas.Json

/-!
# Writing JSON

A value is written on one line or with every element on a line of its own. Only quotes, backslashes
and control characters are escaped.
-/
namespace ModuleAtlas.Json.Printer

def hexDigit (n : Nat) : Char :=
  if n < 10 then Char.ofNat ('0'.toNat + n) else Char.ofNat ('a'.toNat + (n - 10))

/-- A character as it is written inside a string. -/
def character (c : Char) : List Char :=
  if c = '"' then ['\\', '"']
  else if c = '\\' then ['\\', '\\']
  else if c = '\x08' then ['\\', 'b']
  else if c = '\x0c' then ['\\', 'f']
  else if c = '\n' then ['\\', 'n']
  else if c = '\r' then ['\\', 'r']
  else if c = '\t' then ['\\', 't']
  else if c.toNat < 0x20 then
    ['\\', 'u', '0', '0', hexDigit (c.toNat / 16), hexDigit (c.toNat % 16)]
  else [c]

def string (s : String) : List Char := '"' :: s.toList.flatMap character ++ ['"']

def integer (n : Int) : List Char := (toString n).toList

/-- How the parts of a list or an object are set off: what stands before each part, what stands
after the last, and what stands after a name. -/
structure Layout where
  before : Nat → List Char
  after : Nat → List Char
  gap : List Char

def Layout.oneLine : Layout := ⟨fun _ => [], fun _ => [], []⟩

/-- Every part on a line of its own, indented by its depth. -/
def Layout.lines (indent : Nat) : Layout :=
  ⟨fun d => '\n' :: List.replicate (indent * (d + 1)) ' ',
    fun d => '\n' :: List.replicate (indent * d) ' ', [' ']⟩

mutual

def value (l : Layout) (depth : Nat) : Json → List Char
  | .null => "null".toList
  | .bool b => (if b then "true" else "false").toList
  | .int n => integer n
  | .real m e => integer m ++ 'e' :: integer e
  | .infinity negative => (if negative then "-Infinity" else "Infinity").toList
  | .notANumber => "NaN".toList
  | .string s => string s
  | .array [] => ['[', ']']
  | .array (x :: xs) =>
    '[' :: l.before depth ++ value l (depth + 1) x ++ elements l depth xs ++ l.after depth ++ [']']
  | .object [] => ['\x7b', '\x7d']
  | .object (m :: ms) =>
    '\x7b' :: l.before depth ++ member l depth m ++ members l depth ms ++ l.after depth ++ ['\x7d']

def member (l : Layout) (depth : Nat) : String × Json → List Char
  | (name, v) => string name ++ ':' :: l.gap ++ value l (depth + 1) v

/-- The elements behind the first. -/
def elements (l : Layout) (depth : Nat) : List Json → List Char
  | [] => []
  | x :: xs => ',' :: l.before depth ++ value l (depth + 1) x ++ elements l depth xs

/-- The members behind the first. -/
def members (l : Layout) (depth : Nat) : List (String × Json) → List Char
  | [] => []
  | m :: ms => ',' :: l.before depth ++ member l depth m ++ members l depth ms

end

end ModuleAtlas.Json.Printer

namespace ModuleAtlas.Json

def compact (v : Json) : String := String.ofList (Printer.value .oneLine 0 v)

def pretty (indent : Nat) (v : Json) : String := String.ofList (Printer.value (.lines indent) 0 v)

end ModuleAtlas.Json
