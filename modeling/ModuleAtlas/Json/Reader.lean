import ModuleAtlas.Json

/-!
# Reading JSON

The text of a value may have blanks around it. Control characters in strings, escapes for half a
surrogate pair and leading zeros are refused; `NaN` and `Infinity` are numbers. Values may be nested
to a given depth.
-/
namespace ModuleAtlas.Json.Reader

def isBlank (c : Char) : Bool := c = ' ' || c = '\t' || c = '\n' || c = '\r'

def skip (s : List Char) : List Char := s.dropWhile isBlank

/-- The text behind a word at its start. -/
def after? : (word : List Char) → List Char → Option (List Char)
  | [], s => some s
  | c :: word, d :: s => if c = d then after? word s else none
  | _ :: _, [] => none

/-! ## Strings -/

def hexDigit? (c : Char) : Option Nat :=
  if '0' ≤ c ∧ c ≤ '9' then some (c.toNat - '0'.toNat)
  else if 'a' ≤ c ∧ c ≤ 'f' then some (c.toNat - 'a'.toNat + 10)
  else if 'A' ≤ c ∧ c ≤ 'F' then some (c.toNat - 'A'.toNat + 10)
  else none

/-- Four hexadecimal digits. -/
def unit? : List Char → Option (Nat × List Char)
  | a :: b :: c :: d :: s => do
    let a ← hexDigit? a
    let b ← hexDigit? b
    let c ← hexDigit? c
    let d ← hexDigit? d
    return (((a * 16 + b) * 16 + c) * 16 + d, s)
  | _ => none

/-- The character that an escape stands for, behind its backslash. -/
def escape? : List Char → Option (Char × List Char)
  | '"' :: s => some ('"', s)
  | '\\' :: s => some ('\\', s)
  | '/' :: s => some ('/', s)
  | 'b' :: s => some ('\x08', s)
  | 'f' :: s => some ('\x0c', s)
  | 'n' :: s => some ('\n', s)
  | 'r' :: s => some ('\r', s)
  | 't' :: s => some ('\t', s)
  | 'u' :: s => do
    let (high, s) ← unit? s
    if 0xD800 ≤ high ∧ high < 0xDC00 then
      let s ← after? ['\\', 'u'] s
      let (low, s) ← unit? s
      if 0xDC00 ≤ low ∧ low < 0xE000 then
        return (Char.ofNat (0x10000 + (high - 0xD800) * 0x400 + (low - 0xDC00)), s)
      else none
    else if 0xDC00 ≤ high ∧ high < 0xE000 then none
    else return (Char.ofNat high, s)
  | _ => none

/-- The characters of a string behind its opening quote. -/
def characters : (fuel : Nat) → List Char → (acc : List Char) → Option (String × List Char)
  | 0, _, _ => none
  | _, [], _ => none
  | fuel + 1, c :: s, acc =>
    if c = '"' then some (String.ofList acc.reverse, s)
    else if c = '\\' then
      match escape? s with
      | some (d, s) => characters fuel s (d :: acc)
      | none => none
    else if c.toNat < 0x20 then none
    else characters fuel s (c :: acc)

def string? (fuel : Nat) : List Char → Option (String × List Char)
  | '"' :: s => characters fuel s []
  | _ => none

/-! ## Numbers -/

def isDigit (c : Char) : Bool := '0' ≤ c ∧ c ≤ '9'

/-- The number that decimal digits stand for, read on from those before. -/
def natural (before : Nat) (digits : List Char) : Nat :=
  digits.foldl (fun n c => n * 10 + (c.toNat - '0'.toNat)) before

/-- At least one digit. -/
def digits? (s : List Char) : Option (List Char × List Char) :=
  match s.takeWhile isDigit with
  | [] => none
  | ds => some (ds, s.dropWhile isDigit)

/-- Digits of which the first is zero only if it stands alone. -/
def wholePart? (s : List Char) : Option (List Char × List Char) :=
  match digits? s with
  | some ('0' :: _ :: _, _) => none
  | other => other

/-- The digits behind a point, if there is one. -/
def fraction? : List Char → Option (Option (List Char) × List Char)
  | '.' :: s => (digits? s).map fun (ds, s) => (some ds, s)
  | s => some (none, s)

/-- The power of ten behind an exponent mark, if there is one. -/
def power? : List Char → Option (Option Int × List Char)
  | c :: s =>
    if c = 'e' ∨ c = 'E' then
      let (negative, s) := match s with
        | '-' :: s => (true, s)
        | '+' :: s => (false, s)
        | s => (false, s)
      (digits? s).map fun (ds, s) =>
        let n : Int := natural 0 ds
        (some (if negative then -n else n), s)
    else some (none, c :: s)
  | [] => some (none, [])

/-- A number without its sign. -/
def unsigned? (negative : Bool) (s : List Char) : Option (Json × List Char) := do
  let (whole, s) ← wholePart? s
  let (fraction, s) ← fraction? s
  let (power, s) ← power? s
  let n : Int := natural (natural 0 whole) (fraction.getD [])
  let n := if negative then -n else n
  match fraction, power with
  | none, none => return (.int n, s)
  | _, _ => return (.real n (power.getD 0 - (fraction.getD []).length), s)

def number? : List Char → Option (Json × List Char)
  | '-' :: s =>
    match after? "Infinity".toList s with
    | some s => some (.infinity true, s)
    | none => unsigned? true s
  | s => unsigned? false s

/-! ## Values -/

/-- The words that stand for values. -/
def words : List (List Char × Json) :=
  [("null".toList, .null), ("true".toList, .bool true), ("false".toList, .bool false),
   ("NaN".toList, .notANumber), ("Infinity".toList, .infinity false)]

def word? (s : List Char) : Option (Json × List Char) :=
  words.findSome? fun (w, v) => (after? w s).map fun s => (v, s)

mutual

/-- A value at the start of a text, and the text behind it. -/
def value? : (fuel depth : Nat) → List Char → Option (Json × List Char)
  | 0, _, _ => none
  | fuel + 1, depth, s =>
    match s with
    | '[' :: s =>
      match depth, skip s with
      | 0, _ => none
      | _, ']' :: s => some (.array [], s)
      | depth + 1, s => (elements? fuel depth s []).map fun (xs, s) => (.array xs, s)
    | '\x7b' :: s =>
      match depth, skip s with
      | 0, _ => none
      | _, '\x7d' :: s => some (.object [], s)
      | depth + 1, s => (members? fuel depth s []).map fun (ms, s) => (.object ms, s)
    | '"' :: _ => (string? fuel s).map fun (t, s) => (.string t, s)
    | s => (word? s).or (number? s)

/-- The elements of an array, of which some have been read. -/
def elements? : (fuel depth : Nat) → List Char → List Json → Option (List Json × List Char)
  | 0, _, _, _ => none
  | fuel + 1, depth, s, read =>
    match value? fuel depth s with
    | some (v, s) =>
      match skip s with
      | ',' :: s => elements? fuel depth (skip s) (v :: read)
      | ']' :: s => some ((v :: read).reverse, s)
      | _ => none
    | none => none

/-- The members of an object, of which some have been read. -/
def members? : (fuel depth : Nat) → List Char → List (String × Json) →
    Option (List (String × Json) × List Char)
  | 0, _, _, _ => none
  | fuel + 1, depth, s, read =>
    match string? fuel s with
    | some (name, s) =>
      match skip s with
      | ':' :: s =>
        match value? fuel depth (skip s) with
        | some (v, s) =>
          match skip s with
          | ',' :: s => members? fuel depth (skip s) ((name, v) :: read)
          | '\x7d' :: s => some (((name, v) :: read).reverse, s)
          | _ => none
        | none => none
      | _ => none
    | none => none

end

end ModuleAtlas.Json.Reader

namespace ModuleAtlas.Json

/-- The value that a whole text stands for, nested no deeper than allowed. Each character of a text
takes two steps at most. -/
def read? (depth : Nat) (text : List Char) : Option Json :=
  match Reader.value? (2 * text.length + 2) depth (Reader.skip text) with
  | some (v, s) => if (Reader.skip s).isEmpty then some v else none
  | none => none

/-- How deep the values of a document may be nested. -/
def maxDepth : Nat := 200

def parse? (text : String) : Option Json := read? maxDepth text.toList

end ModuleAtlas.Json
