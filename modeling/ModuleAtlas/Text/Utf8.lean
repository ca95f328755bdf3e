/-!
# UTF-8

Reads bytes as text. What cannot be read is reported by its place and by what is wrong with it: the
bytes up to the first one that cannot go on.
-/
namespace ModuleAtlas.Text.Utf8

inductive Defect
  | invalidStart
  | invalidContinuation
  | unexpectedEnd
deriving DecidableEq, Inhabited

def Defect.reason : Defect → String
  | invalidStart => "invalid start byte"
  | invalidContinuation => "invalid continuation byte"
  | unexpectedEnd => "unexpected end of data"

/-- What cannot be read: its first byte, where it begins, and how many bytes it has. -/
structure Fault where
  defect : Defect
  byte : UInt8
  start : Nat
  length : Nat
deriving DecidableEq, Inhabited

def hexDigits (n : Nat) : String :=
  let digits := String.ofList (Nat.toDigits 16 n)
  if n < 16 then "0" ++ digits else digits

def Fault.message (f : Fault) : String :=
  let place :=
    if f.length = 1 then "byte 0x" ++ hexDigits f.byte.toNat ++ " in position " ++ toString f.start
    else "bytes in position " ++ toString f.start ++ "-" ++ toString (f.start + f.length - 1)
  "'utf-8' codec can't decode " ++ place ++ ": " ++ f.defect.reason

/-- The values that a second byte may have behind a first one, and how many bytes follow in all;
none if no character starts with the byte. -/
def follow? (first : UInt8) : Option (UInt8 × UInt8 × Nat) :=
  if first < 0xC2 then none
  else if first < 0xE0 then some (0x80, 0xBF, 1)
  else if first = 0xE0 then some (0xA0, 0xBF, 2)
  else if first = 0xED then some (0x80, 0x9F, 2)
  else if first < 0xF0 then some (0x80, 0xBF, 2)
  else if first = 0xF0 then some (0x90, 0xBF, 3)
  else if first < 0xF4 then some (0x80, 0xBF, 3)
  else if first = 0xF4 then some (0x80, 0x8F, 3)
  else none

/-- Reads so many more bytes of a character, the next one within bounds. Where that fails, the
answer is the number of bytes that could be read. -/
def continuation (low high : UInt8) (value : Nat) : (count read : Nat) → List UInt8 →
    Except (Defect × Nat) (Char × List UInt8)
  | 0, _, bs => .ok (Char.ofNat value, bs)
  | _ + 1, read, [] => .error (.unexpectedEnd, read)
  | count + 1, read, b :: bs =>
    if low ≤ b ∧ b ≤ high then
      continuation 0x80 0xBF (value * 0x40 + b.toNat % 0x40) count (read + 1) bs
    else .error (.invalidContinuation, read)

/-- The bits of a first byte that belong to its character. -/
def leadingBits (first : UInt8) (count : Nat) : Nat := first.toNat % (0x40 >>> count)

/-- The first character, or what is wrong and how many bytes it takes. -/
def next (first : UInt8) (bs : List UInt8) : Except (Defect × Nat) (Char × List UInt8) :=
  if first < 0x80 then .ok (Char.ofNat first.toNat, bs)
  else
    match follow? first with
    | none => .error (.invalidStart, 1)
    | some (low, high, count) => continuation low high (leadingBits first count) count 1 bs

def character? : List UInt8 → Option (Char × List UInt8)
  | [] => none
  | b :: bs => (next b bs).toOption

/-- Reads all bytes; the place of the first of them and the characters before it are given. -/
def decodeFrom : (fuel start : Nat) → List UInt8 → List Char → Except Fault (List Char)
  | _, _, [], read => .ok read.reverse
  | 0, _, _ :: _, read => .ok read.reverse
  | fuel + 1, start, b :: bs, read =>
    match next b bs with
    | .ok (c, rest) => decodeFrom fuel (start + c.utf8Size) rest (c :: read)
    | .error (defect, length) => .error ⟨defect, b, start, length⟩

/-- The text of a row of bytes. -/
def decode (bs : List UInt8) : Except Fault (List Char) := decodeFrom bs.length 0 bs []

def mark : List UInt8 := [0xEF, 0xBB, 0xBF]

/-- The text behind a byte order mark, if there is one; places are counted behind it. Bytes that
break off within the mark are an empty text. -/
def decodeMarked (bs : List UInt8) : Except Fault (List Char) :=
  if bs.length < 3 && bs.isPrefixOf mark then .ok []
  else if mark.isPrefixOf bs then decode (bs.drop 3)
  else decode bs

/-- Every kind of line end as a line feed. -/
def unifyLines : List Char → List Char
  | '\r' :: '\n' :: s => '\n' :: unifyLines s
  | '\r' :: s => '\n' :: unifyLines s
  | c :: s => c :: unifyLines s
  | [] => []

end ModuleAtlas.Text.Utf8
