import ModuleAtlas.Disk
import ModuleAtlas.Json.Reader

/-!
# Disks described in JSON

A snapshot lists entries below a root: files with their content, directories, and links. Names and
contents that are not text are given by their bytes in hexadecimal.
-/
namespace ModuleAtlas.Disk

/-- The bytes that pairs of hexadecimal digits stand for. -/
def bytesOfHex : List Char → List UInt8
  | a :: b :: rest =>
    let digit (c : Char) : Nat := (Json.Reader.hexDigit? c).getD 0
    UInt8.ofNat (digit a * 16 + digit b) :: bytesOfHex rest
  | _ => []

def stringMember (name : String) (j : Json) : Option String :=
  match j.member? name with
  | some (.string s) => some s
  | _ => none

/-- The content of a described file. -/
def snapshotContent (j : Json) : List UInt8 :=
  match stringMember "hex" j with
  | some h => bytesOfHex h.toList
  | none => ((stringMember "text" j).getD "").toUTF8.toList

/-- The path of a described entry. -/
def snapshotPath (j : Json) : Path :=
  match stringMember "path_hex" j with
  | some h => Text.Glyph.ofBytes (bytesOfHex h.toList)
  | none => .ofText ((stringMember "path" j).getD "")

def snapshotEntry (j : Json) : Entry :=
  match stringMember "link" j, j.member? "dir" with
  | some target, _ => .link (.ofText target)
  | none, some (.bool true) => .directory none []
  | none, _ => .file (snapshotContent j)

/-- A disk with only a root on it. -/
def withRoot (workingDirectory root : Path) : Disk :=
  (Disk.mk (.directory none []) workingDirectory).write root (.directory none [])

/-- Writes a described entry below a root. -/
def writeSnapshot (root : Path) (d : Disk) (j : Json) : Disk :=
  d.write (Path.join root (snapshotPath j)) (snapshotEntry j)

/-- Writes described entries below a root, in order. -/
def writeSnapshots (root : Path) (d : Disk) (entries : List Json) : Disk :=
  entries.foldl (writeSnapshot root) d

/-- A described refusal: an error by its name in the system's table, or else by its text. -/
def snapshotRefusal (j : Json) : Refusal :=
  let name := (stringMember "error" j).getD ""
  let after := match j.member? "after" with
    | some (.int n) => n.toNat
    | _ => 0
  match Errno.ofName? name with
  | some e => ⟨.known e.text, after⟩
  | none => ⟨.unknown name, after⟩

def refuseSnapshots (root : Path) (d : Disk) (refusals : List Json) : Disk :=
  refusals.foldl
    (fun d j => d.refuse (Path.join root (snapshotPath j)) (snapshotRefusal j)) d

end ModuleAtlas.Disk
