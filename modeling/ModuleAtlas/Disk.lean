import ModuleAtlas.Disk.Path
import ModuleAtlas.Disk.Errno
import ModuleAtlas.Text.Quoted

/-!
# Disks

A disk is a tree of directories, files and symbolic links. A directory may refuse to be listed.
Paths are followed as the system follows them: links are resolved where they stand, and only so many
of them.
-/
namespace ModuleAtlas

open Text

abbrev Name := List Glyph

/-- Why a directory could not be listed: for a reason known to the system, which names the
directory, or for another one, which does not. -/
inductive Trouble
  | known (reason : String)
  | unknown (reason : String)
deriving DecidableEq, Inhabited

def Trouble.reason : Trouble → String
  | known r => r
  | unknown r => r

/-- A directory that may be listed only so many times. -/
structure Refusal where
  trouble : Trouble
  after : Nat
deriving DecidableEq, Inhabited

/-- What lies at a place, without what is in it. -/
inductive Node
  | file (content : List UInt8)
  | directory (refusal : Option Refusal)
  | link (target : Path)
deriving DecidableEq

/-- The trouble that the next listing of a directory meets, when it has been listed so often. -/
def Refusal.trouble? (r : Option Refusal) (listings : Nat) : Option Trouble :=
  (r.filter fun r => r.after ≤ listings).map Refusal.trouble

inductive Entry
  | file (content : List UInt8)
  | directory (refusal : Option Refusal) (entries : List (Name × Entry))
  | link (target : Path)
deriving Inhabited

namespace Entry

def isDirectory : Entry → Bool
  | directory _ _ => true
  | _ => false

def entries : Entry → List (Name × Entry)
  | directory _ es => es
  | _ => []

def refusal? : Entry → Option Refusal
  | directory r _ => r
  | _ => none

/-- The entry at a place, given by the names on the way to it. Links are not followed. -/
def at? : Entry → List Name → Option Entry
  | e, [] => some e
  | e, name :: rest => (e.entries.lookup name).bind (·.at? rest)

def node : Entry → Node
  | file content => .file content
  | directory refusal _ => .directory refusal
  | link target => .link target

def node? (e : Entry) (q : List Name) : Option Node := (e.at? q).map node

def trouble? (e : Entry) (listings : Nat) : Option Trouble :=
  Refusal.trouble? e.refusal? listings

/-- Puts an entry in the place of the one with its name, or behind all others. -/
def put (name : Name) (e : Entry) : List (Name × Entry) → List (Name × Entry)
  | [] => [(name, e)]
  | (n, d) :: rest => if n = name then (name, e) :: rest else (n, d) :: put name e rest

/-- Changes what lies at a place below an entry; directories on the way are made. -/
def update (f : Option Entry → Option Entry) : List Name → Option Entry → Option Entry
  | [], e => f e
  | name :: rest, e =>
    let old := (e.map entries).getD []
    let entries := match update f rest (old.lookup name) with
      | some new => put name new old
      | none => old.filter fun x => x.1 ≠ name
    some (.directory (e.bind refusal?) entries)

end Entry

structure Disk where
  top : Entry
  workingDirectory : Path

namespace Disk

/-- How many links are followed on one way, and how long names and paths may be. -/
def maxLinks : Nat := 40
def maxNameLength : Nat := 255
def maxPathLength : Nat := 4095

/-- Where one component of a path leads: to a place, to where a link points, or nowhere. -/
inductive Turn
  | place (q : List Name)
  | link (target : Path)
  | fault (e : Errno)
deriving DecidableEq

/-- Goes on to a place where something lies, or nothing. -/
def Turn.into (q : List Name) : Option Node → Turn
  | none => .fault .notFound
  | some (.link target) => .link target
  | some _ => .place q

/-- Takes one component of a path from a place. -/
def turn (top : Entry) (here : List Name) (c : Path) : Turn :=
  match top.node? here with
  | some (.directory _) =>
    if c = [] ∨ c = [Path.dot] then .place here
    else if c = Path.parent then .place here.dropLast
    else if maxNameLength < Path.byteLength c then .fault .nameTooLong
    else .into (here ++ [c]) (top.node? (here ++ [c]))
  | _ => .fault .notDirectory

/-- Takes the components of a path one after the other; what comes of a link is given. -/
def takeTurns (top : Entry) (onLink : List Path → List Name → Except Errno (List Name)) :
    List Path → List Name → Except Errno (List Name)
  | [], here => .ok here
  | c :: rest, here =>
    match turn top here c with
    | .place q => takeTurns top onLink rest q
    | .fault e => .error e
    | .link target =>
      onLink (target.components ++ rest) (if target.isAbsolute then [] else here)

/-- Follows the components of a path from a place, and so many links on the way. -/
def follow (top : Entry) : (links : Nat) → List Path → List Name → Except Errno (List Name)
  | 0 => takeTurns top fun _ _ => .error .tooManyLinks
  | links + 1 => takeTurns top (follow top links)

variable (d : Disk)

/-- The place that a path leads to. -/
def locate (p : Path) : Except Errno (List Name) :=
  if p = [] then .error .notFound
  else if maxPathLength < p.byteLength then .error .nameTooLong
  else follow d.top maxLinks (Path.join d.workingDirectory p).components []

/-- The entry that a path leads to. -/
def find (p : Path) : Except Errno Entry :=
  match d.locate p with
  | .error e => .error e
  | .ok q => (d.top.at? q).elim (.error .notFound) .ok

/-- What lies where a path leads to. -/
def nodeAt (p : Path) : Except Errno Node :=
  match d.locate p with
  | .error e => .error e
  | .ok q => (d.top.node? q).elim (.error .notFound) .ok

def isDirectory (p : Path) : Bool :=
  match d.nodeAt p with
  | .ok (.directory _) => !p.hasNul
  | _ => false

def absolute (p : Path) : Path := Path.absolute d.workingDirectory p

/-! ## Reading -/

inductive ReadFault
  | nulInPath
  | refused (e : Errno) (p : Path)
deriving DecidableEq

def quoted (p : Path) : String := String.ofList (Quoted.encode p)

def ReadFault.message : ReadFault → String
  | nulInPath => "embedded null byte"
  | refused e p => e.about (quoted p)

def readFile (p : Path) : Except ReadFault (List UInt8) :=
  if p.hasNul then .error .nulInPath
  else
    match d.nodeAt p with
    | .ok (.file content) => .ok content
    | .ok _ => .error (.refused .isDirectory p)
    | .error e => .error (.refused e p)

/-! ## Changing -/

/-- The disk with another entry, or none, at a place. -/
def update (place : List Name) (f : Option Entry → Option Entry) : Disk :=
  { d with top := (Entry.update f place (some d.top)).getD (.directory none []) }

/-- The place that a path names, whether or not anything is there. Links on the way count. -/
def placeOf (p : Path) : List Name :=
  let cs := (d.absolute p).components.filter fun c => !c.isEmpty
  match d.locate (Path.slash :: Path.ofComponents cs.dropLast) with
  | .ok q => q ++ cs.getLast?.toList
  | .error _ => cs

/-- Writes an entry. A file is written through a link to where it leads. -/
def write (p : Path) (e : Entry) : Disk :=
  let place := match e, d.locate p with
    | .file _, .ok q => q
    | _, _ => d.placeOf p
  d.update place fun old => match e, old with
    | .directory _ _, some (.directory r es) => some (.directory r es)
    | e, _ => some e

/-- Deletes an entry, a directory with all that is in it. A link is deleted itself. -/
def delete (p : Path) : Except Errno Disk :=
  let place := d.placeOf p
  match d.top.at? place.dropLast, place.getLast? with
  | some (.directory _ es), some name =>
    if (es.lookup name).isSome then .ok (d.update place fun _ => none) else .error .notFound
  | some _, some _ => .error .notDirectory
  | _, _ => .error .notFound

/-- Lets the directory at a path refuse to be listed. -/
def refuse (p : Path) (r : Refusal) : Disk :=
  match d.locate p with
  | .ok q => d.update q fun
    | some (.directory _ es) => some (.directory (some r) es)
    | other => other
  | .error _ => d

end Disk

end ModuleAtlas
