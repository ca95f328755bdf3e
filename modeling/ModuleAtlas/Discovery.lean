import ModuleAtlas.Config
import ModuleAtlas.Log
import ModuleAtlas.Record

/-!
# Finding source files

A tree is walked from its root: a directory before those in it, and directories side by side in the
order of their names. Links to directories are not entered. A directory that cannot be listed is
passed over with a warning; only the root has to be readable.

## Main definitions

* `Visit` — one directory that the walk comes to.
* `Discovery.visits` — all visits of a walk that is not stopped.
* `Discovery.run` — the walk up to the point where a signal stops it.
* `discover` — the source files below a root, in order of their relative paths.
-/
namespace ModuleAtlas

/-- Says of each time it is asked whether to stop. -/
abbrev StopSignal := Nat → Bool

namespace StopSignal

def never : StopSignal := fun _ => false

def always : StopSignal := fun _ => true

/-- Lets a number of questions pass and stops then. -/
def after (n : Nat) : StopSignal := fun k => n ≤ k

/-- Stops when either of two signals does. -/
def either (a b : StopSignal) : StopSignal := fun k => a k || b k

end StopSignal

/-- The root of a tree cannot be read. -/
structure DiscoveryFault where
  root : Path
  reason : String
deriving DecidableEq, Inhabited

/-- What is told of a fault. The root is given as it is, with its stray bytes. -/
def DiscoveryFault.message (f : DiscoveryFault) : List Text.Glyph :=
  "Cannot read root directory " ++ f.root ++ s!": {f.reason}"

/-- A file with its path from the root and its full path. -/
structure SourceFile where
  path : String
  fullPath : Path
deriving DecidableEq, Inhabited

/-- A directory that the walk comes to: the names on the way to it, and the names of its source
files, unless it cannot be listed. -/
structure Visit where
  place : List Name
  outcome : Except Trouble (List Name)

namespace Discovery

/-- What decides where the walk goes: the configuration, and which links lead to directories. -/
structure View where
  config : Config
  entersDirectory : List Name → Bool

/-- Whether an entry of a directory is a source file. -/
def View.isSource (v : View) (place : List Name) (name : Name) (e : Entry) : Bool :=
  match e with
  | .directory _ _ => false
  | .file _ => v.config.isSourceFile name
  | .link _ => !v.entersDirectory (place ++ [name]) && v.config.isSourceFile name

def byName {α : Type} (a b : Name × α) : Bool := !Text.Glyph.before b.1 a.1

mutual

/-- The visits to a directory and to those in it; the directory has been listed so often before. -/
def visits (v : View) (listings : Nat) (place : List Name) : Entry → List Visit
  | .directory refusal entries =>
    match Entry.trouble? (.directory refusal entries) listings with
    | some t => [⟨place, .error t⟩]
    | none =>
      let sources := entries.filter fun x => v.isSource place x.1 x.2
      ⟨place, .ok (sources.map Prod.fst)⟩ ::
        ((visitsIn v place entries).mergeSort byName).flatMap Prod.snd
  | .file _ | .link _ => []

/-- The visits to each of the entries of a directory that is not passed over. -/
def visitsIn (v : View) (place : List Name) : List (Name × Entry) → List (Name × List Visit)
  | [] => []
  | (name, e) :: rest =>
    if e.isDirectory && !v.config.excludes name then
      (name, visits v 0 (place ++ [name]) e) :: visitsIn v place rest
    else visitsIn v place rest

end

/-- How far a walk has come. -/
structure Progress where
  /-- How often the signal has been asked. -/
  checks : Nat
  /-- The files found so far, by the names on the way to them. -/
  found : List (List Name)
  warnings : List Warning
  log : Log
  fault : Option DiscoveryFault

def sender : String := "depgraph.fs_scan"

/-- The full path of a place below a root. -/
def fullPath (root : Path) (place : List Name) : Path := place.foldl Path.join root

/-- The path of a place as it is written in reports. -/
def relativeText (root : Path) (place : List Name) : String :=
  (Path.relative root root (fullPath root place)).toText

/-- The warning of a directory that could not be listed. A trouble that does not name its directory
is reported without a path. -/
def skipped (root : Path) (place : List Name) (t : Trouble) : Warning :=
  let path := match t with
    | .known _ => relativeText root place
    | .unknown _ => ""
  ⟨.subtreeRead, path, s!"Skipping unreadable directory {path}: {t.reason}"⟩

/-- Goes on after a directory that could not be listed. -/
def Progress.warn (p : Progress) (root : Path) (place : List Name) (t : Trouble) : Progress :=
  { p with
    warnings := p.warnings ++ [skipped root place t]
    log := p.log ++ [.warning sender (skipped root place t).message] }

/-- The path by which a trouble names its directory, empty if it does not name it. -/
def namedPath (root : Path) (place : List Name) : Trouble → Path
  | .known _ => fullPath root place
  | .unknown _ => []

/-- Whether the trouble with a directory is taken for one with the root: the paths are compared. A
trouble that does not name its directory is taken for one with the working directory. -/
def concernsRoot (d : Disk) (root : Path) (place : List Name) (t : Trouble) : Bool :=
  d.absolute (namedPath root place t) = root

/-- Carries out visits until they are over, the signal stops them, or the root turns out to be
unreadable. -/
def run (d : Disk) (root : Path) (stop : StopSignal) : List Visit → Progress → Progress
  | [], p => p
  | ⟨place, .error t⟩ :: rest, p =>
    if concernsRoot d root place t then { p with fault := some ⟨root, t.reason⟩ }
    else run d root stop rest (p.warn root place t)
  | ⟨place, .ok files⟩ :: rest, p =>
    if stop p.checks then
      { p with
        checks := p.checks + 1
        log := p.log ++
          [.info sender s!"Discovery stopped early after {p.found.length} files"] }
    else
      run d root stop rest
        { p with checks := p.checks + 1, found := p.found ++ files.map fun n => place ++ [n] }

/-- The order of files: by path, then by full path. -/
def inOrder (a b : SourceFile) : Bool :=
  a.path < b.path || a.path = b.path && !Text.Glyph.before b.fullPath a.fullPath

def sourceFile (root : Path) (place : List Name) : SourceFile :=
  ⟨relativeText root place, fullPath root place⟩

/-- The source files that were found, and what was met on the way. -/
structure Outcome where
  files : List SourceFile
  warnings : List Warning
  log : Log
  checks : Nat

/-- What a walk that has come so far has found, in order. -/
def Progress.outcome (p : Progress) (root : Path) : Outcome :=
  ⟨(p.found.map (sourceFile root)).mergeSort inOrder, p.warnings, p.log, p.checks⟩

def Progress.start : Progress := ⟨0, [], [], [], none⟩

/-- What a walk below a root sees of a disk. -/
def view (d : Disk) (root : Path) (config : Config) : View :=
  ⟨config, fun place => d.isDirectory (fullPath root place)⟩

/-- The entry of a root that can be listed. -/
def openRoot (d : Disk) (root : Path) : Except DiscoveryFault Entry :=
  match d.find root with
  | .error _ => .error ⟨root, "no such directory"⟩
  | .ok e =>
    if root.hasNul then .error ⟨root, "no such directory"⟩
    else if !e.isDirectory then .error ⟨root, "not a directory"⟩
    else
      match e.trouble? 0 with
      | some t => .error ⟨root, t.reason⟩
      | none => .ok e

end Discovery

open Discovery

/-- The source files below a root, given by its absolute path. -/
def discover (d : Disk) (root : Path) (config : Config) (stop : StopSignal) :
    Except DiscoveryFault Discovery.Outcome :=
  match openRoot d root with
  | .error f => .error f
  | .ok e =>
    let p := run d root stop (visits (view d root config) 1 [] e) .start
    match p.fault with
    | some f => .error f
    | none => .ok (p.outcome root)

end ModuleAtlas
