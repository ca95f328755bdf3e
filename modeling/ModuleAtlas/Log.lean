import ModuleAtlas.Settings
import ModuleAtlas.Text.Glyph
import ModuleAtlas.Text.UpperCase

/-!
# Logging

Messages go to handlers, each of which writes those that are severe enough to its stream. Setting up
logging takes away all handlers that there are and puts one in their place.
-/
namespace ModuleAtlas

open Text

/-- A message with its severity and the name of who sends it. It may name a directory, so there may
be stray bytes in its text. -/
structure Message where
  level : Int
  sender : String
  text : List Glyph
deriving DecidableEq, Inhabited, Repr

namespace Level

def debug : Int := 10
def info : Int := 20
def warning : Int := 30
def error : Int := 40
def critical : Int := 50

/-- The names by which a level may be asked for. -/
def names : List (String × Int) :=
  [("CRITICAL", critical), ("FATAL", critical), ("ERROR", error), ("WARN", warning),
   ("WARNING", warning), ("INFO", info), ("DEBUG", debug), ("NOTSET", 0)]

/-- The name under which a level is written. -/
def name : Int → String
  | 50 => "CRITICAL"
  | 40 => "ERROR"
  | 30 => "WARNING"
  | 20 => "INFO"
  | 10 => "DEBUG"
  | 0 => "NOTSET"
  | n => s!"Level {n}"

/-- The level with a name, in whatever case. An unknown name asks for information. -/
def ofName (s : String) : Int :=
  (names.lookup (String.ofList (Text.upper s.toList))).getD info

end Level

/-- Messages in the order in which they were sent. -/
abbrev Log := List Message

namespace Message

def info (sender : String) (text : List Glyph) : Message := ⟨Level.info, sender, text⟩

def warning (sender : String) (text : List Glyph) : Message := ⟨Level.warning, sender, text⟩

/-- A message as it is written. -/
def line (time : String) (m : Message) : List Glyph :=
  s!"{time} - {m.sender} - {Level.name m.level} - " ++ m.text

end Message

/-- A handler and the stream that it writes to; streams are numbered. -/
structure Handler where
  stream : Nat
  level : Int
deriving DecidableEq, Inhabited, Repr

/-- The state of logging. -/
structure Logging where
  level : Int
  handlers : List Handler
deriving DecidableEq, Inhabited, Repr

namespace Logging

/-- Before anything is set up, warnings count and nothing is written. -/
def initial : Logging := ⟨Level.warning, []⟩

def setLevel (l : Logging) (level : Int) : Logging := { l with level := level }

def add (l : Logging) (h : Handler) : Logging := { l with handlers := l.handlers ++ [h] }

def remove (l : Logging) (h : Handler) : Logging := { l with handlers := l.handlers.erase h }

/-- Sets the level, takes the handlers away one by one, and adds one for a stream. -/
def direct (l : Logging) (stream : Nat) (level : Int) : Logging :=
  let l := l.setLevel level
  (l.handlers.foldl remove l).add ⟨stream, level⟩

/-- Sets logging up anew with one stream. The level is the one with the given name, or else the one
that the settings name. Where these cannot be read, logging stays as it is. -/
def setup (e : Environment) (stream : Nat) (level : Option String) (l : Logging)
    (kept : Settings.Kept) : Schema.Checked Unit × Logging × Settings.Kept :=
  match level.filter (· ≠ "") with
  | some name => (.ok (), l.direct stream (Level.ofName name), kept)
  | none =>
    match Settings.get e kept with
    | (.ok s, kept) => (.ok (), l.direct stream (Level.ofName s.logLevel), kept)
    | (.faults fs, kept) => (.faults fs, l, kept)

/-- The greatest level at which no message is passed on, whatever the level of logging is. -/
def silenced : Int := 0

/-- Whether messages of a level are passed on to the handlers. -/
def isEnabled (l : Logging) (level : Int) : Bool := silenced < level && l.level ≤ level

/-- The streams that a message arrives in. -/
def streams (l : Logging) (m : Message) : List Nat :=
  if l.isEnabled m.level then (l.handlers.filter fun h => h.level ≤ m.level).map Handler.stream
  else []

/-- Whether a message is written at all. -/
def writes (l : Logging) (m : Message) : Bool := !(l.streams m).isEmpty

end Logging

end ModuleAtlas
