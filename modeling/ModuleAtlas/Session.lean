import ModuleAtlas.Log

/-!
# Sessions

A session is what a running program holds on to: an environment, which may change at any time, the
settings that are kept once they are read, and logging, which may be set up again and again.

## Main definitions

* `Session` — the state of a session, with what has been written to its streams.
* `Session.Event` — what may happen in a session.
* `Session.run` — the state that a row of events leaves behind.
-/
namespace ModuleAtlas

structure Session where
  environment : Environment
  kept : Settings.Kept
  logging : Logging
  /-- The messages that have been written, each with the stream that it arrived in. -/
  written : List (Nat × Message)
deriving Inhabited

namespace Session

/-- A session in which nothing has happened. -/
def start (e : Environment) : Session := ⟨e, none, .initial, []⟩

def readSettings (s : Session) : Schema.Checked Settings × Session :=
  let (outcome, kept) := Settings.get s.environment s.kept
  (outcome, { s with kept := kept })

/-- Sets logging up with a stream and perhaps the name of a level. -/
def setUp (s : Session) (stream : Nat) (level : Option String) : Schema.Checked Unit × Session :=
  let (outcome, logging, kept) := Logging.setup s.environment stream level s.logging s.kept
  (outcome, { s with logging := logging, kept := kept })

/-- Logs a message. -/
def send (s : Session) (m : Message) : Session :=
  { s with written := s.written ++ (s.logging.streams m).map fun stream => (stream, m) }

inductive Event
  | setVariable (name value : String)
  | unsetVariable (name : String)
  | clearSettings
  | readSettings
  | setUp (stream : Nat) (level : Option String)
  | send (m : Message)
deriving DecidableEq, Repr

def step (s : Session) : Event → Session
  | .setVariable name value => { s with environment := s.environment.set name value }
  | .unsetVariable name => { s with environment := s.environment.unset name }
  | .clearSettings => { s with kept := none }
  | .readSettings => s.readSettings.2
  | .setUp stream level => (s.setUp stream level).2
  | .send m => s.send m

def run (s : Session) (events : List Event) : Session := events.foldl step s

end Session

end ModuleAtlas
