import ModuleAtlas.Schema.Reading
import ModuleAtlas.Text.LowerCase

/-!
# Settings

Settings are read from the environment once and then kept until they are cleared. Names in the
environment are compared in lower case, and of names that agree the last one counts. Settings that
cannot be read are not kept.
-/
namespace ModuleAtlas

open Schema Checked

/-- Variables with their values, in the order in which they were first set. -/
abbrev Environment := List (String × String)

namespace Environment

def set (name value : String) : Environment → Environment
  | [] => [(name, value)]
  | (n, v) :: rest => if n = name then (n, value) :: rest else (n, v) :: set name value rest

def unset (name : String) (e : Environment) : Environment := e.filter fun v => v.1 ≠ name

/-- The value of the last variable whose name in lower case is the given one. -/
def find? (e : Environment) (name : String) : Option String :=
  (e.reverse.find? fun v => String.ofList (Text.lower v.1.toList) == name).map Prod.snd

end Environment

structure Settings where
  logLevel : String
  maxWorkers : Int
  apiHost : String
  apiPort : Int
deriving DecidableEq, Inhabited, Repr

namespace Settings

def standard : Settings := ⟨"INFO", 4, "127.0.0.1", 8000⟩

/-- A setting that the environment may give. -/
def fromVariable {α : Type} (e : Environment) (variableName key : String)
    (read : String → Checked α) (a : α) : Checked α :=
  match e.find? variableName with
  | some v => within (.key key) (read v)
  | none => ok a

/-- The settings that an environment gives. -/
def ofEnvironment (e : Environment) : Checked Settings :=
  Settings.mk
    <$> fromVariable e "depgraph_log_level" "LOG_LEVEL" ok standard.logLevel
    <*> fromVariable e "depgraph_max_workers" "MAX_WORKERS" readIntText standard.maxWorkers
    <*> fromVariable e "depgraph_api_host" "API_HOST" ok standard.apiHost
    <*> fromVariable e "depgraph_api_port" "API_PORT" readIntText standard.apiPort

/-- The settings that are kept, if there are any. -/
abbrev Kept := Option Settings

/-- The settings that are kept, or else those of the environment, which are then kept. -/
def get (e : Environment) : Kept → Checked Settings × Kept
  | some s => (ok s, some s)
  | none =>
    match ofEnvironment e with
    | ok s => (ok s, some s)
    | faults fs => (faults fs, none)

end Settings

end ModuleAtlas
