import ModuleAtlas.CommandLine.Arguments
import ModuleAtlas.Analysis
import ModuleAtlas.Report
import ModuleAtlas.Json.Printer
import ModuleAtlas.Text.Space

/-!
# The command line

Three commands: `analyze` prints a result as JSON or as a summary, `prompt` prints a question about
a result, and `serve` starts a server. Results go to the output; messages go to the error stream.
-/
namespace ModuleAtlas.CommandLine

/-! ## Commands -/

structure Target where
  path : String
  config : Option String
  workers : Option Int
  timeout : Option Float

/-- What is served, and where. -/
structure Server where
  app : String
  host : String
  port : Int
  reload : Bool

inductive Command
  | analyze (t : Target) (summary : Bool)
  | prompt (t : Target) (question : String)
  | serve (s : Server)

structure Invocation where
  logLevel : Option String
  command : Command

def program : String := "depgraph"

/-- The name under which a server finds the web service. -/
def application : String := "api:app"

def generalSpec : Spec := ⟨program, [⟨"--log-level", some .text⟩], []⟩

def targetOptions : List OptionSpec :=
  [⟨"--config", some .text⟩, ⟨"--workers", some .integer⟩, ⟨"--timeout", some .number⟩]

def analyzeSpec : Spec :=
  ⟨program ++ " analyze", targetOptions ++ [⟨"--summary", none⟩], ["path"]⟩

def promptSpec : Spec := ⟨program ++ " prompt", targetOptions, ["path", "question"]⟩

def serveSpec : Spec :=
  ⟨program ++ " serve",
    [⟨"--host", some .text⟩, ⟨"--port", some .integer⟩, ⟨"--reload", none⟩], []⟩

/-- The commands by their names. -/
def specs : List (String × Spec) :=
  [("analyze", analyzeSpec), ("prompt", promptSpec), ("serve", serveSpec)]

namespace Arguments

variable (a : Arguments)

def integer? (option : String) : Option Int :=
  match a.value? option with
  | some (.integer n) => some n
  | _ => none

def number? (option : String) : Option Float :=
  match a.value? option with
  | some (.number x) => some x
  | _ => none

def has (option : String) : Bool := (a.value? option).isSome

def target : Target :=
  ⟨a.positional "path", a.text? "--config", a.integer? "--workers", a.number? "--timeout"⟩

/-- The command with a name and its arguments. -/
def command (name : String) (s : Settings) : Command :=
  match name with
  | "analyze" => .analyze a.target (a.has "--summary")
  | "prompt" => .prompt a.target (a.positional "question")
  | _ =>
    .serve ⟨application, (a.text? "--host").getD s.apiHost, (a.integer? "--port").getD s.apiPort,
      a.has "--reload"⟩

end Arguments

/-- Why no command is carried out: help was asked for, or the arguments are faulty. -/
inductive Refusal
  | help
  | usage (program : String) (f : ArgumentFault)

/-- The options before the command, the name of the command, and its arguments. -/
def splitCommand : (fuel : Nat) → List (String × Mark) → Arguments →
    Except Refusal (Arguments × String × List String)
  | 0, _, _ => .error (.usage program (.missing ["cmd"]))
  | _, [], _ | _, [(_, .dashes)], _ => .error (.usage program (.missing ["cmd"]))
  | fuel + 1, (s, m) :: rest, a =>
    match m with
    | .plain | .dashes => .ok (a, s, rest.map Prod.fst)
    | .unknown => splitCommand fuel rest { a with extras := a.extras ++ [s] }
    | .option o value =>
      if o.name = helpOption.name && value.isNone then .error .help
      else
        match readOption o value rest with
        | .error f => .error (.usage program f)
        | .ok (v, rest) => splitCommand fuel rest { a with values := (o.name, v) :: a.values }

/-- The invocation that arguments ask for. -/
def invocation (s : Settings) (args : List String) : Except Refusal Invocation := do
  let marked ← (generalSpec.marks args).mapError (.usage program)
  let (general, name, rest) ← splitCommand (marked.length + 1) marked ⟨[], [], [], []⟩
  match specs.lookup name with
  | none => throw (.usage program (.unknownCommand name (specs.map Prod.fst)))
  | some spec =>
    match ← (spec.read rest).mapError (.usage spec.program) with
    | none => throw .help
    | some a =>
      let extras := general.extras ++ a.extras
      if extras.isEmpty then return ⟨general.text? "--log-level", a.command name s⟩
      else throw (.usage program (.unrecognized extras))

/-! ## Carrying commands out -/

/-- The least time that does not run out before it is first looked at, in seconds. -/
def leastTime : Float := 0.000001

/-- The signal of a time limit. Without a limit, or with one of zero, nothing stops; a time before
now is over from the start. -/
def stopAfter (timeout : Option Float) : StopSignal :=
  match timeout with
  | some x => if x != 0 && x < leastTime then .always else .never
  | none => .never

/-- What keeps a command from being carried out, other than an unreadable root. -/
inductive Fault
  | settings (fs : List Schema.Fault)
  | config (f : Config.LoadFault)
  | file (f : FileFault)

/-- What a command does: the messages that it writes, then what it prints or how it fails. -/
inductive Outcome
  | printed (log : Log) (output : String)
  | unreadable (log : Log) (f : DiscoveryFault)
  | serving (s : Server)
  | refused (r : Refusal)
  | failed (f : Fault)

variable (d : Disk) (parse : SourceParser) (e : Environment)

/-- Analyzes a target and prints something about the result. -/
def printAbout (l : Logging) (kept : Settings.Kept) (t : Target)
    (print : AnalysisResult → String) : Outcome :=
  match Config.load d (.ofText (t.config.getD "")) with
  | .error f => .failed (.config f)
  | .ok config =>
    match (analyze d parse e kept ⟨.ofText t.path, config, t.workers, stopAfter t.timeout⟩).1 with
    | .ok a => .printed (a.log.filter l.writes) (print a.result)
    | .error (.discovery f) => .unreadable [] f
    | .error (.settings fs) => .failed (.settings fs)
    | .error (.file f) => .failed (.file f)

/-- How far results are indented. -/
def indent : Nat := 2

/-- Carries out the command that arguments ask for. -/
def run (args : List String) : Outcome :=
  match Settings.get e none with
  | (.faults fs, _) => .failed (.settings fs)
  | (.ok s, kept) =>
    match invocation s args with
    | .error r => .refused r
    | .ok i =>
      match Logging.setup e 0 i.logLevel .initial kept with
      | (.faults fs, _) => .failed (.settings fs)
      | (.ok _, l, kept) =>
        match i.command with
        | .analyze t true =>
          printAbout d parse e l kept t fun r => Report.summary r Report.defaultTop
        | .analyze t false => printAbout d parse e l kept t fun r => r.toJson.pretty indent
        | .prompt t q => printAbout d parse e l kept t fun r => Report.question r q
        | .serve s => .serving s

/-- The lines of what is written to the error stream, where stray bytes are written by their
numbers. -/
def linesOf (g : List Text.Glyph) : List String :=
  Text.lines (String.ofList (Text.Quoted.plain g))

namespace Outcome

def exit : Outcome → Nat
  | printed _ _ | serving _ | refused .help => 0
  | unreadable _ _ | refused (.usage _ _) => 2
  | failed _ => 1

/-- What is written to the output. -/
def output : Outcome → String
  | printed _ s => s ++ "\n"
  | _ => ""

/-- The lines of the error stream, with the times of messages as given. -/
def errorLines (time : String) : Outcome → List String
  | printed log _ => log.flatMap fun m => linesOf (m.line time)
  | unreadable log f =>
    (log.flatMap fun m => linesOf (m.line time)) ++ linesOf ("Error: " ++ f.message)
  | refused (.usage program f) =>
    (Text.lines (program ++ ": error: " ++ f.message)).getLast?.toList
  | serving _ | refused .help | failed _ => []

end Outcome

end ModuleAtlas.CommandLine
