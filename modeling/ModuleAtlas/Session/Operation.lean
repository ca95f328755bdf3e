import ModuleAtlas.CommandLine
import ModuleAtlas.Inquiry
import ModuleAtlas.Session

/-!
# Operations of a session

In a session trees may be analyzed and commands be carried out, too. Both may set out from settings
that something else has read before. Where an operation calls for the settings is said by its
inquiry, and what a session has called for so far is its history.

## Main definitions

* `Logging.inquiry`, `Analysis.inquiry`, `CommandLine.inquiry` — procedures as inquiries.
* `Session.Operation` — what may be done in a session.
* `Session.history` — the calls for the settings in a row of operations, and when settings were
  cleared in between.
-/
namespace ModuleAtlas

open Schema

/-! ## Procedures that call for the settings -/

namespace Logging

/-- Sets logging up anew with one stream. The settings are called for where no level is named. -/
def inquiry (stream : Nat) (level : Option String) (l : Logging) :
    Inquiry (Checked Unit × Logging) :=
  match level.filter (· ≠ "") with
  | some name => .done (.ok (), l.direct stream (Level.ofName name))
  | none => .ask fun
    | .ok s => .done (.ok (), l.direct stream (Level.ofName s.logLevel))
    | .faults fs => .done (.faults fs, l)

theorem setup_eq_inquiry (e : Environment) (stream : Nat) (level : Option String) (l : Logging)
    (kept : Settings.Kept) : setup e stream level l kept =
      let course := (inquiry stream level l).run e kept
      (course.result.1, course.result.2, course.kept) := by
  unfold setup inquiry
  cases level.filter (· ≠ "") with
  | some name => rfl
  | none =>
    cases read : Settings.get e kept with
    | mk outcome kept =>
      cases outcome <;> simp [Inquiry.run, Settings.Call.answer, Settings.Call.after, read]

end Logging

namespace Analysis

/-- The number of workers. The settings are called for where it is not given. -/
def countInquiry (asked : Option Int) : Inquiry (Checked Int) :=
  match asked.filter (· ≠ 0) with
  | some n => .done (.ok (max 1 n))
  | none => .ask fun answer => .done (answer.map fun s => max 1 s.maxWorkers)

theorem workerCount_eq_inquiry (e : Environment) (kept : Settings.Kept) (asked : Option Int) :
    workerCount e kept asked =
      let course := (countInquiry asked).run e kept
      (course.result, course.kept) := by
  unfold workerCount countInquiry
  cases asked.filter (· ≠ 0) <;> rfl

variable (d : Disk) (read : FileReader) (parse : SourceParser)

/-- What becomes of an analysis once it knows, or cannot know, how many workers there are. -/
def counted (r : AnalysisRequest) : Checked Int → Except AnalysisFault Analysis
  | .faults fs => .error (.settings fs)
  | .ok _ =>
    match discover d (d.absolute r.root) r.config r.stop with
    | .error f => .error (.discovery f)
    | .ok found =>
      (ofDiscovery read parse (d.absolute r.root) r.stop found).mapError .file

/-- Analyzes every source file below a root. -/
def inquiry (r : AnalysisRequest) : Inquiry (Except AnalysisFault Analysis) :=
  (countInquiry r.workers).map (counted d read parse r)

theorem analyzeReading_eq_inquiry (e : Environment) (kept : Settings.Kept) (r : AnalysisRequest) :
    analyzeReading d read parse e kept r =
      let course := (inquiry d read parse r).run e kept
      (course.result, course.kept) := by
  unfold analyzeReading inquiry
  rw [workerCount_eq_inquiry, Inquiry.run_map]
  cases (countInquiry r.workers).run e kept with
  | mk calls count kept =>
    cases count with
    | faults fs => rfl
    | ok n =>
      simp only [counted]
      cases discover d (d.absolute r.root) r.config r.stop <;> rfl

end Analysis

namespace CommandLine

variable (d : Disk) (parse : SourceParser)

/-- Prints something about the result of an analysis, or tells why there is none. -/
def Outcome.ofAnalysis (l : Logging) (print : AnalysisResult → String) :
    Except AnalysisFault Analysis → Outcome
  | .ok a => .printed (a.log.filter l.writes) (print a.result)
  | .error (.discovery f) => .unreadable [] f
  | .error (.settings fs) => .failed (.settings fs)
  | .error (.file f) => .failed (.file f)

/-- Analyzes a target and prints something about the result. -/
def printInquiry (l : Logging) (t : Target) (print : AnalysisResult → String) : Inquiry Outcome :=
  match Config.load d (.ofText (t.config.getD "")) with
  | .error f => .done (.failed (.config f))
  | .ok config =>
    (Analysis.inquiry d d.reader parse
      ⟨.ofText t.path, config, t.workers, stopAfter t.timeout⟩).map (.ofAnalysis l print)

/-- Carries an invocation out, once logging is set up. -/
def commandInquiry (l : Logging) : Command → Inquiry Outcome
  | .analyze t true => printInquiry d parse l t fun r => Report.summary r Report.defaultTop
  | .analyze t false => printInquiry d parse l t fun r => r.toJson.pretty indent
  | .prompt t q => printInquiry d parse l t fun r => Report.question r q
  | .serve s => .done (.serving s)

/-- Carries out the command that arguments ask for, where logging is as given, and tells how it
leaves logging. The settings are called for first of all, as they give the defaults of options. -/
def inquiry (l : Logging) (args : List String) : Inquiry (Outcome × Logging) :=
  .ask fun
    | .faults fs => .done (.failed (.settings fs), l)
    | .ok s =>
      match invocation s args with
      | .error r => .done (.refused r, l)
      | .ok i =>
        (Logging.inquiry 0 i.logLevel l).bind fun
          | (.faults fs, l) => .done (.failed (.settings fs), l)
          | (.ok _, l) => (commandInquiry d parse l i.command).map fun outcome => (outcome, l)

theorem printAbout_eq_inquiry (e : Environment) (kept : Settings.Kept) (l : Logging) (t : Target)
    (print : AnalysisResult → String) : printAbout d parse e l kept t print =
      ((printInquiry d parse l t print).run e kept).result := by
  cases loaded : Config.load d (.ofText (t.config.getD "")) with
  | error f => simp only [printAbout, printInquiry, loaded, Inquiry.run]
  | ok config =>
    let r : AnalysisRequest := ⟨.ofText t.path, config, t.workers, stopAfter t.timeout⟩
    have settled : (analyze d parse e kept r).1 =
        ((Analysis.inquiry d d.reader parse r).run e kept).result := by
      rw [analyze, Analysis.analyzeReading_eq_inquiry]
    simp only [printAbout, printInquiry, loaded, Inquiry.run_map, ← settled, r]
    cases (analyze d parse e kept _).1 with
    | ok a => rfl
    | error f => cases f <;> rfl

theorem result_commandInquiry (e : Environment) (kept : Settings.Kept) (l : Logging) (c : Command) :
    ((commandInquiry d parse l c).run e kept).result =
      match c with
      | .analyze t true =>
        printAbout d parse e l kept t fun r => Report.summary r Report.defaultTop
      | .analyze t false => printAbout d parse e l kept t fun r => r.toJson.pretty indent
      | .prompt t q => printAbout d parse e l kept t fun r => Report.question r q
      | .serve s => .serving s := by
  simp only [printAbout_eq_inquiry]
  cases c with
  | analyze t summary => cases summary <;> rfl
  | prompt t q => rfl
  | serve s => rfl

/-- A program that has just been started carries a command out as a session does. -/
theorem run_eq_inquiry (e : Environment) (args : List String) : run d parse e args =
    ((inquiry d parse .initial args).run e none).result.1 := by
  unfold run inquiry
  rw [Inquiry.run]
  simp only [Settings.Call.answer, Settings.Call.after]
  obtain ⟨outcome, kept⟩ := Settings.get e none
  cases outcome with
  | faults fs => rfl
  | ok s =>
    dsimp only
    cases invocation s args with
    | error r => rfl
    | ok i =>
      dsimp only
      rw [Logging.setup_eq_inquiry, Inquiry.run_bind]
      dsimp only
      obtain ⟨calls, ⟨returned, l⟩, kept⟩ := (Logging.inquiry 0 i.logLevel .initial).run e kept
      cases returned with
      | faults fs => rfl
      | ok u =>
        rw [Inquiry.run_map]
        exact (result_commandInquiry d parse e kept l i.command).symm

/-- The messages that are written while a command is carried out. -/
def Outcome.log : Outcome → Log
  | printed log _ | unreadable log _ => log
  | _ => []

end CommandLine

/-! ## Sessions -/

namespace Session

/-- Logs messages one after the other. -/
def sendAll (s : Session) (log : Log) : Session := log.foldl send s

section SendAll

variable (s : Session) (log : Log)

@[simp] theorem kept_sendAll : (s.sendAll log).kept = s.kept := by
  induction log generalizing s with
  | nil => rfl
  | cons m log ih => exact ih (s.send m)

@[simp] theorem logging_sendAll : (s.sendAll log).logging = s.logging := by
  induction log generalizing s with
  | nil => rfl
  | cons m log ih => exact ih (s.send m)

@[simp] theorem written_sendAll : (s.sendAll log).written =
    s.written ++ log.flatMap fun m => (s.logging.streams m).map fun stream => (stream, m) := by
  induction log generalizing s with
  | nil => exact (List.append_nil _).symm
  | cons m log ih =>
    rw [List.flatMap_cons, ← List.append_assoc]
    exact ih (s.send m)

end SendAll

/-- Analyzes a tree and logs what is to be told about it. -/
def analyze (s : Session) (d : Disk) (read : FileReader) (parse : SourceParser)
    (r : AnalysisRequest) : Except AnalysisFault Analysis × Session :=
  let (outcome, kept) := analyzeReading d read parse s.environment s.kept r
  let log := match outcome with
    | .ok a => a.log
    | .error _ => []
  (outcome, { s with kept := kept }.sendAll log)

/-- Carries out the command that arguments ask for. -/
def command (s : Session) (d : Disk) (parse : SourceParser) (args : List String) :
    CommandLine.Outcome × Session :=
  let course := (CommandLine.inquiry d parse s.logging args).run s.environment s.kept
  let (outcome, logging) := course.result
  (outcome, { s with kept := course.kept, logging := logging }.sendAll outcome.log)

/-- What may be done in a session. Each tree is taken as it is found at the time. -/
inductive Operation
  | event (e : Event)
  | analyze (d : Disk) (read : FileReader) (parse : SourceParser) (r : AnalysisRequest)
  | command (d : Disk) (parse : SourceParser) (args : List String)

def perform (s : Session) : Operation → Session
  | .event e => s.step e
  | .analyze d read parse r => (s.analyze d read parse r).2
  | .command d parse args => (s.command d parse args).2

def performAll (s : Session) (operations : List Operation) : Session := operations.foldl perform s

/-! ## Histories -/

/-- Where an operation calls for the settings, logging being as given. -/
def Operation.inquiry (l : Logging) : Operation → Inquiry Unit
  | .event .readSettings => .ask fun _ => .done ()
  | .event (.setUp stream level) => (Logging.inquiry stream level l).map fun _ => ()
  | .event _ => .done ()
  | .analyze d read parse r => (Analysis.inquiry d read parse r).map fun _ => ()
  | .command d parse args => (CommandLine.inquiry d parse l args).map fun _ => ()

/-- What is of note about settings. -/
inductive Happening
  | cleared
  | called (c : Settings.Call)
deriving DecidableEq, Repr

/-- What happens in an operation. -/
def happenings (s : Session) : Operation → List Happening
  | .event .clearSettings => [.cleared]
  | o => ((o.inquiry s.logging).run s.environment s.kept).calls.map .called

/-- What happens in a row of operations. -/
def history (s : Session) : List Operation → List Happening
  | [] => []
  | o :: later => s.happenings o ++ (s.perform o).history later

end Session

end ModuleAtlas
