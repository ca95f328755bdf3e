import ModuleAtlas.Session.Operation
import ModuleAtlas.Proofs.Analysis.Faults
import ModuleAtlas.Proofs.Interfaces.CurrentHandler
import Mathlib.Data.List.DropRight

/-!
# The settings in force

Settings are read once. The first call that succeeds after they were cleared reads the environment,
and until they are cleared again all calls are told what it has read, whatever happens to the
environment and whoever makes the calls. A call that fails keeps nothing, so that the next one reads
the environment again.

A history tells this without a look at what is kept: the environment in force is that of the first
call which has succeeded since settings were last cleared. What is kept at any time is what that
environment gives, which each call and each clearing preserves.

## Main definitions

* `Session.firstSuccess`, `Session.inForce` — which environment is in force, by a history.
* `Session.Tells` — a history tells what is kept.
* `Session.CalledOnce` — what is true of a call by what happens before and after it.
* `Session.AsStarted` — what a session does comes out as the environment in force has it.
-/
namespace ModuleAtlas

open Schema Checked

/-! ## One call -/

namespace Settings

/-- A call is told what is kept, or reads the environment and keeps what it gives, or fails and
keeps nothing. -/
inductive Call.Settled (c : Call) : Prop
  | kept {s : Settings} (before : c.before = some s) (answer : c.answer = ok s)
      (after : c.after = some s)
  | read {s : Settings} (before : c.before = none) (given : ofEnvironment c.environment = ok s)
      (answer : c.answer = ok s) (after : c.after = some s)
  | failed {fs : List Fault} (before : c.before = none)
      (given : ofEnvironment c.environment = faults fs) (answer : c.answer = faults fs)
      (after : c.after = none)

namespace Call

variable (c : Call)

theorem settled : c.Settled := by
  obtain ⟨e, kept⟩ := c
  cases kept with
  | some s => exact .kept rfl rfl rfl
  | none =>
    cases given : ofEnvironment e with
    | ok s =>
      have read : get e none = (ok s, some s) := by simp only [get, given]
      exact .read rfl given (congrArg Prod.fst read) (congrArg Prod.snd read)
    | faults fs =>
      have failed : get e none = (faults fs, none) := by simp only [get, given]
      exact .failed rfl given (congrArg Prod.fst failed) (congrArg Prod.snd failed)

variable {c}

theorem after_of_answer {s : Settings} (h : c.answer = ok s) : c.after = some s := by
  cases c.settled <;> grind

theorem after_of_faults {fs : List Fault} (h : c.answer = faults fs) : c.after = none := by
  cases c.settled <;> grind

theorem answer_of_before {s : Settings} (h : c.before = some s) : c.answer = ok s := by
  cases c.settled <;> grind

theorem answer_of_nothing (h : c.before = none) : c.answer = ofEnvironment c.environment := by
  cases c.settled <;> grind

theorem succeeds_iff : c.succeeds = true ↔ ∃ s, c.answer = ok s := by
  unfold succeeds
  cases c.answer <;> simp

/-- A call fails where nothing is kept and the environment cannot be read. -/
theorem fails_iff : (∃ fs, c.answer = faults fs) ↔ c.before = none ∧ ¬ c.environment.Readable := by
  rw [← exists_ofEnvironment]
  cases c.settled <;> grind

end Call

end Settings

namespace Inquiry

variable {α : Type}

/-- The calls of a procedure are made in one environment, and all are told the same. -/
theorem of_mem_calls {i : Inquiry α} {e : Environment} {kept : Settings.Kept} {c : Settings.Call}
    (h : c ∈ (i.run e kept).calls) :
    c.environment = e ∧ c.answer = (Settings.get e kept).1 := by
  induction i generalizing kept with
  | done a => cases h
  | ask next ih =>
    rcases List.mem_cons.1 h with rfl | h
    · exact ⟨rfl, rfl⟩
    · have rest := ih _ h
      simp only [Settings.Call.after, Settings.get_get] at rest
      exact rest

/-- What comes of a procedure depends on what a call is told before it, and on nothing else. -/
theorem result_run_congr {e e' : Environment} {kept kept' : Settings.Kept}
    (told : (Settings.get e kept).1 = (Settings.get e' kept').1) (i : Inquiry α) :
    (i.run e kept).result = (i.run e' kept').result := by
  rw [result_run, result_run, told]

end Inquiry

/-! ## Logging is set up anew -/

/-- Where it is set up it does not matter how logging has been. -/
theorem Logging.told_inquiry (stream : Nat) (level : Option String) (l l' : Logging)
    (s : Settings) :
    (inquiry stream level l).told (ok s) = (inquiry stream level l').told (ok s) := by
  unfold inquiry
  cases level.filter (· ≠ "") <;> simp only [Inquiry.told, Logging.direct_eq]

theorem CommandLine.told_inquiry (d : Disk) (parse : SourceParser) (l l' : Logging)
    (args : List String) (answer : Checked Settings) :
    ((inquiry d parse l args).told answer).1 = ((inquiry d parse l' args).told answer).1 := by
  cases answer with
  | faults fs => rfl
  | ok s =>
    simp only [inquiry, Inquiry.told]
    cases invocation s args with
    | error r => rfl
    | ok i => simp only [Inquiry.told_bind, Logging.told_inquiry 0 i.logLevel l l' s]

namespace Session

/-! ## What follows on one another -/

/-- Happenings that follow on one another: each finds what the one before has left. -/
inductive Linked : Settings.Kept → List Happening → Settings.Kept → Prop
  | nil {kept : Settings.Kept} : Linked kept [] kept
  | cleared {kept last : Settings.Kept} {h : List Happening} (rest : Linked none h last) :
      Linked kept (.cleared :: h) last
  | called {kept last : Settings.Kept} {c : Settings.Call} {h : List Happening}
      (finds : c.before = kept) (rest : Linked c.after h last) : Linked kept (.called c :: h) last

section Linked

variable {kept middle last : Settings.Kept} {before after h h' : List Happening} {c : Settings.Call}

theorem Linked.append (first : Linked kept h middle) (rest : Linked middle h' last) :
    Linked kept (h ++ h') last := by
  induction first with
  | nil => exact rest
  | cleared _ ih => exact .cleared (ih rest)
  | called finds _ ih => exact .called finds (ih rest)

theorem Linked.split (linked : Linked kept (before ++ .called c :: after) last) :
    Linked kept before c.before ∧ Linked c.after after last := by
  induction before generalizing kept with
  | nil =>
    cases linked with
    | called finds rest => exact ⟨finds ▸ .nil, rest⟩
  | cons x before ih =>
    cases linked with
    | cleared rest => exact ⟨.cleared (ih rest).1, (ih rest).2⟩
    | called finds rest => exact ⟨.called finds (ih rest).1, (ih rest).2⟩

/-- What is kept stays until it is cleared. -/
theorem Linked.stays {s : Settings} (linked : Linked (some s) h last)
    (uncleared : .cleared ∉ h) : last = some s := by
  induction h with
  | nil =>
    cases linked
    rfl
  | cons x h ih =>
    cases linked with
    | cleared => simp at uncleared
    | called finds rest =>
      have left := Settings.Call.after_of_answer (Settings.Call.answer_of_before finds)
      exact ih (left ▸ rest) fun mem => uncleared (List.mem_cons_of_mem _ mem)

/-- Where nothing is kept, nothing is kept until there is a call. -/
theorem Linked.nothing (linked : Linked none h last) (all : ∀ x ∈ h, x = .cleared) :
    last = none := by
  induction h with
  | nil =>
    cases linked
    rfl
  | cons x h ih =>
    cases linked with
    | cleared rest => exact ih rest fun y mem => all y (List.mem_cons_of_mem _ mem)
    | called => cases all _ List.mem_cons_self

theorem linked_calls {α : Type} (i : Inquiry α) (e : Environment) (kept : Settings.Kept) :
    Linked kept ((i.run e kept).calls.map .called) (i.run e kept).kept := by
  induction i generalizing kept with
  | done a => exact .nil
  | ask next ih => exact .called rfl (ih _ _)

/-- What an operation keeps is what its calls keep, unless it clears settings. -/
theorem kept_perform (s : Session) {o : Operation} (h : o ≠ .event .clearSettings) :
    (s.perform o).kept = ((o.inquiry s.logging).run s.environment s.kept).kept := by
  cases o with
  | event e =>
    cases e with
    | clearSettings => exact absurd rfl h
    | setUp stream level =>
      simp only [perform, step, setUp, Logging.setup_eq_inquiry, Operation.inquiry, Inquiry.run_map]
    | _ => rfl
  | analyze d read parse r =>
    simp only [perform, analyze, kept_sendAll, Analysis.analyzeReading_eq_inquiry,
      Operation.inquiry, Inquiry.run_map]
  | command d parse args =>
    simp only [perform, command, kept_sendAll, Operation.inquiry, Inquiry.run_map]

theorem happenings_eq (s : Session) {o : Operation} (h : o ≠ .event .clearSettings) :
    s.happenings o = ((o.inquiry s.logging).run s.environment s.kept).calls.map .called := by
  unfold happenings
  grind

theorem linked_happenings (s : Session) (o : Operation) :
    Linked s.kept (s.happenings o) (s.perform o).kept := by
  by_cases h : o = .event .clearSettings
  · subst h
    exact .cleared .nil
  · rw [kept_perform s h, happenings_eq s h]
    exact linked_calls _ _ _

/-- What happens in a session follows on one another. -/
theorem linked_history (s : Session) (operations : List Operation) :
    Linked s.kept (s.history operations) (s.performAll operations).kept := by
  induction operations generalizing s with
  | nil => exact .nil
  | cons o later ih => exact (linked_happenings s o).append (ih (s.perform o))

end Linked

/-! ## What a history tells -/

def Happening.call? : Happening → Option Settings.Call
  | .cleared => none
  | .called c => some c

/-- The calls since settings were last cleared. -/
def sinceCleared (h : List Happening) : List Settings.Call :=
  (h.rtakeWhile (· ≠ .cleared)).filterMap Happening.call?

/-- The first of these that has succeeded, if one has. -/
def firstSuccess (h : List Happening) : Option Settings.Call :=
  (sinceCleared h).find? Settings.Call.succeeds

/-- The environment that settings are from: the one at the first call that has succeeded since they
were last cleared, or else, as there has been none, the present one. -/
def inForce (h : List Happening) (present : Environment) : Environment :=
  ((firstSuccess h).map Settings.Call.environment).getD present

/-- What is kept is what the first call that has succeeded has read. -/
inductive Tells (h : List Happening) : Settings.Kept → Prop
  | nothing (never : firstSuccess h = none) : Tells h none
  | read {c : Settings.Call} {s : Settings} (first : firstSuccess h = some c)
      (given : Settings.ofEnvironment c.environment = ok s) : Tells h (some s)

section Tells

variable {h h' : List Happening} {c : Settings.Call} {kept last : Settings.Kept}

theorem firstSuccess_cleared : firstSuccess (h ++ [.cleared]) = none := by
  simp [firstSuccess, sinceCleared]

theorem firstSuccess_called : firstSuccess (h ++ [.called c]) =
    (firstSuccess h).or (if c.succeeds then some c else none) := by
  simp [firstSuccess, sinceCleared, Happening.call?, List.find?_append]

theorem firstSuccess_called_of_some {first : Settings.Call}
    (succeeded : firstSuccess h = some first) :
    firstSuccess (h ++ [.called c]) = some first := by
  rw [firstSuccess_called, succeeded, Option.some_or]

/-- A call preserves what a history tells. -/
theorem Tells.called (tells : Tells h c.before) : Tells (h ++ [.called c]) c.after := by
  cases c.settled with
  | kept before answer after =>
    -- Where something is kept, a call has succeeded before, and this one is not the first.
    rw [before] at tells
    rw [after]
    cases tells with
    | read first given => exact .read (firstSuccess_called_of_some first) given
  | read before given answer after =>
    rw [before] at tells
    rw [after]
    have succeeds := Settings.Call.succeeds_iff.2 ⟨_, answer⟩
    cases tells with
    | nothing never => exact .read (by simp [firstSuccess_called, never, succeeds]) given
  | failed before given answer after =>
    rw [before] at tells
    rw [after]
    have fails : c.succeeds = false := by simp [Settings.Call.succeeds, answer]
    cases tells with
    | nothing never => exact .nothing (by simp [firstSuccess_called, never, fails])

/-- So does whatever happens behind it, by induction on what follows: a clearing leaves neither
anything kept nor a call that has succeeded since. -/
theorem Tells.linked (tells : Tells h kept) (linked : Linked kept h' last) :
    Tells (h ++ h') last := by
  induction linked generalizing h with
  | nil => simpa using tells
  | cleared _ ih =>
    rw [List.append_cons]
    exact ih (.nothing firstSuccess_cleared)
  | called finds _ ih =>
    rw [List.append_cons]
    exact ih (finds ▸ tells).called

theorem Tells.eq_none_iff (tells : Tells h kept) : kept = none ↔ firstSuccess h = none := by
  cases tells with
  | nothing never => simp [never]
  | read first given => simp [first]

/-- A call is told what the environment in force gives. -/
theorem Tells.answer (tells : Tells h kept) (present : Environment) :
    (Settings.get present kept).1 = Settings.ofEnvironment (inForce h present) := by
  cases tells with
  | nothing never =>
    have present : inForce h present = present := by simp [inForce, never]
    rw [present, Settings.get_none]
  | @read c s first given =>
    have force : inForce h present = c.environment := by simp [inForce, first]
    rw [force, given]
    rfl

end Tells

/-! ## The calls of a history -/

/-- What is true of a call, by what has happened before it and what happens after it. -/
structure CalledOnce (before : List Happening) (c : Settings.Call) (after : List Happening) :
    Prop where
  /-- A call that succeeds is told what the environment gave at the first call that has succeeded
  since settings were last cleared, which may be the call itself. -/
  of_first : ∀ s, c.answer = ok s → ∃ first, firstSuccess (before ++ [.called c]) = some first ∧
    Settings.ofEnvironment first.environment = ok s
  /-- Nothing is kept as long as no call has succeeded. -/
  nothing_iff : c.before = none ↔ firstSuccess before = none
  fails_iff : (∃ fs, c.answer = faults fs) ↔ c.before = none ∧ ¬ c.environment.Readable
  /-- A call that fails keeps nothing, and the next one reads the environment as it is then. -/
  again : ∀ fs, c.answer = faults fs → c.after = none ∧ ∀ between d later,
    after = between ++ .called d :: later → (∀ x ∈ between, x = .cleared) →
      d.answer = Settings.ofEnvironment d.environment
  /-- Behind a call that succeeds all are told the same, until settings are cleared. -/
  stays : ∀ s, c.answer = ok s → ∀ between d later, after = between ++ .called d :: later →
    .cleared ∉ between → d.answer = ok s

theorem calledOnce {before after : List Happening} {c : Settings.Call} {last : Settings.Kept}
    (tells : Tells before c.before) (linked : Linked c.after after last) :
    CalledOnce before c after where
  of_first := by
    intro s answer
    have told := tells.called
    rw [Settings.Call.after_of_answer answer] at told
    cases told with
    | read first given => exact ⟨_, first, given⟩
  nothing_iff := tells.eq_none_iff
  fails_iff := Settings.Call.fails_iff
  again := by
    intro fs answer
    have after := Settings.Call.after_of_faults answer
    refine ⟨after, ?_⟩
    rintro between d later rfl all
    have nothing := (after ▸ linked.split.1).nothing all
    exact Settings.Call.answer_of_nothing nothing
  stays := by
    rintro s answer between d later rfl uncleared
    have kept := (Settings.Call.after_of_answer answer ▸ linked.split.1).stays uncleared
    exact Settings.Call.answer_of_before kept

/-! ## What a session does -/

/-- Whatever is done next comes out as in a session that has just been started in a given
environment. All calls on the way are told what that environment gives, whatever the present one
would give. -/
structure AsStarted (now : Session) (e : Environment) : Prop where
  calls : ∀ o c, .called c ∈ now.happenings o →
    c.environment = now.environment ∧ c.answer = Settings.ofEnvironment e
  readSettings : now.readSettings.1 = Settings.ofEnvironment e
  setUp : ∀ stream level,
    (now.setUp stream level).1 = (Logging.setup e stream level now.logging none).1
  analyze : ∀ d read parse r,
    (now.analyze d read parse r).1 = (analyzeReading d read parse e none r).1
  command : ∀ d parse args, (now.command d parse args).1 = CommandLine.run d parse e args
  effects : ∀ o, let started : Session := { now with environment := e, kept := none }
    (now.perform o).logging = (started.perform o).logging ∧
      (now.perform o).written = (started.perform o).written

theorem asStarted {now : Session} {e : Environment}
    (told : (Settings.get now.environment now.kept).1 = Settings.ofEnvironment e) :
    AsStarted now e := by
  have alike : ∀ {α : Type} (i : Inquiry α),
      (i.run now.environment now.kept).result = (i.run e none).result :=
    Inquiry.result_run_congr (told.trans (Settings.get_none e).symm)
  constructor
  case calls =>
    intro o c mem
    by_cases h : o = .event .clearSettings
    · subst h
      simp [happenings] at mem
    · rw [happenings_eq now h] at mem
      obtain ⟨_, made, ⟨⟩⟩ := List.mem_map.1 mem
      rw [← told]
      exact Inquiry.of_mem_calls made
  case readSettings => exact told
  case setUp =>
    intro stream level
    simp only [Session.setUp, Logging.setup_eq_inquiry, alike]
  case analyze =>
    intro d read parse r
    simp only [Session.analyze, Analysis.analyzeReading_eq_inquiry, alike]
  case command =>
    intro d parse args
    -- The command may find logging set up, which a program that has just been started does not.
    have same := CommandLine.told_inquiry d parse now.logging .initial args (Settings.get e none).1
    simp only [Session.command, CommandLine.run_eq_inquiry, alike, Inquiry.result_run, same]
  case effects =>
    intro o started
    cases o with
    | event event =>
      cases event with
      | setUp stream level =>
        simp only [perform, step, Session.setUp, Logging.setup_eq_inquiry, alike, started, and_self]
      | _ => exact ⟨rfl, rfl⟩
    | analyze d read parse r =>
      simp only [perform, Session.analyze, Analysis.analyzeReading_eq_inquiry, alike, started,
        logging_sendAll, written_sendAll, and_self]
    | command d parse args =>
      simp only [perform, Session.command, alike, started, logging_sendAll, written_sendAll,
        and_self]

/-- Settings are read once. In a session that starts with nothing kept, whatever is done in it, all
calls for the settings that are made on the way are told what the environment gave at the first call
that has succeeded since settings were last cleared; a call fails where nothing is kept and the
environment cannot be read, and then the next one reads the environment again. So at any time what
is done next comes out as where the environment in force is the present one: after a call that has
succeeded, no change of the environment is seen and no call fails until settings are cleared. -/
theorem settings_read_once {s : Session} (nothing : s.kept = none) (operations : List Operation) :
    (∀ before c after, s.history operations = before ++ .called c :: after →
      CalledOnce before c after) ∧
    let now := s.performAll operations
    Tells (s.history operations) now.kept ∧
      AsStarted now (inForce (s.history operations) now.environment) := by
  have linked := linked_history s operations
  have tells : Tells [] s.kept := nothing ▸ .nothing rfl
  constructor
  · intro before c after split
    rw [split] at linked
    exact calledOnce (tells.linked linked.split.1) linked.split.2
  · have told := tells.linked linked
    exact ⟨told, asStarted (told.answer _)⟩

/-- Logging is set up; then a port is given that is no number, and the settings are called for,
cleared, and called for by a command. -/
theorem settings_read_once_sample :
    let s := start []
    let operations : List Operation := [.event (.setUp 1 none),
      .event (.setVariable "DEPGRAPH_API_PORT" "http"), .event .readSettings,
      .event .clearSettings, .command Discovery.Sample.disk (fun _ _ => default) ["serve"]]
    let first : Settings.Call := ⟨[], none⟩
    let second : Settings.Call := ⟨.faultyPort, some .standard⟩
    let third : Settings.Call := ⟨.faultyPort, none⟩
    s.history operations = [.called first, .called second, .cleared, .called third] ∧
    second.answer = ok .standard ∧ (∃ fs, third.answer = faults fs) ∧ third.after = none ∧
    AsStarted (s.performAll operations) .faultyPort := by
  intro s operations first second third
  have happened : s.history operations =
      [.called first, .called second, .cleared, .called third] := by decide +kernel
  obtain ⟨called, -, now⟩ := settings_read_once (s := s) rfl operations
  have standard : second.answer = ok .standard :=
    (called [] first _ happened).stays .standard rfl [] second _ rfl List.not_mem_nil
  have last := called [.called first, .called second, .cleared] third [] happened
  obtain ⟨fs, failed⟩ := last.fails_iff.2 ⟨rfl, Environment.not_readable_faultyPort⟩
  have never : firstSuccess (s.history operations) = none := by
    have fails : third.succeeds = false := by rw [Settings.Call.succeeds, failed]
    have split : s.history operations =
        ([.called first, .called second] ++ [.cleared]) ++ [.called third] := happened
    rw [split, firstSuccess_called, firstSuccess_cleared, fails]
    rfl
  have present : (s.performAll operations).environment = .faultyPort := by decide +kernel
  have force : inForce (s.history operations) (s.performAll operations).environment =
      .faultyPort := by
    rw [inForce, never, present]
    rfl
  exact ⟨happened, standard, ⟨fs, failed⟩, (last.again fs failed).1, force ▸ now⟩

end Session

end ModuleAtlas
