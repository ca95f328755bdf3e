import ModuleAtlas.Settings

/-!
# Inquiries

A procedure calls for the settings only where it needs them, and may go on in one way or another
with what it is told. As an inquiry it is either done, or it asks and has a way to go on for every
answer. When it is carried out its calls are made one after the other in one environment, and each
of them finds what the one before has left.

## Main definitions

* `Settings.Call` — a call for the settings, by the circumstances that it is made in.
* `Inquiry` — a procedure that may call for the settings, any number of times.
* `Inquiry.run` — the calls that a procedure makes, what comes of it, and what is kept in the end.
* `Inquiry.told` — what comes of a procedure that is told the same at every call.
-/
namespace ModuleAtlas

open Schema

namespace Settings

/-- A call for the settings: the environment that it is made in, and what is kept by then. -/
structure Call where
  environment : Environment
  before : Kept
deriving DecidableEq, Repr

namespace Call

def answer (c : Call) : Checked Settings := (get c.environment c.before).1

/-- What is kept once the call is made. -/
def after (c : Call) : Kept := (get c.environment c.before).2

def succeeds (c : Call) : Bool :=
  match c.answer with
  | .ok _ => true
  | .faults _ => false

end Call

@[simp] theorem get_none (e : Environment) : (get e none).1 = ofEnvironment e := by
  cases given : ofEnvironment e <;> simp [get, given]

/-- In one environment, another call is told the same and leaves the same behind. -/
theorem get_get (e : Environment) (kept : Kept) : get e (get e kept).2 = get e kept := by
  cases kept with
  | some s => rfl
  | none => cases given : ofEnvironment e <;> simp [get, given]

end Settings

/-- A procedure that may call for the settings. -/
inductive Inquiry (α : Type)
  | done (a : α)
  | ask (next : Checked Settings → Inquiry α)

namespace Inquiry

variable {α β : Type}

/-- Goes on with what comes of a procedure. -/
def bind : Inquiry α → (α → Inquiry β) → Inquiry β
  | done a, f => f a
  | ask next, f => ask fun answer => (next answer).bind f

def map (f : α → β) (i : Inquiry α) : Inquiry β := i.bind fun a => done (f a)

/-- What a procedure has done: the calls that it made, in turn, what came of it, and what was kept
then. -/
structure Course (α : Type) where
  calls : List Settings.Call
  result : α
  kept : Settings.Kept

/-- Carries a procedure out. -/
def run (e : Environment) : Settings.Kept → Inquiry α → Course α
  | kept, done a => ⟨[], a, kept⟩
  | kept, ask next =>
    let c : Settings.Call := ⟨e, kept⟩
    let rest := (next c.answer).run e c.after
    ⟨c :: rest.calls, rest.result, rest.kept⟩

def told (answer : Checked Settings) : Inquiry α → α
  | done a => a
  | ask next => (next answer).told answer

section Laws

variable (e : Environment) (kept : Settings.Kept) (i : Inquiry α)

/-- All calls of a procedure are told the same, which is what a call would be told before it. -/
theorem result_run : (i.run e kept).result = i.told (Settings.get e kept).1 := by
  induction i generalizing kept with
  | done a => rfl
  | ask next ih =>
    have rest := ih (Settings.get e kept).1 (Settings.get e kept).2
    rw [Settings.get_get] at rest
    exact rest

theorem run_bind (f : α → Inquiry β) : (i.bind f).run e kept =
    let first := i.run e kept
    let rest := (f first.result).run e first.kept
    ⟨first.calls ++ rest.calls, rest.result, rest.kept⟩ := by
  induction i generalizing kept with
  | done a => rfl
  | ask next ih => simp only [bind, run, ih, List.cons_append]

theorem run_map (f : α → β) : (i.map f).run e kept =
    let course := i.run e kept
    ⟨course.calls, f course.result, course.kept⟩ := by
  rw [map, run_bind]
  simp only [run, List.append_nil]

@[simp] theorem told_bind (answer : Checked Settings) (f : α → Inquiry β) :
    (i.bind f).told answer = (f (i.told answer)).told answer := by
  induction i with
  | done a => rfl
  | ask next ih => exact ih answer

end Laws

end Inquiry

end ModuleAtlas
