import ModuleAtlas.CommandLine
import Mathlib.Data.List.Forall2
import Mathlib.Data.List.TakeDrop

/-!
# Commands as they are spelled out

An analysis may be asked for with a root and the file of a configuration, and with what else the
command takes. Arguments that do not begin with a dash are no options, whatever they are.

## Main definitions

* `OptionsRead` — arguments that are options, with what is read for them.
* `spelled` — the arguments that ask for an analysis with a configuration.
-/
namespace ModuleAtlas.CommandLine

/-- An argument that is not written as an option. -/
def IsPlain (s : String) : Prop := s.toList.head? ≠ some '-'

theorem IsPlain.startsWith {s : String} (h : IsPlain s) : s.startsWith "-" = false := by
  rw [← Bool.not_eq_true, String.startsWith_string_iff]
  rintro ⟨rest, text⟩
  refine h ?_
  rw [← text]
  rfl

namespace Spec

variable {spec : Spec} {s : String}

end Spec

/-! ## Options with their values -/

/-- Arguments that are options with the values they need, and what is read for them. -/
inductive OptionsRead : List (String × Mark) → List (String × Value) → Prop where
  | nil : OptionsRead [] []
  | flag {s : String} {o : OptionSpec} {args : List (String × Mark)}
      {values : List (String × Value)} (noHelp : o.name ≠ helpOption.name) (kind : o.kind = none)
      (rest : OptionsRead args values) :
      OptionsRead ((s, .option o none) :: args) ((o.name, .given) :: values)
  | valued {s v : String} {o : OptionSpec} {k : ValueKind} {x : Value}
      {args : List (String × Mark)} {values : List (String × Value)}
      (noHelp : o.name ≠ helpOption.name) (kind : o.kind = some k)
      (value : readValue o.name k v = .ok x) (rest : OptionsRead args values) :
      OptionsRead ((s, .option o none) :: (v, .plain) :: args) ((o.name, x) :: values)

section OptionsRead

variable {args others : List (String × Mark)} {values more : List (String × Value)} {fuel : Nat}
  {a : Arguments}

theorem OptionsRead.append (h : OptionsRead args values) (h' : OptionsRead others more) :
    OptionsRead (args ++ others) (values ++ more) := by
  induction h with
  | nil => exact h'
  | flag noHelp kind _ ih => exact .flag noHelp kind ih
  | valued noHelp kind value _ ih => exact .valued noHelp kind value ih

theorem OptionsRead.pastDashes (h : OptionsRead args values) :
    Arguments.pastDashes args = args := by
  cases h <;> rfl

end OptionsRead

/-! ## Options of the command -/

/-- What an analysis is told behind its root. -/
def targetArguments (file : String) (workers : Option String) (summary : Bool) : List String :=
  ["--config", file] ++ (workers.elim [] fun w => ["--workers", w]) ++
    if summary then ["--summary"] else []

/-- The arguments that ask for an analysis with a configuration. -/
def spelled (level : Option String) (root file : String) (workers : Option String)
    (summary : Bool) : List String :=
  (level.elim [] fun l => ["--log-level", l]) ++ "analyze" :: root ::
    targetArguments file workers summary

section Spelled

variable {level workers : Option String} {root file : String}
  (hlevel : ∀ l ∈ level, IsPlain l) (hroot : IsPlain root) (hfile : IsPlain file)
  (hworkers : ∀ w ∈ workers, IsPlain w) (summary : Bool)

include hfile hworkers

end Spelled

end ModuleAtlas.CommandLine
