import ModuleAtlas.Schema.Fault

/-!
# Checked values

The outcome of reading a value: the value, or everything that is wrong with it. When several parts
are read side by side, the faults of all of them are kept, in the order of the parts.
-/
namespace ModuleAtlas.Schema

inductive Checked (α : Type)
  | ok (a : α)
  | faults (fs : List Fault)
deriving Inhabited

namespace Checked

variable {α β : Type}

def fail (c : Cause) : Checked α := faults [⟨[], c⟩]

def map (f : α → β) : Checked α → Checked β
  | ok a => ok (f a)
  | faults fs => faults fs

/-- Reads two parts side by side. -/
def both (f : Checked (α → β)) (x : Checked α) : Checked β :=
  match f, x with
  | ok f, ok a => ok (f a)
  | ok _, faults gs => faults gs
  | faults fs, ok _ => faults fs
  | faults fs, faults gs => faults (fs ++ gs)

/-- Goes on with a value that is as it should be. -/
def andThen (x : Checked α) (f : α → Checked β) : Checked β :=
  match x with
  | ok a => f a
  | faults fs => faults fs

instance : Functor Checked := ⟨map, fun a x => map (fun _ => a) x⟩

instance : Applicative Checked where
  pure := ok
  seq f x := both f (x ())

/-- Names the place of a part. -/
def within (s : Step) : Checked α → Checked α
  | ok a => ok a
  | faults fs => faults (fs.map (Fault.within s))

/-- Reads the elements of a row one by one, the first of which has a number. -/
def row (f : β → Checked α) : List β → (n : Nat) → Checked (List α)
  | [], _ => ok []
  | x :: xs, n => List.cons <$> within (.index n) (f x) <*> row f xs (n + 1)

end Checked

end ModuleAtlas.Schema
