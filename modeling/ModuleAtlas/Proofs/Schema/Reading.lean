import ModuleAtlas.Schema.Reading
import Mathlib.Data.List.Forall2

/-!
# When a value is read

A value that is put together from parts is read exactly when all of its parts are. What is written
for a kind, a row or a member is read as that kind, row or member.
-/
namespace ModuleAtlas.Schema

variable {α β : Type}

namespace Checked

@[simp] theorem map_ok (f : α → β) (a : α) : f <$> ok a = ok (f a) := rfl

@[simp] theorem seq_ok (f : α → β) (a : α) : ok f <*> ok a = ok (f a) := rfl

@[simp] theorem within_ok (s : Step) (a : α) : within s (ok a) = ok a := rfl

theorem map_eq_ok {f : α → β} {x : Checked α} {b : β} :
    f <$> x = ok b ↔ ∃ a, x = ok a ∧ f a = b := by
  cases x with
  | ok a => simp
  | faults fs =>
    constructor
    · rintro ⟨⟩
    · rintro ⟨a, ⟨⟩, -⟩

theorem seq_eq_ok {f : Checked (α → β)} {x : Checked α} {b : β} :
    f <*> x = ok b ↔ ∃ g a, f = ok g ∧ x = ok a ∧ g a = b := by
  cases f with
  | ok g => cases x with
    | ok a => simp
    | faults fs =>
      constructor
      · rintro ⟨⟩
      · rintro ⟨-, a, -, ⟨⟩, -⟩
  | faults fs =>
    constructor
    · intro h
      cases x <;> cases h
    · rintro ⟨g, -, ⟨⟩, -⟩

theorem within_eq_ok {s : Step} {x : Checked α} {a : α} : within s x = ok a ↔ x = ok a := by
  cases x with
  | ok b => rfl
  | faults fs => simp [within]

theorem andThen_eq_ok {x : Checked α} {f : α → Checked β} {b : β} :
    x.andThen f = ok b ↔ ∃ a, x = ok a ∧ f a = ok b := by
  cases x <;> simp [andThen]

/-- A row is read when each of its elements is. -/
theorem row_eq_ok {f : β → Checked α} {xs : List β} {n : Nat} {as : List α} :
    row f xs n = ok as ↔ List.Forall₂ (fun x a => f x = ok a) xs as := by
  induction xs generalizing n as with
  | nil => simp [row, eq_comm]
  | cons x xs ih =>
    simp only [row, seq_eq_ok, map_eq_ok, within_eq_ok, ih, List.forall₂_cons_left_iff]
    constructor
    · rintro ⟨_, bs, ⟨a, head, rfl⟩, tail, rfl⟩
      exact ⟨a, bs, head, tail, rfl⟩
    · rintro ⟨a, bs, head, tail, rfl⟩
      exact ⟨_, bs, ⟨a, head, rfl⟩, tail, rfl⟩

end Checked

open Checked

theorem readObject_eq_ok {f : Members → Checked α} {v : Json} {a : α} :
    readObject f v = ok a ↔ ∃ ms, v = .object ms ∧ f ms = ok a := by
  cases v <;> simp [readObject, fail]

theorem required_eq_ok {ms : Members} {name other : String} {f : Reading α} {a : α} :
    required ms name other f = ok a ↔ ∃ v, ms.find? name other = some v ∧ f v = ok a := by
  rw [required, within_eq_ok]
  cases ms.find? name other <;> simp [fail]

theorem optional_eq_ok {ms : Members} {name other : String} {f : Reading α} {a b : α} :
    optional ms name other f b = ok a ↔
      (∃ v, ms.find? name other = some v ∧ f v = ok a) ∨ ms.find? name other = none ∧ a = b := by
  rw [optional]
  cases ms.find? name other with
  | none => simp [eq_comm]
  | some v => simp [within_eq_ok]

theorem readRow_eq_ok {f : Reading α} {v : Json} {as : List α} :
    readRow f v = ok as ↔ ∃ xs, v = .array xs ∧ List.Forall₂ (fun x a => f x = ok a) xs as := by
  cases v <;> simp [readRow, fail, row_eq_ok]

theorem exists_of_mem_readRow {f : Reading α} {v : Json} {as : List α} (h : readRow f v = ok as)
    {a : α} (ha : a ∈ as) : ∃ x, f x = ok a := by
  obtain ⟨xs, -, read⟩ := readRow_eq_ok.1 h
  clear h
  induction read with
  | nil => cases ha
  | cons head _ ih =>
    obtain rfl | ha := List.mem_cons.1 ha
    · exact ⟨_, head⟩
    · exact ih ha

/-! ## Written values -/

/-- A row is read as it is written, if each of its elements is. -/
theorem readRow_map {f : Reading α} {write : α → Json} {as : List α}
    (h : ∀ a ∈ as, f (write a) = ok a) : readRow f (.array (as.map write)) = ok as := by
  refine readRow_eq_ok.2 ⟨_, rfl, ?_⟩
  rw [List.forall₂_map_left_iff]
  exact List.forall₂_same.2 h

/-- Types whose values are known by their spellings. -/
class LawfulSpelled (α : Type) [Spelled α] : Prop where
  ofText?_text : ∀ a : α, Spelled.ofText? (text a) = some a

instance : LawfulSpelled ImportKind := ⟨fun a => by cases a <;> rfl⟩

instance : LawfulSpelled ExportKind := ⟨fun a => by cases a <;> rfl⟩

instance : LawfulSpelled EdgeOrigin := ⟨fun a => by cases a <;> rfl⟩

instance : LawfulSpelled WarningKind := ⟨fun a => by cases a <;> rfl⟩

@[simp] theorem readKind_text [Spelled α] [LawfulSpelled α] (a : α) :
    readKind (.string (text a)) = ok a := by
  rw [readKind, LawfulSpelled.ofText?_text]

@[simp] theorem readString_string (s : String) : readString (.string s) = ok s := rfl

@[simp] theorem readBool_bool (b : Bool) : readBool (.bool b) = ok b := rfl

@[simp] theorem readInt_int (n : Int) : readInt (.int n) = ok n := rfl

@[simp] theorem readRow_ofStrings (xs : List String) :
    readRow readString (.ofStrings xs) = ok xs := readRow_map fun _ _ => rfl

@[simp] theorem readSet_ofStrings (xs : List String) :
    readSet readString (.ofStrings xs) = ok xs := readRow_ofStrings xs

end ModuleAtlas.Schema
