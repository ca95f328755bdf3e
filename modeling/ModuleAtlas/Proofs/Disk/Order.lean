import ModuleAtlas.Discovery
import Mathlib.Data.List.Lex
import Mathlib.Data.String.Basic

/-!
# The order of names and of places

Names are in the order of their codes, glyph by glyph; no two glyphs have one code. Places are in
the order of their names, so that a directory stands before what is in it, and all that is in a
directory stands between it and the next one beside it. Source files are in the order of their
paths, and those with one path in the order of their full paths.
-/
namespace ModuleAtlas

open Text

/-! ## Names -/

theorem Text.Glyph.code_injective : Function.Injective Glyph.code := by
  have noSurrogate (c : Char) (b : UInt8) : c.toNat ≠ 0xDC00 + b.toNat := by
    have valid : c.toNat < 0xD800 ∨ 0xDFFF < c.toNat ∧ c.toNat < 0x110000 := c.valid
    have small := b.toNat_lt
    omega
  intro g g' h
  cases g with
  | char c =>
    cases g' with
    | char c' => exact congrArg Glyph.char (Char.toNat_inj.1 h)
    | byte b => exact absurd h (noSurrogate c b)
  | byte b =>
    cases g' with
    | char c => exact absurd h.symm (noSurrogate c b)
    | byte b' =>
      have same : b.toNat = b'.toNat := Nat.add_left_cancel h
      exact congrArg Glyph.byte (UInt8.toNat_inj.1 same)

/-- The codes of a name, by which names are compared. -/
def codes (n : List Glyph) : List Nat := n.map Glyph.code

theorem codes_injective : Function.Injective codes :=
  List.map_injective_iff.2 Glyph.code_injective

theorem before_iff {n m : List Glyph} : Glyph.before n m = true ↔ codes n < codes m := by
  simp [Glyph.before, codes]

theorem not_before_iff {n m : List Glyph} : (!Glyph.before n m) = true ↔ codes m ≤ codes n := by
  rw [Bool.not_eq_true', ← Bool.not_eq_true, before_iff, not_lt]

/-! ## Places -/

/-- One place stands before another one: the names on the way to it do. -/
def Precedes (p q : List Name) : Prop := p.map codes < q.map codes

instance (p q : List Name) : Decidable (Precedes p q) := inferInstanceAs (Decidable (_ < _))

namespace Precedes

variable {p q : List Name} {n m : Name}

theorem irrefl (p : List Name) : ¬ Precedes p p := lt_irrefl _

theorem asymm (h : Precedes p q) : ¬ Precedes q p := lt_asymm h

theorem ne (h : Precedes p q) : p ≠ q := fun same => irrefl q (same ▸ h)

/-- A directory stands before what is in it. -/
theorem below (p : List Name) (n : Name) (q : List Name) : Precedes p (p ++ n :: q) := by
  induction p with
  | nil => exact List.nil_lt_cons _ _
  | cons m p ih => exact List.cons_lt_cons_self.2 ih

/-- What is in one directory stands before what is in another one beside it with a later name. -/
theorem beside (place : List Name) (h : codes n < codes m) (p q : List Name) :
    Precedes (place ++ n :: p) (place ++ m :: q) := by
  induction place with
  | nil => exact List.cons_lt_cons_iff.2 (.inl h)
  | cons x place ih => exact List.cons_lt_cons_self.2 ih

end Precedes

/-! ## Source files -/

namespace Discovery

theorem inOrder_iff {a b : SourceFile} :
    inOrder a b = true ↔
      a.path < b.path ∨ a.path = b.path ∧ codes a.fullPath ≤ codes b.fullPath := by
  rw [inOrder, Bool.or_eq_true, Bool.and_eq_true, decide_eq_true_iff, decide_eq_true_iff,
    not_before_iff]

theorem path_le_of_inOrder {a b : SourceFile} (h : inOrder a b = true) : a.path ≤ b.path := by
  rcases inOrder_iff.1 h with h | ⟨h, -⟩
  · exact le_of_lt h
  · exact le_of_eq h

theorem inOrder_trans (a b c : SourceFile) (hab : inOrder a b = true) (hbc : inOrder b c = true) :
    inOrder a c = true := by
  rw [inOrder_iff] at *
  rcases hab with hab | ⟨hab, hab'⟩
  · rcases hbc with hbc | ⟨hbc, -⟩
    · exact .inl (lt_trans hab hbc)
    · exact .inl (hbc ▸ hab)
  · rcases hbc with hbc | ⟨hbc, hbc'⟩
    · exact .inl (hab ▸ hbc)
    · exact .inr ⟨hab.trans hbc, le_trans hab' hbc'⟩

theorem inOrder_total (a b : SourceFile) : (inOrder a b || inOrder b a) = true := by
  rw [Bool.or_eq_true, inOrder_iff, inOrder_iff]
  rcases lt_trichotomy a.path b.path with h | h | h
  · exact .inl (.inl h)
  · rcases le_total (codes a.fullPath) (codes b.fullPath) with h' | h'
    · exact .inl (.inr ⟨h, h'⟩)
    · exact .inr (.inr ⟨h.symm, h'⟩)
  · exact .inr (.inl h)

theorem inOrder_antisymm {a b : SourceFile} (hab : inOrder a b = true)
    (hba : inOrder b a = true) : a = b := by
  have path := le_antisymm (path_le_of_inOrder hab) (path_le_of_inOrder hba)
  have fullPath : codes a.fullPath = codes b.fullPath := by
    rw [inOrder_iff] at hab hba
    simp only [path, lt_irrefl, false_or, true_and] at hab hba
    exact le_antisymm hab hba
  cases a
  cases b
  cases path
  cases codes_injective fullPath
  rfl

/-- Files in order with the same members are the same. -/
theorem eq_of_inOrder {as bs : List SourceFile} (ha : as.Pairwise fun a b => inOrder a b = true)
    (hb : bs.Pairwise fun a b => inOrder a b = true) (h : as.Perm bs) : as = bs :=
  h.eq_of_pairwise (fun _ _ _ _ hab hba => inOrder_antisymm hab hba) ha hb

/-- Files in order are those before another file, and behind them those after it. -/
theorem eq_append_of_inOrder {files : List SourceFile} (f : SourceFile)
    (sorted : files.Pairwise fun a b => inOrder a b = true) :
    files = files.filter (fun g => inOrder g f) ++ files.filter (fun g => !inOrder g f) := by
  induction files with
  | nil => rfl
  | cons g files ih =>
    have ⟨first, rest⟩ := List.pairwise_cons.1 sorted
    by_cases before : inOrder g f = true
    · simp only [List.filter_cons, before, if_true, Bool.not_true, Bool.false_eq_true, if_false,
        List.cons_append, ← ih rest]
    · -- All files behind one that comes after `f` come after `f`, too.
      have none : ∀ h ∈ files, ¬ inOrder h f = true := by
        intro h hh behind
        exact before (inOrder_trans g h f (first h hh) behind)
      have empty : files.filter (fun h => inOrder h f) = [] := by
        simpa [List.filter_eq_nil_iff] using none
      have full : files.filter (fun h => !inOrder h f) = files := by
        rw [List.filter_eq_self]
        exact fun h hh => by simpa using none h hh
      simp [before, empty, full]

/-- A file stands between those before it and those after it. -/
theorem inOrder_middle {files : List SourceFile} (f : SourceFile)
    (sorted : files.Pairwise fun a b => inOrder a b = true) :
    (files.filter (fun g => inOrder g f) ++ f :: files.filter (fun g => !inOrder g f)).Pairwise
      fun a b => inOrder a b = true := by
  have after (g : SourceFile) (h : (!inOrder g f) = true) : inOrder f g = true := by
    have := inOrder_total g f
    simp_all
  refine List.pairwise_append.2 ⟨sorted.filter _, List.pairwise_cons.2 ⟨?_, sorted.filter _⟩, ?_⟩
  · exact fun g hg => after g (List.mem_filter.1 hg).2
  · intro g hg h hh
    have before := (List.mem_filter.1 hg).2
    rcases List.mem_cons.1 hh with rfl | hh
    · exact before
    · exact inOrder_trans g f h before (after h (List.mem_filter.1 hh).2)

end Discovery

end ModuleAtlas
