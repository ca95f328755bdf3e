/-!
# Sets of names

A set of strings is held as a list in ascending order of code points, without repetitions, so that
equal sets are equal values. A set made of a list has the members of the list, `mem_ofList`.
-/
namespace ModuleAtlas

structure NameSet where
  toList : List String
  ascending : toList.Pairwise (· < ·)
deriving DecidableEq

namespace NameSet

/-- Puts a name in its place, unless it is there already. -/
def insertSorted (a : String) : List String → List String
  | [] => [a]
  | b :: bs => if a < b then a :: b :: bs else if a = b then b :: bs else b :: insertSorted a bs

theorem mem_insertSorted {a b : String} {bs : List String} :
    a ∈ insertSorted b bs ↔ a = b ∨ a ∈ bs := by
  induction bs with
  | nil => simp [insertSorted]
  | cons c cs ih =>
    unfold insertSorted
    split
    · simp
    · split
      · next h => simp [h]
      · simp [ih, or_left_comm]

theorem ascending_insertSorted {a : String} {bs : List String} (h : bs.Pairwise (· < ·)) :
    (insertSorted a bs).Pairwise (· < ·) := by
  induction bs with
  | nil => simp [insertSorted]
  | cons b bs ih =>
    have ⟨hb, hbs⟩ := List.pairwise_cons.1 h
    unfold insertSorted
    split
    · next lt =>
      refine List.pairwise_cons.2 ⟨fun c hc => ?_, h⟩
      rcases List.mem_cons.1 hc with rfl | hc
      · exact lt
      · exact String.lt_trans lt (hb c hc)
    · split
      · exact h
      · next nlt ne =>
        refine List.pairwise_cons.2 ⟨fun c hc => ?_, ih hbs⟩
        rcases mem_insertSorted.1 hc with rfl | hc
        · exact Std.lt_of_le_of_ne (String.not_lt.1 nlt) (Ne.symm ne)
        · exact hb c hc

def insert (s : NameSet) (a : String) : NameSet :=
  ⟨insertSorted a s.toList, ascending_insertSorted s.ascending⟩

def empty : NameSet := ⟨[], .nil⟩

instance : Inhabited NameSet := ⟨empty⟩

def ofList (xs : List String) : NameSet := xs.foldl insert empty

theorem mem_insert {s : NameSet} {a b : String} :
    a ∈ (s.insert b).toList ↔ a = b ∨ a ∈ s.toList := mem_insertSorted

theorem mem_ofList {xs : List String} {a : String} : a ∈ (ofList xs).toList ↔ a ∈ xs := by
  suffices ∀ s : NameSet, a ∈ (xs.foldl insert s).toList ↔ a ∈ s.toList ∨ a ∈ xs by
    simpa [ofList, empty] using this empty
  induction xs with
  | nil => simp
  | cons x xs ih => intro s; simp [ih, mem_insert, or_assoc, or_left_comm]

end NameSet

end ModuleAtlas
