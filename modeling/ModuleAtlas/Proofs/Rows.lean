import Mathlib.Data.List.Forall2

/-!
# Rows of corresponding elements

Two rows correspond when their elements do, one by one. What is found, chosen or put together in one
row then corresponds to what it is in the other, if the tests and the functions agree on such
elements.
-/
namespace ModuleAtlas

variable {α β γ : Type} {R : α → β → Prop} {xs : List α} {ys : List β}

theorem find?_rel (h : List.Forall₂ R xs ys) {p : α → Bool} {q : β → Bool}
    (same : ∀ x y, R x y → q y = p x) : Option.Rel R (xs.find? p) (ys.find? q) := by
  induction h with
  | nil => exact .none
  | cons hxy _ ih =>
    rw [List.find?_cons, List.find?_cons, same _ _ hxy]
    split
    · exact .some hxy
    · exact ih

/-- The elements that pass a test correspond, in any way in which elements that pass it do. -/
theorem filter_rows {S : α → β → Prop} (h : List.Forall₂ R xs ys) {p : α → Bool} {q : β → Bool}
    (same : ∀ x y, R x y → q y = p x) (passing : ∀ x y, R x y → p x = true → S x y) :
    List.Forall₂ S (xs.filter p) (ys.filter q) := by
  induction h with
  | nil => exact .nil
  | cons hxy _ ih =>
    rw [List.filter_cons, List.filter_cons, same _ _ hxy]
    split
    · next pass => exact .cons (passing _ _ hxy pass) ih
    · exact ih

theorem any_rel (h : List.Forall₂ R xs ys) {p : α → Bool} {q : β → Bool}
    (same : ∀ x y, R x y → q y = p x) : ys.any q = xs.any p := by
  induction h with
  | nil => rfl
  | cons hxy _ ih => rw [List.any_cons, List.any_cons, same _ _ hxy, ih]

theorem flatMap_rel (h : List.Forall₂ R xs ys) {f : α → List γ} {g : β → List γ}
    (same : ∀ x ∈ xs, ∀ y, R x y → g y = f x) : ys.flatMap g = xs.flatMap f := by
  induction h with
  | nil => rfl
  | cons hxy _ ih =>
    have ⟨first, others⟩ := List.forall_mem_cons.1 same
    rw [List.flatMap_cons, List.flatMap_cons, first _ hxy, ih others]

theorem foldl_rel (h : List.Forall₂ R xs ys) {f : γ → α → γ} {g : γ → β → γ}
    (same : ∀ x ∈ xs, ∀ y, R x y → ∀ c, g c y = f c x) (c : γ) : ys.foldl g c = xs.foldl f c := by
  induction h generalizing c with
  | nil => rfl
  | cons hxy _ ih =>
    have ⟨first, others⟩ := List.forall_mem_cons.1 same
    rw [List.foldl_cons, List.foldl_cons, first _ hxy, ih others]

theorem map_rel (h : List.Forall₂ R xs ys) {f : α → γ} {g : β → γ}
    (same : ∀ x ∈ xs, ∀ y, R x y → g y = f x) : ys.map g = xs.map f := by
  rw [List.map_eq_flatMap, List.map_eq_flatMap,
    flatMap_rel h fun x hx y hxy => by rw [same x hx y hxy]]

theorem getLast?_rel (h : List.Forall₂ R xs ys) : Option.Rel R xs.getLast? ys.getLast? := by
  have back := List.forall₂_reverse_iff.2 h
  rw [← List.head?_reverse, ← List.head?_reverse]
  generalize xs.reverse = us at *
  generalize ys.reverse = vs at *
  cases back with
  | nil => exact .none
  | cons hxy _ => exact .some hxy

variable {o p : Option α} {o' p' : Option β}

theorem or_rel (h : Option.Rel R o o') (h' : Option.Rel R p p') :
    Option.Rel R (o.or p) (o'.or p') := by
  cases h with
  | some hxy => exact .some hxy
  | none => exact h'

theorem getD_rel (h : Option.Rel R o o') {x : α} {y : β} (hxy : R x y) :
    R (o.getD x) (o'.getD y) := by
  cases h with
  | some found => exact found
  | none => exact hxy

theorem bind_rel {γ' : Type} {S : γ → γ' → Prop} (h : Option.Rel R o o') {f : α → Option γ}
    {g : β → Option γ'} (same : ∀ x y, R x y → Option.Rel S (f x) (g y)) :
    Option.Rel S (o.bind f) (o'.bind g) := by
  cases h with
  | some hxy => exact same _ _ hxy
  | none => exact .none

theorem filter_rel (h : Option.Rel R o o') {f : α → Bool} {g : β → Bool}
    (same : ∀ x y, R x y → g y = f x) : Option.Rel R (o.filter f) (o'.filter g) := by
  cases h with
  | some hxy =>
    rw [Option.filter_some, Option.filter_some, same _ _ hxy]
    split
    · exact .some hxy
    · exact .none
  | none => exact .none

end ModuleAtlas
