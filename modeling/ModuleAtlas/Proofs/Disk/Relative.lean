import ModuleAtlas.Proofs.Disk.Normalization
import Mathlib.Data.List.TakeWhile

/-!
# The way from a root to a path

The way from one place to another goes up from the first one to where both have come the same way,
and from there down to the second. Behind the root it therefore comes to the path that it was made
for, and it goes up at all exactly if that path does not lie within the root.

## Main definitions

* `steps` — the components of the way from a root to a path.
* `LiesWithin` — a path is that of a directory, or lies below it.
-/
namespace ModuleAtlas.Path

variable {w root p q : Path} {xs ys : List Path}

/-! ## Common starts -/

theorem take_commonLength (xs ys : List Path) :
    xs.take (commonLength xs ys) = ys.take (commonLength xs ys) := by
  fun_induction commonLength xs ys <;> grind

theorem commonLength_le (xs ys : List Path) : commonLength xs ys ≤ xs.length := by
  fun_induction commonLength xs ys <;> grind

theorem commonLength_eq_length_iff : commonLength xs ys = xs.length ↔ xs <+: ys := by
  constructor
  · intro h
    have same := take_commonLength xs ys
    rw [h, List.take_length] at same
    exact same ▸ List.take_prefix _ _
  · rintro ⟨zs, rfl⟩
    exact commonLength_append xs zs

/-! ## Ways that are climbed -/

theorem foldl_climb_parents {before : List Path} (h : parent ∉ before) (k : Nat) :
    (List.replicate k parent).foldl (climb true) before = before.drop k := by
  induction k generalizing before with
  | zero => rfl
  | succ k ih =>
    have up : climb true before parent = before.tail := by
      cases before with
      | nil => rfl
      | cons b before =>
        have other : b ≠ parent := fun same => h (same ▸ List.mem_cons_self ..)
        unfold climb
        rw [if_neg (by decide), if_pos rfl]
        exact if_neg other
    have rest : parent ∉ before.tail := fun mem => h (List.mem_of_mem_tail mem)
    rw [List.replicate_succ, List.foldl_cons, up, ih rest, List.drop_tail]

/-- The way from one place to another leads there. -/
theorem foldl_climb_way (hxs : ∀ c ∈ xs, IsKept c) (hys : ∀ c ∈ ys, IsKept c) :
    (way xs ys).foldl (climb true) xs.reverse = ys.reverse := by
  have up : parent ∉ xs.reverse := fun mem => (hxs parent (List.mem_reverse.1 mem)).notParent rfl
  have down : ∀ c ∈ ys.drop (commonLength xs ys), IsKept c := fun c hc =>
    hys c (List.mem_of_mem_drop hc)
  have common : xs.reverse.drop (xs.length - commonLength xs ys) =
      (ys.take (commonLength xs ys)).reverse := by
    have le := commonLength_le xs ys
    rw [List.drop_reverse, Nat.sub_sub_self le, take_commonLength]
  unfold way
  rw [List.foldl_append, foldl_climb_parents up, common, foldl_climb_of_kept true down,
    ← List.reverse_append, List.take_append_drop]

theorem parent_mem_way (hys : ∀ c ∈ ys, IsKept c) : parent ∈ way xs ys ↔ ¬ xs <+: ys := by
  have down : parent ∉ ys.drop (commonLength xs ys) := fun mem =>
    (hys parent (List.mem_of_mem_drop mem)).notParent rfl
  have le := commonLength_le xs ys
  have whole : commonLength xs ys = xs.length ↔ xs <+: ys := commonLength_eq_length_iff
  unfold way
  rw [List.mem_append, List.mem_replicate, ← whole]
  grind

/-! ## Relative paths -/

/-- The components of the way from a root to a path. A dot stands for a way that goes nowhere. -/
def steps (root p : Path) : List Path :=
  match way root.essential p.essential with
  | [] => [[dot]]
  | cs => cs

theorem relative_eq (hroot : isAbsolute root = true) (hp : isAbsolute p = true) :
    relative w root p = ofComponents (steps root p) := by
  unfold relative steps
  simp only [absolute_of_isAbsolute hroot, absolute_of_isAbsolute hp,
    filter_components_normalize hroot, filter_components_normalize hp]
  cases way root.essential p.essential <;> rfl

theorem steps_ne_nil (root p : Path) : steps root p ≠ [] := by
  unfold steps
  split
  · exact List.cons_ne_nil _ _
  · assumption

/-- A step is a dot, a way up, or an essential component of the path. -/
theorem of_mem_steps {c : Path} (h : c ∈ steps root p) :
    c = [dot] ∨ c = parent ∨ c ∈ p.essential := by
  unfold steps way at h
  split at h
  · exact .inl (List.mem_singleton.1 h)
  · rcases List.mem_append.1 h with up | down
    · exact .inr (.inl (List.eq_of_mem_replicate up))
    · exact .inr (.inr (List.mem_of_mem_drop down))

theorem isSegment_of_mem_steps {c : Path} (h : c ∈ steps root p) : IsSegment c := by
  rcases of_mem_steps h with rfl | rfl | h
  · exact ⟨by decide, by decide⟩
  · exact ⟨by decide, by decide⟩
  · exact of_mem_essential h

theorem components_steps (root p : Path) :
    components (ofComponents (steps root p)) = steps root p :=
  components_ofComponents (fun _ hc => (isSegment_of_mem_steps hc).noSlash) (steps_ne_nil root p)

theorem isAbsolute_ofComponents (h : ∀ x ∈ xs, IsSegment x) :
    isAbsolute (ofComponents xs) = false := by
  cases xs with
  | nil => rfl
  | cons x xs =>
    have relative := (h x (List.mem_cons_self ..)).isAbsolute
    obtain ⟨g, x, rfl⟩ := List.exists_cons_of_ne_nil (h x (List.mem_cons_self ..)).notEmpty
    cases xs <;> simpa [ofComponents, isAbsolute] using relative

theorem parent_mem_steps (hp : isAbsolute p = true) :
    parent ∈ steps root p ↔ ¬ root.essential <+: p.essential := by
  rw [← parent_mem_way (isKept_of_mem_essential hp)]
  unfold steps
  split
  · next none => rw [none]; decide
  · rfl

theorem foldl_climb_steps (hroot : isAbsolute root = true) (hp : isAbsolute p = true) :
    (steps root p).foldl (climb true) (climbed root) = climbed p := by
  have leads := foldl_climb_way (isKept_of_mem_essential hroot) (isKept_of_mem_essential hp)
  rw [essential_of_isAbsolute hroot, essential_of_isAbsolute hp, List.reverse_reverse,
    List.reverse_reverse] at leads
  unfold steps
  rw [essential_of_isAbsolute hroot, essential_of_isAbsolute hp]
  split
  · next none => rwa [none] at leads
  · exact leads

/-! ## Joining what is relative -/

/-- Nothing that is joined to a directory changes the slashes at its start. -/
theorem leadingSlashes_join (hp : isAbsolute p = true) (hq : isAbsolute q = false) :
    leadingSlashes (join p q) = leadingSlashes p := by
  have none : q.takeWhile (· = slash) = [] := by
    cases q <;> simp_all [isAbsolute]
  have whole (h : (p.takeWhile (· = slash)).length = p.length) : p.takeWhile (· = slash) = p :=
    (List.takeWhile_prefix _).eq_of_length h
  have same : (join p q).takeWhile (· = slash) = p.takeWhile (· = slash) := by
    rcases join_cases hp hq with ⟨-, joined⟩ | ⟨apart, joined⟩
    · rw [joined, List.takeWhile_append, none, List.append_nil]
      split
      · next h => exact (whole h).symm
      · rfl
    · -- Nothing but slashes would have one at its end.
      rw [joined, List.takeWhile_append, if_neg]
      intro h
      have all := List.takeWhile_eq_self_iff.1 (whole h)
      have notEmpty : p ≠ [] := by rintro rfl; simp [isAbsolute] at hp
      have last : p.getLast notEmpty = slash :=
        of_decide_eq_true (all _ (List.getLast_mem notEmpty))
      exact apart (last ▸ List.getLast?_eq_some_getLast notEmpty)
  unfold leadingSlashes
  rw [same]

theorem normalize_eq_of_climbed (hp : isAbsolute p = true) (hq : isAbsolute q = true)
    (slashes : leadingSlashes p = leadingSlashes q) (climbed : climbed p = climbed q) :
    normalize p = normalize q := by
  rw [normalize_of_isAbsolute hp, normalize_of_isAbsolute hq, slashes, essential_of_isAbsolute hp,
    essential_of_isAbsolute hq, climbed]

/-- Behind the root, the way from it to a path comes to that path. -/
theorem normalize_join_relative (hroot : isAbsolute root = true) (hp : isAbsolute p = true)
    (slashes : leadingSlashes root = leadingSlashes p) :
    normalize (join root (relative w root p)) = normalize p := by
  have relative : isAbsolute (ofComponents (steps root p)) = false :=
    isAbsolute_ofComponents fun _ => isSegment_of_mem_steps
  rw [relative_eq hroot hp]
  apply normalize_eq_of_climbed (isAbsolute_join hroot _) hp
  · rw [leadingSlashes_join hroot relative, slashes]
  · rw [climbed_join_of_relative hroot relative, components_steps, foldl_climb_steps hroot hp]

/-! ## Lying within a directory -/

/-- A path is that of a directory, or lies below it: something is joined to the directory. -/
def LiesWithin (directory p : Path) : Prop :=
  p = directory ∨ ∃ q, q ≠ [] ∧ isAbsolute q = false ∧ p = join directory q

theorem ofComponents_cons (x : Path) (h : xs ≠ []) :
    ofComponents (x :: xs) = x ++ slash :: ofComponents xs := by
  unfold ofComponents
  rw [List.intercalate_cons_of_ne_nil h, List.append_assoc, List.singleton_append]

theorem ofComponents_append (hxs : xs ≠ []) (hys : ys ≠ []) :
    ofComponents (xs ++ ys) = ofComponents xs ++ slash :: ofComponents ys := by
  induction xs with
  | nil => exact absurd rfl hxs
  | cons x xs ih =>
    by_cases rest : xs = []
    · subst rest
      rw [List.singleton_append, ofComponents_cons x hys]
      simp [ofComponents]
    · have more : xs ++ ys ≠ [] := List.append_ne_nil_of_left_ne_nil rest ys
      rw [List.cons_append, ofComponents_cons x more, ih rest, ofComponents_cons x rest]
      simp

/-- No slash stands at the end of components. -/
theorem getLast?_ofComponents (hxs : xs ≠ []) (h : ∀ x ∈ xs, IsSegment x) (before : Path) :
    ∃ g, (before ++ ofComponents xs).getLast? = some g ∧ g ≠ slash := by
  obtain ⟨cs, c, rfl⟩ := (List.eq_nil_or_concat' xs).resolve_left hxs
  obtain ⟨notEmpty, noSlash⟩ := h c (by simp)
  have last : ∃ front, ofComponents (cs ++ [c]) = front ++ c := by
    by_cases hcs : cs = []
    · exact ⟨[], by simp [hcs, ofComponents]⟩
    · refine ⟨ofComponents cs ++ [slash], ?_⟩
      rw [ofComponents_append hcs (List.cons_ne_nil _ _)]
      simp [ofComponents]
  obtain ⟨front, ends⟩ := last
  refine ⟨c.getLast notEmpty, ?_, fun same => noSlash (same ▸ List.getLast_mem notEmpty)⟩
  rw [ends, ← List.append_assoc, List.getLast?_append_of_ne_nil _ notEmpty]
  exact List.getLast?_eq_some_getLast notEmpty

/-- Behind a directory that is as short as it can be, components that stay are joined to it as they
are. -/
theorem join_normalize (hp : isAbsolute p = true) (hys : ys ≠ [])
    (h : ∀ y ∈ ys, IsSegment y) : join (normalize p) (ofComponents ys) =
      List.replicate p.leadingSlashes slash ++ ofComponents (p.essential ++ ys) := by
  have relative := isAbsolute_ofComponents h
  have short := normalize_of_isAbsolute hp
  by_cases hxs : p.essential = []
  · have last : (normalize p).getLast? = some slash := by
      simp [short, hxs, ofComponents, List.getLast?_replicate, leadingSlashes_ne_zero_iff.2 hp]
    rcases join_cases (isAbsolute_normalize hp) relative with ⟨-, joined⟩ | ⟨apart, -⟩
    · rw [joined, short, hxs]
      simp [ofComponents]
    · exact absurd last apart
  · obtain ⟨g, last, other⟩ := getLast?_ofComponents hxs (fun _ => of_mem_essential)
      (List.replicate p.leadingSlashes slash)
    rw [← short] at last
    rcases join_cases (isAbsolute_normalize hp) relative with ⟨slashed, -⟩ | ⟨-, joined⟩
    · exact absurd (Option.some.inj (last.symm.trans slashed)) other
    · rw [joined, short, ofComponents_append hxs hys, List.append_assoc]

/-- A path lies within a directory exactly if its components begin with those of the directory. -/
theorem liesWithin_normalize (hroot : isAbsolute root = true) (hp : isAbsolute p = true)
    (slashes : leadingSlashes root = leadingSlashes p) :
    LiesWithin (normalize root) (normalize p) ↔ root.essential <+: p.essential := by
  constructor
  · rintro (same | ⟨q, -, hq, joined⟩)
    · have names := congrArg essential same
      rw [essential_normalize hp, essential_normalize hroot] at names
      exact names ▸ List.prefix_rfl
    · -- The empty component that a directory may end with is left out on both sides.
      obtain ⟨cs, below, above⟩ :=
        components_join_of_relative (isAbsolute_normalize hroot) hq
      have front : (components (normalize root)).filter (fun c => !c.isEmpty) =
          cs.filter fun c => !c.isEmpty := by
        rcases above with above | above <;> simp [above]
      have names := filter_components_normalize hp
      rw [joined, below, List.filter_append, ← front, filter_components_normalize hroot] at names
      exact names ▸ List.prefix_append _ _
  · rintro ⟨ys, names⟩
    by_cases hys : ys = []
    · left
      rw [hys, List.append_nil] at names
      rw [normalize_of_isAbsolute hp, normalize_of_isAbsolute hroot, names, slashes]
    · have segments : ∀ y ∈ ys, IsSegment y := fun y hy =>
        of_mem_essential (names ▸ List.mem_append_right _ hy)
      refine .inr ⟨ofComponents ys, ?_, isAbsolute_ofComponents segments, ?_⟩
      · intro none
        obtain ⟨g, last, -⟩ := getLast?_ofComponents hys segments []
        simp [none] at last
      · rw [join_normalize hroot hys segments, names, slashes, normalize_of_isAbsolute hp]

end ModuleAtlas.Path
