import ModuleAtlas.Proofs.Disk.Place

/-!
# The components of shortened paths

Shortening a path keeps its essential components: those of the directory it is seen from, and behind
them each proper name that is joined to it. The way from a root to a place below it is therefore the
row of names of that place.
-/
namespace ModuleAtlas

open Text

namespace Path

/-! ## Components -/

theorem slash_notMem_of_mem_components {p c : Path} (h : c ∈ p.components) : slash ∉ c := by
  rw [components] at h
  induction p generalizing c with
  | nil => simp_all
  | cons g p ih =>
    rw [List.splitOn_cons_eq_if_modifyHead] at h
    split at h
    · rcases List.mem_cons.1 h with rfl | h
      · simp
      · exact ih h
    · next hg =>
      obtain ⟨first, rest, split⟩ := List.exists_cons_of_ne_nil (List.splitOn_ne_nil slash p)
      rw [split] at h ih
      rcases List.mem_cons.1 h with rfl | h
      · have clean := ih (List.mem_cons_self ..)
        simp only [beq_iff_eq] at hg
        simp [clean, Ne.symm hg]
      · exact ih (List.mem_cons_of_mem _ h)

theorem components_join_slash (p q : Path) :
    components (p ++ slash :: q) = components p ++ components q :=
  List.splitOn_append_cons_self p q

@[simp] theorem components_nil : components [] = [[]] := rfl

theorem components_slash (p : Path) : components (slash :: p) = [] :: components p :=
  components_join_slash [] p

theorem components_of_notMem {c : Path} (h : slash ∉ c) : components c = [c] :=
  List.splitOn_eq_singleton h

theorem components_ofComponents {cs : List Path} (h : ∀ c ∈ cs, slash ∉ c) (hcs : cs ≠ []) :
    components (ofComponents cs) = cs :=
  List.splitOn_intercalate slash h hcs

/-! ## Proper names -/

structure IsProper (n : Name) : Prop where
  notEmpty : n ≠ []
  notDot : n ≠ [dot]
  notParent : n ≠ parent
  noSlash : slash ∉ n
  noNul : hasNul n = false

theorem isProper_iff {n : Name} : properName n = true ↔ IsProper n := by
  constructor
  · intro h
    simp only [properName, Bool.and_eq_true, Bool.not_eq_true', List.isEmpty_eq_false_iff,
      bne_iff_ne, List.contains_eq_mem, decide_eq_false_iff_not] at h
    exact ⟨h.1.1.1.1, h.1.1.1.2, h.1.1.2, h.1.2, h.2⟩
  · intro h
    simp [properName, h.notEmpty, h.notDot, h.notParent, h.noSlash, h.noNul]

/-- A component that stands between slashes. -/
structure IsSegment (c : Path) : Prop where
  notEmpty : c ≠ []
  noSlash : slash ∉ c

/-- A component that is kept when it is climbed to. -/
structure IsKept (c : Path) : Prop where
  notEmpty : c ≠ []
  notDot : c ≠ [dot]
  notParent : c ≠ parent

theorem IsProper.isSegment {n : Name} (h : IsProper n) : IsSegment n := ⟨h.notEmpty, h.noSlash⟩

theorem IsProper.isKept {n : Name} (h : IsProper n) : IsKept n :=
  ⟨h.notEmpty, h.notDot, h.notParent⟩

theorem IsSegment.isAbsolute {c : Path} (h : IsSegment c) : isAbsolute c = false := by
  obtain ⟨g, c, rfl⟩ := List.exists_cons_of_ne_nil h.notEmpty
  have hg : g ≠ slash := fun same => h.noSlash (same ▸ List.mem_cons_self ..)
  simp [Path.isAbsolute, hg]

theorem isAbsolute_name {n : Name} (h : IsProper n) : isAbsolute n = false :=
  h.isSegment.isAbsolute

theorem isAbsolute_iff {p : Path} : isAbsolute p = true ↔ ∃ q, p = slash :: q := by
  cases p with
  | nil => simp [isAbsolute]
  | cons g p => simp [isAbsolute]

theorem leadingSlashes_ne_zero_iff {p : Path} : p.leadingSlashes ≠ 0 ↔ isAbsolute p = true := by
  cases p with
  | nil => simp [leadingSlashes, isAbsolute]
  | cons g p =>
    by_cases hg : g = slash
    · simp only [leadingSlashes, hg, isAbsolute, List.takeWhile_cons, decide_true, if_true,
        List.length_cons, List.head?_cons, iff_true]
      split <;> simp_all
    · simp [leadingSlashes, isAbsolute, hg]

/-! ## Joining names -/

/-- The components that a path comes to, the last one first. -/
def climbed (p : Path) : List Path := p.components.foldl (climb true) []

theorem essential_of_isAbsolute {p : Path} (h : isAbsolute p = true) :
    essential p = (climbed p).reverse := by
  have hp := leadingSlashes_ne_zero_iff.2 h
  simp [essential, climbed, hp]

@[simp] theorem climb_nil (rooted : Bool) (before : List Path) :
    climb rooted before [] = before := by
  simp [climb]

theorem IsKept.climb {c : Path} (h : IsKept c) (rooted : Bool) (before : List Path) :
    climb rooted before c = c :: before := by
  simp [Path.climb, h.notEmpty, h.notDot, h.notParent]

theorem isAbsolute_join {p : Path} (hp : isAbsolute p = true) (q : Path) :
    isAbsolute (join p q) = true := by
  obtain ⟨p, rfl⟩ := isAbsolute_iff.1 hp
  simp only [join]
  split
  · assumption
  · split <;> exact isAbsolute_iff.2 ⟨_, rfl⟩

/-- A relative path is joined to a directory with a slash between them, unless one is there. -/
theorem join_cases {p q : Path} (hp : isAbsolute p = true) (hq : isAbsolute q = false) :
    p.getLast? = some slash ∧ join p q = p ++ q ∨
      p.getLast? ≠ some slash ∧ join p q = p ++ slash :: q := by
  have notEmpty : p ≠ [] := by rintro rfl; simp [isAbsolute] at hp
  by_cases last : p.getLast? = some slash <;> simp [join, hq, notEmpty, last]

/-- The components of a directory, without an empty one at its end, stand before those of the
relative path that is joined to it. -/
theorem components_join_of_relative {p q : Path} (hp : isAbsolute p = true)
    (hq : isAbsolute q = false) : ∃ cs, components (join p q) = cs ++ components q ∧
      (components p = cs ∨ components p = cs ++ [[]]) := by
  rcases join_cases hp hq with ⟨last, joined⟩ | ⟨-, joined⟩
  · -- The slash at the end of the directory already separates the two.
    obtain ⟨front, rfl⟩ := List.getLast?_eq_some_iff.1 last
    refine ⟨components front, ?_, .inr (components_join_slash front [])⟩
    rw [joined, List.append_assoc, List.singleton_append, components_join_slash]
  · exact ⟨components p, by rw [joined, components_join_slash], .inl rfl⟩

/-- A name is the last component of the path that it is joined to. -/
theorem components_join {p : Path} (hp : isAbsolute p = true) {n : Name} (hn : IsProper n) :
    ∃ cs, components (join p n) = cs ++ [n] ∧
      (components p = cs ∨ components p = cs ++ [[]]) := by
  rw [← components_of_notMem hn.noSlash]
  exact components_join_of_relative hp (isAbsolute_name hn)

/-- The components of a relative path are climbed from where its directory is. -/
theorem climbed_join_of_relative {p q : Path} (hp : isAbsolute p = true)
    (hq : isAbsolute q = false) :
    climbed (join p q) = q.components.foldl (climb true) (climbed p) := by
  obtain ⟨cs, joined, above⟩ := components_join_of_relative hp hq
  have same : climbed p = cs.foldl (climb true) [] := by
    rcases above with above | above <;> simp [climbed, above]
  rw [climbed, joined, List.foldl_append, ← same]

theorem climbed_join {p : Path} (hp : isAbsolute p = true) {n : Name} (hn : IsProper n) :
    climbed (join p n) = n :: climbed p := by
  rw [climbed_join_of_relative hp (isAbsolute_name hn), components_of_notMem hn.noSlash]
  exact hn.isKept.climb _ _

theorem isAbsolute_foldl_join {p : Path} (hp : isAbsolute p = true) {ns : List Name}
    (hns : ∀ n ∈ ns, IsProper n) : isAbsolute (ns.foldl join p) = true := by
  induction ns generalizing p with
  | nil => exact hp
  | cons n ns ih =>
    have ⟨hn, hrest⟩ := List.forall_mem_cons.1 hns
    exact ih (isAbsolute_join hp n) hrest

theorem climbed_foldl_join {p : Path} (hp : isAbsolute p = true) {ns : List Name}
    (hns : ∀ n ∈ ns, IsProper n) : climbed (ns.foldl join p) = ns.reverse ++ climbed p := by
  induction ns generalizing p with
  | nil => rfl
  | cons n ns ih =>
    have ⟨hn, hrest⟩ := List.forall_mem_cons.1 hns
    rw [List.foldl_cons, ih (isAbsolute_join hp n) hrest, climbed_join hp hn]
    simp

theorem essential_foldl_join {p : Path} (hp : isAbsolute p = true) {ns : List Name}
    (hns : ∀ n ∈ ns, IsProper n) : essential (ns.foldl join p) = essential p ++ ns := by
  rw [essential_of_isAbsolute (isAbsolute_foldl_join hp hns), essential_of_isAbsolute hp,
    climbed_foldl_join hp hns]
  simp

/-! ## Shortening -/

/-- A component that is climbed to is none that stays or, at the root, goes up. -/
theorem mem_climb {rooted : Bool} {before : List Path} {c x : Path}
    (h : x ∈ climb rooted before c) :
    x ∈ before ∨ x = c ∧ c ≠ [] ∧ c ≠ [dot] ∧ (rooted = true → c ≠ parent) := by
  unfold climb at h
  split at h
  · exact .inl h
  · next skip =>
    have notEmpty : c ≠ [] := fun e => skip (.inl e)
    have notDot : c ≠ [dot] := fun e => skip (.inr e)
    split at h
    · next up =>
      cases before with
      | nil =>
        cases rooted with
        | true => simp at h
        | false => exact .inr ⟨List.mem_singleton.1 h, notEmpty, notDot, nofun⟩
      | cons b before =>
        dsimp only at h
        split at h
        · next above =>
          rcases List.mem_cons.1 h with rfl | h
          · exact .inl (by simp [up, above])
          · exact .inl h
        · exact .inl (List.mem_cons_of_mem _ h)
    · next stays =>
      rcases List.mem_cons.1 h with rfl | h
      · exact .inr ⟨rfl, notEmpty, notDot, fun _ => stays⟩
      · exact .inl h

theorem mem_foldl_climb {rooted : Bool} {before cs : List Path} {x : Path}
    (h : x ∈ cs.foldl (climb rooted) before) :
    x ∈ before ∨ x ∈ cs ∧ x ≠ [] ∧ x ≠ [dot] ∧ (rooted = true → x ≠ parent) := by
  induction cs generalizing before with
  | nil => exact .inl h
  | cons c cs ih =>
    rcases ih h with h | ⟨h, kept⟩
    · rcases mem_climb h with h | ⟨rfl, kept⟩
      · exact .inl h
      · exact .inr ⟨List.mem_cons_self .., kept⟩
    · exact .inr ⟨List.mem_cons_of_mem _ h, kept⟩

theorem of_mem_essential {p c : Path} (h : c ∈ essential p) : IsSegment c := by
  rcases mem_foldl_climb (List.mem_reverse.1 h) with h | ⟨h, notEmpty, -⟩
  · simp at h
  · exact ⟨notEmpty, slash_notMem_of_mem_components h⟩

theorem of_mem_climbed {p c : Path} (h : c ∈ climbed p) : IsKept c := by
  rcases mem_foldl_climb h with h | ⟨-, notEmpty, notDot, notParent⟩
  · simp at h
  · exact ⟨notEmpty, notDot, notParent rfl⟩

theorem filter_components_slashes (k : Nat) (p : Path) :
    (components (List.replicate k slash ++ p)).filter (fun c => !c.isEmpty) =
      (components p).filter fun c => !c.isEmpty := by
  induction k with
  | zero => rfl
  | succ k ih =>
    rw [List.replicate_succ, List.cons_append, components_slash, ← ih]
    rfl

theorem filter_components_ofComponents {cs : List Path} (h : ∀ c ∈ cs, IsSegment c) :
    (components (ofComponents cs)).filter (fun c => !c.isEmpty) = cs := by
  by_cases hcs : cs = []
  · subst hcs
    rfl
  · rw [components_ofComponents (fun c hc => (h c hc).noSlash) hcs, List.filter_eq_self]
    intro c hc
    simp [(h c hc).notEmpty]

theorem normalize_of_isAbsolute {p : Path} (hp : isAbsolute p = true) :
    normalize p = List.replicate p.leadingSlashes slash ++ ofComponents p.essential := by
  obtain ⟨k, hk⟩ := Nat.exists_eq_succ_of_ne_zero (leadingSlashes_ne_zero_iff.2 hp)
  simp [normalize, hk, List.replicate_succ]

/-- What is left of an absolute path are its essential components. -/
theorem filter_components_normalize {p : Path} (hp : isAbsolute p = true) :
    (components (normalize p)).filter (fun c => !c.isEmpty) = essential p := by
  rw [normalize_of_isAbsolute hp, filter_components_slashes]
  exact filter_components_ofComponents fun c hc => of_mem_essential hc

theorem isAbsolute_normalize {p : Path} (hp : isAbsolute p = true) :
    isAbsolute (normalize p) = true := by
  obtain ⟨k, hk⟩ := Nat.exists_eq_succ_of_ne_zero (leadingSlashes_ne_zero_iff.2 hp)
  simp [normalize, hk, List.replicate_succ, isAbsolute]

/-! ## Shortening what is short -/

/-- Components that neither stay nor go up are climbed one after the other. -/
theorem foldl_climb_of_kept {cs before : List Path} (rooted : Bool)
    (h : ∀ c ∈ cs, IsKept c) : cs.foldl (climb rooted) before = cs.reverse ++ before := by
  induction cs generalizing before with
  | nil => rfl
  | cons c cs ih =>
    have ⟨hc, hcs⟩ := List.forall_mem_cons.1 h
    rw [List.foldl_cons, hc.climb, ih hcs]
    simp

theorem climbed_eq_filter (p : Path) :
    climbed p = (p.components.filter fun c => !c.isEmpty).foldl (climb true) [] := by
  rw [climbed, List.foldl_filter]
  congr
  funext before c
  cases c <;> simp

theorem isKept_of_mem_essential {p : Path} (hp : isAbsolute p = true) :
    ∀ c ∈ essential p, IsKept c := by
  rw [essential_of_isAbsolute hp]
  exact fun c hc => of_mem_climbed (List.mem_reverse.1 hc)

theorem essential_normalize {p : Path} (hp : isAbsolute p = true) :
    essential (normalize p) = essential p := by
  rw [essential_of_isAbsolute (isAbsolute_normalize hp), climbed_eq_filter,
    filter_components_normalize hp, foldl_climb_of_kept true (isKept_of_mem_essential hp)]
  simp

theorem leadingSlashes_cases (p : Path) :
    p.leadingSlashes = 0 ∨ p.leadingSlashes = 1 ∨ p.leadingSlashes = 2 := by
  unfold leadingSlashes
  split <;> simp

theorem leadingSlashes_normalize {p : Path} (hp : isAbsolute p = true) :
    leadingSlashes (normalize p) = leadingSlashes p := by
  have first : (ofComponents p.essential).takeWhile (· = slash) = [] := by
    cases hcs : p.essential with
    | nil => rfl
    | cons c cs =>
      have ⟨notEmpty, noSlash⟩ := of_mem_essential (hcs ▸ List.mem_cons_self .. : c ∈ p.essential)
      obtain ⟨g, c, rfl⟩ := List.exists_cons_of_ne_nil notEmpty
      have other : g ≠ slash := by
        rintro rfl
        simp at noSlash
      cases cs <;> simp [ofComponents, other]
  have count : ((normalize p).takeWhile (· = slash)).length = p.leadingSlashes := by
    rw [normalize_of_isAbsolute hp, List.takeWhile_append_of_pos (by simp), first]
    simp
  rw [leadingSlashes, count]
  rcases leadingSlashes_cases p with h | h | h <;> simp [h]

theorem normalize_normalize {p : Path} (hp : isAbsolute p = true) :
    normalize (normalize p) = normalize p := by
  rw [normalize_of_isAbsolute (isAbsolute_normalize hp), leadingSlashes_normalize hp,
    essential_normalize hp, normalize_of_isAbsolute hp]

theorem isAbsolute_absolute {w : Path} (hw : isAbsolute w = true) (p : Path) :
    isAbsolute (absolute w p) = true :=
  isAbsolute_normalize (isAbsolute_join hw p)

/-! ## Ways -/

theorem commonLength_append (xs ys : List Path) : commonLength xs (xs ++ ys) = xs.length := by
  induction xs with
  | nil => cases ys <;> rfl
  | cons x xs ih => simp [commonLength, ih]

theorem way_append (xs ys : List Path) : way xs (xs ++ ys) = ys := by
  simp [way, commonLength_append]

theorem join_of_isAbsolute {w p : Path} (hp : isAbsolute p = true) : join w p = p := by
  simp [join, hp]

theorem absolute_of_isAbsolute {w p : Path} (hp : isAbsolute p = true) :
    absolute w p = normalize p := by
  rw [absolute, join_of_isAbsolute hp]

theorem absolute_absolute {w : Path} (hw : isAbsolute w = true) (p : Path) :
    absolute w (absolute w p) = absolute w p := by
  have joined : isAbsolute (join w p) = true := isAbsolute_join hw p
  rw [absolute_of_isAbsolute (isAbsolute_absolute hw p), absolute, normalize_normalize joined]

/-- A place below a directory does not come to the path of the directory. -/
theorem absolute_foldl_join_ne {w root : Path} (hw : isAbsolute w = true) {ns : List Name}
    (hns : ∀ n ∈ ns, IsProper n) (hne : ns ≠ []) : absolute w (ns.foldl join root) ≠ root := by
  intro same
  have hroot : isAbsolute root = true := same ▸ isAbsolute_absolute hw _
  have below := isAbsolute_foldl_join hroot hns
  rw [absolute_of_isAbsolute below] at same
  have names := congrArg essential same
  rw [essential_normalize below, essential_foldl_join hroot hns] at names
  exact hne (List.append_right_eq_self.1 names)

/-- The way from a root to a place below it are the names of that place. -/
theorem relative_foldl_join {root : Path} (hroot : isAbsolute root = true) {ns : List Name}
    (hns : ∀ n ∈ ns, IsProper n) (hne : ns ≠ []) :
    relative root root (ns.foldl join root) = ofComponents ns := by
  have below := isAbsolute_foldl_join hroot hns
  simp only [relative, absolute_of_isAbsolute hroot, absolute_of_isAbsolute below,
    filter_components_normalize hroot, filter_components_normalize below,
    essential_foldl_join hroot hns, way_append]

/-- Different places below a root have different full paths. -/
theorem foldl_join_injective {root : Path} (hroot : isAbsolute root = true) {ns ms : List Name}
    (hns : ∀ n ∈ ns, IsProper n) (hms : ∀ m ∈ ms, IsProper m)
    (h : ns.foldl join root = ms.foldl join root) : ns = ms := by
  have same := congrArg essential h
  rw [essential_foldl_join hroot hns, essential_foldl_join hroot hms] at same
  exact List.append_cancel_left same

/-- The components of a place below a directory are those of the directory, without an empty one at
its end, and the names of the place. -/
theorem components_foldl_join {p : Path} (hp : isAbsolute p = true) {ns : List Name}
    (hns : ∀ n ∈ ns, IsProper n) : ∃ cs, components (ns.foldl join p) = cs ++ ns ∧
      (components p = cs ∨ components p = cs ++ [[]]) := by
  induction ns generalizing p with
  | nil => exact ⟨components p, by simp, .inl rfl⟩
  | cons n ns ih =>
    have ⟨hn, hrest⟩ := List.forall_mem_cons.1 hns
    obtain ⟨cs, joined, above⟩ := components_join hp hn
    obtain ⟨cs', below, same⟩ := ih (isAbsolute_join hp n) hrest
    refine ⟨cs, ?_, above⟩
    rw [joined] at same
    rcases same with rfl | same
    · simpa using below
    · exact absurd (List.append_inj' same rfl).2 (by simpa using hn.notEmpty)

/-! ## Null bytes -/

theorem hasNul_join {p : Path} (hp : hasNul p = false) {n : Name} (hn : IsProper n) :
    hasNul (join p n) = false := by
  have noNul := hn.noNul
  simp only [hasNul, List.contains_eq_mem, decide_eq_false_iff_not] at hp noNul ⊢
  simp only [join, isAbsolute_name hn]
  split
  · next h => cases h
  · split <;> simp [hp, noNul, slash]

theorem hasNul_foldl_join {p : Path} (hp : hasNul p = false) {ns : List Name}
    (hns : ∀ n ∈ ns, IsProper n) : hasNul (ns.foldl join p) = false := by
  induction ns generalizing p with
  | nil => exact hp
  | cons n ns ih =>
    have ⟨hn, hrest⟩ := List.forall_mem_cons.1 hns
    exact ih (hasNul_join hp hn) hrest

end Path

end ModuleAtlas
