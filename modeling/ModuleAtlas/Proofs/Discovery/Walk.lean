import ModuleAtlas.Proofs.Disk.Order
import ModuleAtlas.Proofs.Disk.Place
import Mathlib.Data.List.Induction

/-!
# The visits of a walk

Which directories a walk comes to is said here by places alone: all directories on the way have to
be entered. The visits are exactly those, and they come in the order of places.

## Main definitions

* `Entered`, `Reached`, `Listed`, `Unlistable` — what a walk makes of the directory at a place.
-/
namespace ModuleAtlas

open Text

/-- To show a fact of all entries, show it of a directory when it holds of those in it. -/
theorem Entry.inside {P : Entry → Prop} (file : ∀ content, P (.file content))
    (link : ∀ target, P (.link target))
    (directory : ∀ r es, (∀ x ∈ es, P x.2) → P (.directory r es)) (e : Entry) : P e :=
  match e with
  | .file content => file content
  | .link target => link target
  | .directory r es => directory r es fun x hx =>
    have : sizeOf x.2 < 1 + sizeOf r + sizeOf es := by
      have := List.sizeOf_lt_of_mem hx
      have : sizeOf x = 1 + sizeOf x.1 + sizeOf x.2 := by cases x; rfl
      omega
    Entry.inside file link directory x.2

namespace Discovery

/-! ## Places that a walk comes to -/

/-- A directory is entered: its name is not passed over, and it can be listed. -/
def Entered (c : Config) (e : Entry) (way : List Name) (name : Name) : Prop :=
  c.excludes name = false ∧
    ∃ r, e.node? (way ++ [name]) = some (.directory r) ∧ Refusal.trouble? r 0 = none

/-- All directories that contain a place, from below the root on, are entered. -/
def Reached (c : Config) (e : Entry) (q : List Name) : Prop :=
  ∀ way name below, q = way ++ name :: below → below ≠ [] → Entered c e way name

/-- A directory that is listed: the root, or one that is reached and entered. -/
def Listed (c : Config) (e : Entry) (q : List Name) : Prop :=
  ∀ way name, q = way ++ [name] → Reached c e q ∧ Entered c e way name

/-- A directory that is reached and not passed over, but refuses to be listed. -/
def Unlistable (c : Config) (e : Entry) (q : List Name) (t : Trouble) : Prop :=
  ∃ way name r, q = way ++ [name] ∧ Reached c e q ∧ c.excludes name = false ∧
    e.node? q = some (.directory r) ∧ Refusal.trouble? r 0 = some t

theorem listed_nil (c : Config) (e : Entry) : Listed c e [] := by
  intro way name h
  simp at h

/-- A place is reached when the directory that it lies in is listed. -/
theorem reached_snoc {c : Config} {e : Entry} {way : List Name} {name : Name} :
    Reached c e (way ++ [name]) ↔ Listed c e way := by
  constructor
  · rintro h above n rfl
    refine ⟨fun p m below split hne => h p m (below ++ [name]) (by simp [split]) (by simp), ?_⟩
    exact h above n [name] (by simp) (by simp)
  · intro h p m below split hne
    obtain ⟨below, last, rfl⟩ := (List.eq_nil_or_concat below).resolve_left hne
    rw [List.concat_eq_append, ← List.cons_append, ← List.append_assoc] at split
    obtain ⟨rfl, -⟩ := List.append_inj' split rfl
    cases below with
    | nil => exact (h p m rfl).2
    | cons b below =>
      obtain ⟨init, n, hlast⟩ := (List.eq_nil_or_concat (b :: below)).resolve_left (by simp)
      rw [List.concat_eq_append] at hlast
      exact (h (p ++ m :: init) n (by simp [hlast])).1 p m _ rfl (by simp)

theorem listed_snoc {c : Config} {e : Entry} {way : List Name} {name : Name} :
    Listed c e (way ++ [name]) ↔ Listed c e way ∧ Entered c e way name := by
  have here : Reached c e (way ++ [name]) ↔ Listed c e way := reached_snoc
  rw [← here]
  constructor
  · exact fun h => h way name rfl
  · rintro h above n split
    obtain ⟨rfl, hn⟩ := List.append_inj' split rfl
    cases hn
    exact h

theorem Listed.at? {c : Config} {e : Entry} {q : List Name} (h : Listed c e q) :
    ∃ dir, e.at? q = some dir := by
  rcases List.eq_nil_or_concat q with rfl | ⟨way, name, rfl⟩
  · exact ⟨e, rfl⟩
  · obtain ⟨-, -, r, node, -⟩ := h way name (List.concat_eq_append ..)
    obtain ⟨es, hdir⟩ := Entry.at?_directory.1 node
    rw [List.concat_eq_append]
    exact ⟨_, hdir⟩

theorem unlistable_snoc {c : Config} {e : Entry} {way : List Name} {name : Name} {t : Trouble} :
    Unlistable c e (way ++ [name]) t ↔ Listed c e way ∧ c.excludes name = false ∧
      ∃ r, e.node? (way ++ [name]) = some (.directory r) ∧ Refusal.trouble? r 0 = some t := by
  have here : Reached c e (way ++ [name]) ↔ Listed c e way := reached_snoc
  rw [← here]
  constructor
  · rintro ⟨above, n, r, split, reached, named, node, trouble⟩
    obtain ⟨rfl, hn⟩ := List.append_inj' split rfl
    cases hn
    exact ⟨reached, named, r, node, trouble⟩
  · rintro ⟨reached, named, r, node, trouble⟩
    exact ⟨way, name, r, rfl, reached, named, node, trouble⟩

theorem unlistable_ne_nil {c : Config} {e : Entry} {q : List Name} {t : Trouble}
    (h : Unlistable c e q t) : q ≠ [] := by
  obtain ⟨way, name, r, rfl, -⟩ := h
  simp

/-! ## Single visits -/

/-- The names of the source files in a directory. -/
def sources (v : View) (place : List Name) (e : Entry) : List Name :=
  (e.entries.filter fun x => v.isSource place x.1 x.2).map Prod.fst

/-- What comes of listing a directory that has been listed so often. -/
def listing (v : View) (listings : Nat) (place : List Name) (e : Entry) :
    Except Trouble (List Name) :=
  match e.trouble? listings with
  | some t => .error t
  | none => .ok (sources v place e)

variable {v : View} {k : Nat} {place q : List Name} {e : Entry} {o : Except Trouble (List Name)}

theorem listing_eq_ok {names : List Name} :
    listing v k place e = .ok names ↔ e.trouble? k = none ∧ names = sources v place e := by
  rw [listing]
  cases e.trouble? k with
  | some t => simp
  | none => simp [eq_comm]

theorem listing_eq_error {t : Trouble} :
    listing v k place e = .error t ↔ e.trouble? k = some t := by
  rw [listing]
  cases e.trouble? k <;> simp

theorem visitsIn_eq (es : List (Name × Entry)) :
    visitsIn v place es = (es.filter fun x => x.2.isDirectory && !v.config.excludes x.1).map
      fun x => (x.1, visits v 0 (place ++ [x.1]) x.2) := by
  induction es with
  | nil => rfl
  | cons x es ih =>
    rw [visitsIn, List.filter_cons, ih]
    split <;> rfl

/-- A walk comes to a directory itself and, if it can be listed, to what it comes to from each of
the directories in it. -/
theorem mem_visits {x : Visit} :
    x ∈ visits v k place e ↔ e.isDirectory = true ∧ (x = ⟨place, listing v k place e⟩ ∨
      e.trouble? k = none ∧ ∃ name child, (name, child) ∈ e.entries ∧ child.isDirectory = true ∧
        v.config.excludes name = false ∧ x ∈ visits v 0 (place ++ [name]) child) := by
  cases e with
  | file _ => simp [visits, Entry.isDirectory]
  | link _ => simp [visits, Entry.isDirectory]
  | directory r es =>
    have dir : (Entry.directory r es).isDirectory = true := rfl
    simp only [visits, listing, sources, dir, Entry.entries, true_and]
    cases (Entry.directory r es).trouble? k with
    | some t => simp
    | none => simp [visitsIn_eq, and_assoc]

theorem place_of_mem_visits {x : Visit} (h : x ∈ visits v k place e) :
    ∃ q, x.place = place ++ q := by
  induction e using Entry.inside generalizing k place with
  | file content => simp [visits] at h
  | link target => simp [visits] at h
  | directory r es ih =>
    rcases (mem_visits.1 h).2 with rfl | ⟨-, name, child, mem, -, -, hx⟩
    · exact ⟨[], by simp⟩
    · obtain ⟨q, hq⟩ := ih _ mem hx
      exact ⟨name :: q, by simpa using hq⟩

/-- A visit is to a directory in the entry, and it finds what listing that directory gives. -/
theorem exists_directory_of_mem_visits (he : e.isProper = true) {x : Visit}
    (h : x ∈ visits v k place e) : ∃ way dir listings, x.place = place ++ way ∧
      e.at? way = some dir ∧ x.outcome = listing v listings x.place dir := by
  induction e using Entry.inside generalizing k place with
  | file content => simp [visits] at h
  | link target => simp [visits] at h
  | directory r es ih =>
    rcases (mem_visits.1 h).2 with rfl | ⟨-, name, child, mem, -, -, hx⟩
    · exact ⟨[], _, k, by simp, rfl, rfl⟩
    · obtain ⟨way, dir, listings, hplace, hdir, outcome⟩ :=
        ih _ mem ((Entry.isProper_directory.1 he).2 _ mem).2 hx
      refine ⟨name :: way, dir, listings, by simpa using hplace, ?_, outcome⟩
      rw [Entry.at?_cons, (Entry.lookup_entries he).2 mem]
      exact hdir

theorem mem_visits_self :
    (⟨place, o⟩ : Visit) ∈ visits v k place e ↔
      e.isDirectory = true ∧ listing v k place e = o := by
  rw [mem_visits]
  refine and_congr_right fun _ => ⟨?_, fun h => .inl (by rw [h])⟩
  rintro (same | ⟨-, name, child, -, -, -, hx⟩)
  · exact (congrArg Visit.outcome same).symm
  · obtain ⟨q, hq⟩ := place_of_mem_visits hx
    simp at hq

theorem mem_visits_cons (he : e.isProper = true) {name : Name} :
    (⟨place ++ name :: q, o⟩ : Visit) ∈ visits v k place e ↔
      e.trouble? k = none ∧ v.config.excludes name = false ∧
        ∃ child, e.at? [name] = some child ∧ child.isDirectory = true ∧
          (⟨place ++ [name] ++ q, o⟩ : Visit) ∈ visits v 0 (place ++ [name]) child := by
  cases e with
  | file _ => simp [visits, Entry.at?, Entry.entries]
  | link _ => simp [visits, Entry.at?, Entry.entries]
  | directory r es =>
    have found (n : Name) (child : Entry) : es.lookup n = some child ↔ (n, child) ∈ es :=
      Entry.lookup_iff_mem (Entry.isProper_directory.1 he).1
    have dir : (Entry.directory r es).isDirectory = true := rfl
    rw [mem_visits]
    simp only [Entry.at?_singleton, Entry.entries, dir, true_and, found]
    constructor
    · rintro (same | ⟨listed, n, child, mem, dir, named, hx⟩)
      · simp at same
      · -- The visit lies below the directory with the first name of its place.
        obtain ⟨below, split⟩ := place_of_mem_visits hx
        obtain ⟨rfl, -⟩ : name = n ∧ q = below := by simpa using split
        exact ⟨listed, named, child, mem, dir, by simpa using hx⟩
    · rintro ⟨listed, named, child, mem, dir, hx⟩
      exact .inr ⟨listed, name, child, mem, dir, named, by simpa using hx⟩

/-- A walk comes to what lies in a directory when it has listed that directory. -/
theorem mem_visits_snoc (he : e.isProper = true) (place way : List Name) (name : Name) :
    (⟨place ++ (way ++ [name]), o⟩ : Visit) ∈ visits v k place e ↔
      (∃ files, (⟨place ++ way, .ok files⟩ : Visit) ∈ visits v k place e) ∧
        v.config.excludes name = false ∧
        ∃ child, e.at? (way ++ [name]) = some child ∧ child.isDirectory = true ∧
          listing v 0 (place ++ (way ++ [name])) child = o := by
  induction way generalizing e k place with
  | nil =>
    rw [List.nil_append, mem_visits_cons he]
    simp only [List.append_nil]
    constructor
    · rintro ⟨listed, named, child, hchild, dir, hx⟩
      obtain ⟨r, es, rfl⟩ := Entry.directory_of_at?_cons hchild
      have above : (⟨place, .ok (sources v place (.directory r es))⟩ : Visit) ∈
          visits v k place (.directory r es) :=
        mem_visits_self.2 ⟨rfl, listing_eq_ok.2 ⟨listed, rfl⟩⟩
      exact ⟨⟨_, above⟩, named, child, hchild, dir, (mem_visits_self.1 hx).2⟩
    · rintro ⟨⟨files, hx⟩, named, child, hchild, dir, rfl⟩
      have listed := (listing_eq_ok.1 (mem_visits_self.1 hx).2).1
      exact ⟨listed, named, child, hchild, dir, mem_visits_self.2 ⟨dir, rfl⟩⟩
  | cons n way ih =>
    have split (p : List Name) : place ++ [n] ++ p = place ++ n :: p := by simp
    rw [List.cons_append, mem_visits_cons he]
    simp only [mem_visits_cons he]
    constructor
    · rintro ⟨listed, named, child, hchild, dir, hx⟩
      have proper := (Entry.isProper_of_at? he hchild).1
      obtain ⟨⟨files, above⟩, named', child', hchild', dir', rfl⟩ := (ih proper _).1 hx
      refine ⟨⟨files, listed, named, child, hchild, dir, above⟩, named', child', ?_, dir', ?_⟩
      · rw [← List.singleton_append, Entry.at?_append, hchild]
        exact hchild'
      · rw [split]
    · rintro ⟨⟨files, listed, named, child, hchild, dir, above⟩, named', child', hchild', dir', rfl⟩
      have proper := (Entry.isProper_of_at? he hchild).1
      refine ⟨listed, named, child, hchild, dir, (ih proper _).2 ?_⟩
      rw [← List.singleton_append, Entry.at?_append, hchild] at hchild'
      exact ⟨⟨files, above⟩, named', child', hchild', dir', by rw [split]⟩

/-! ## The walk from the root -/

/-- The root can be listed by a walk, after it has been listed once before. -/
def RootListed (e : Entry) : Prop := e.isDirectory = true ∧ e.trouble? 1 = none

theorem directory_of_isDirectory {child : Entry} (h : child.isDirectory = true) :
    ∃ r es, child = .directory r es := by
  cases child with
  | directory r es => exact ⟨r, es, rfl⟩
  | file _ => cases h
  | link _ => cases h

/-- A walk lists the directories that are listed, and finds the source files in them. -/
theorem mem_visits_ok (he : e.isProper = true) (hroot : RootListed e) {names : List Name} :
    (⟨q, .ok names⟩ : Visit) ∈ visits v 1 [] e ↔
      Listed v.config e q ∧ ∃ dir, e.at? q = some dir ∧ names = sources v q dir := by
  induction q using List.reverseRecOn generalizing names with
  | nil =>
    rw [mem_visits_self, listing_eq_ok]
    simp [hroot.1, hroot.2, listed_nil]
  | append_singleton way name ih =>
    have above : (∃ files, (⟨way, .ok files⟩ : Visit) ∈ visits v 1 [] e) ↔
        Listed v.config e way ∧ ∃ dir, e.at? way = some dir := by
      simp only [ih]
      constructor
      · rintro ⟨-, listed, dir, hdir, -⟩
        exact ⟨listed, dir, hdir⟩
      · rintro ⟨listed, dir, hdir⟩
        exact ⟨_, listed, dir, hdir, rfl⟩
    rw [← List.nil_append (way ++ [name]), mem_visits_snoc he [] way name]
    simp only [List.nil_append]
    rw [above, listed_snoc]
    constructor
    · rintro ⟨⟨listed, -⟩, named, child, hchild, dir, ok⟩
      obtain ⟨r, es, rfl⟩ := directory_of_isDirectory dir
      have ⟨trouble, hnames⟩ := listing_eq_ok.1 ok
      exact ⟨⟨listed, named, r, Entry.at?_directory.2 ⟨es, hchild⟩, trouble⟩, _, hchild, hnames⟩
    · rintro ⟨⟨listed, named, r, node, trouble⟩, child, hchild, hnames⟩
      obtain ⟨es, hdir⟩ := Entry.at?_directory.1 node
      cases hdir.symm.trans hchild
      rw [Entry.at?_append] at hchild
      obtain ⟨dir, hway, -⟩ := Option.bind_eq_some_iff.1 hchild
      exact ⟨⟨listed, dir, hway⟩, named, _, hdir, rfl, listing_eq_ok.2 ⟨trouble, hnames⟩⟩

/-- A walk fails to list the directories that are unlistable. -/
theorem mem_visits_error (he : e.isProper = true) (hroot : RootListed e) {t : Trouble} :
    (⟨q, .error t⟩ : Visit) ∈ visits v 1 [] e ↔ Unlistable v.config e q t := by
  rcases List.eq_nil_or_concat q with rfl | ⟨way, name, rfl⟩
  · rw [mem_visits_self, listing_eq_error]
    constructor
    · rintro ⟨-, trouble⟩
      simp [hroot.2] at trouble
    · exact fun h => absurd rfl (unlistable_ne_nil h)
  · rw [List.concat_eq_append, unlistable_snoc, ← List.nil_append (way ++ [name]),
      mem_visits_snoc he [] way name]
    simp only [List.nil_append, mem_visits_ok he hroot]
    constructor
    · rintro ⟨⟨-, listed, -⟩, named, child, hchild, dir, failed⟩
      obtain ⟨r, es, rfl⟩ := directory_of_isDirectory dir
      exact ⟨listed, named, r, Entry.at?_directory.2 ⟨es, hchild⟩, listing_eq_error.1 failed⟩
    · rintro ⟨listed, named, r, node, trouble⟩
      obtain ⟨es, hchild⟩ := Entry.at?_directory.1 node
      have hway := hchild
      rw [Entry.at?_append] at hway
      obtain ⟨dir, hdir, -⟩ := Option.bind_eq_some_iff.1 hway
      exact ⟨⟨_, listed, dir, hdir, rfl⟩, named, _, hchild, rfl, listing_eq_error.2 trouble⟩

/-! ## The order of visits -/

theorem byName_iff {α : Type} {a b : Name × α} :
    byName a b = true ↔ codes a.1 ≤ codes b.1 := not_before_iff

theorem mergeSort_byName {α : Type} (xs : List (Name × α)) :
    (xs.mergeSort byName).Pairwise fun a b => codes a.1 ≤ codes b.1 := by
  have trans (a b c : Name × α) (hab : byName a b = true) (hbc : byName b c = true) :
      byName a c = true := byName_iff.2 ((byName_iff.1 hab).trans (byName_iff.1 hbc))
  have total (a b : Name × α) : (byName a b || byName b a) = true := by
    rw [Bool.or_eq_true, byName_iff, byName_iff]
    exact le_total _ _
  exact (List.pairwise_mergeSort trans total xs).imp fun h => byName_iff.1 h

theorem mergeSort_byName_lt {α : Type} {xs : List (Name × α)} (h : (xs.map Prod.fst).Nodup) :
    (xs.mergeSort byName).Pairwise fun a b => codes a.1 < codes b.1 := by
  have differ : (xs.mergeSort byName).Pairwise fun a b => a.1 ≠ b.1 :=
    List.pairwise_map.1 (((List.mergeSort_perm xs byName).map Prod.fst).nodup_iff.2 h)
  exact ((mergeSort_byName xs).and differ).imp fun h =>
    lt_of_le_of_ne h.1 fun same => h.2 (codes_injective same)

/-- A walk goes from place to place in their order. -/
theorem visits_ordered (he : e.isProper = true) :
    (visits v k place e).Pairwise fun a b => Precedes a.place b.place := by
  induction e using Entry.inside generalizing k place with
  | file content => simp [visits]
  | link target => simp [visits]
  | directory r es ih =>
    have ⟨differ, proper⟩ := Entry.isProper_directory.1 he
    rw [visits]
    cases (Entry.directory r es).trouble? k with
    | some t => simp
    | none =>
      refine List.pairwise_cons.2 ⟨?_, List.pairwise_flatMap.2 ⟨?_, ?_⟩⟩
      · intro x hx
        simp only [visitsIn_eq, List.mem_flatMap, List.mem_mergeSort, List.mem_map] at hx
        obtain ⟨y, ⟨z, -, rfl⟩, hx⟩ := hx
        obtain ⟨q, hq⟩ := place_of_mem_visits hx
        rw [hq, List.append_assoc]
        exact Precedes.below place z.1 q
      · intro y hy
        simp only [visitsIn_eq, List.mem_mergeSort, List.mem_map, List.mem_filter] at hy
        obtain ⟨z, ⟨hz, -⟩, rfl⟩ := hy
        exact ih z hz (proper z hz).2
      · have names : ((visitsIn v place es).map Prod.fst).Nodup := by
          rw [visitsIn_eq, List.map_map]
          exact differ.sublist (List.filter_sublist.map Prod.fst)
        have inside : ∀ y ∈ (visitsIn v place es).mergeSort byName, ∀ x ∈ y.2,
            ∃ q, x.place = place ++ y.1 :: q := by
          intro y hy x hx
          simp only [visitsIn_eq, List.mem_mergeSort, List.mem_map] at hy
          obtain ⟨z, -, rfl⟩ := hy
          obtain ⟨q, hq⟩ := place_of_mem_visits hx
          exact ⟨q, by simpa using hq⟩
        refine (mergeSort_byName_lt names).imp_of_mem fun {a b} ha hb lt x hx y hy => ?_
        obtain ⟨p, hp⟩ := inside a ha x hx
        obtain ⟨q, hq⟩ := inside b hb y hy
        rw [hp, hq]
        exact Precedes.beside place lt p q

end Discovery

end ModuleAtlas
