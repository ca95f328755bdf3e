import ModuleAtlas.Proofs.Discovery.Exactness

/-!
# How far a stopped walk comes

A signal that lets `n` questions pass lets a walk list `n` directories. The walk comes to an end in
front of the next one: it has all source files in the first `n` directories and none in any other,
and it has met the directories that cannot be listed and come before the next one.

## Main definitions

* `directories` — the directories that a walk lists, in its order.
-/
namespace ModuleAtlas

open Text

namespace Discovery

variable {d : Disk} {root : Path} {c : Config} {e : Entry}

/-- The places of the visits that list a directory. -/
def listedPlaces (xs : List Visit) : List (List Name) := (xs.filter Visit.isListed).map Visit.place

/-- The directories that a walk lists, in its order. -/
def directories (d : Disk) (root : Path) (c : Config) (e : Entry) : List (List Name) :=
  listedPlaces (walk d root c e)

theorem length_listedPlaces (xs : List Visit) : (listedPlaces xs).length = listedCount xs := by
  rw [listedPlaces, List.length_map, listedCount, List.countP_eq_length_filter]

theorem listedPlaces_append (xs ys : List Visit) :
    listedPlaces (xs ++ ys) = listedPlaces xs ++ listedPlaces ys := by
  rw [listedPlaces, List.filter_append, List.map_append]
  rfl

theorem listedPlaces_cons {y : Visit} (listed : y.isListed = true) (ys : List Visit) :
    listedPlaces (y :: ys) = y.place :: listedPlaces ys := by
  rw [listedPlaces, List.filter_cons_of_pos listed]
  rfl

/-! ## The cut -/

/-- A walk that is stopped after `n` questions has carried out the visits in front of a cut. They
list the first `n` directories, and the visit behind the cut, if there is one, lists the next. -/
structure IsCut (d : Disk) (root : Path) (c : Config) (e : Entry) (n : Nat)
    (before rest : List Visit) : Prop where
  split : walk d root c e = before ++ rest
  listed : listedPlaces before = (directories d root c e).take n
  next : rest = [] ∧ (directories d root c e).length ≤ n ∨
    ∃ y behind, rest = y :: behind ∧ y.isListed = true ∧
      (directories d root c e)[n]? = some y.place

theorem le_of_after_silent {n count : Nat} (silent : (StopSignal.after n).Silent 0 count) :
    count ≤ n := by
  by_contra more
  have stopped := silent n (Nat.zero_le n) (by omega)
  simp [StopSignal.after] at stopped

section Cut

variable (hd : d.IsProper) (hroot : Listable d root e)
include hd hroot

/-- Where a walk is stopped, and what it has found and met by then. -/
theorem exists_cut (c : Config) (n : Nat) : ∃ before rest, IsCut d root c e n before rest ∧
    ∃ found, discover d root c (.after n) = .ok found ∧
      found.files = ((before.flatMap Visit.found).mergeSort (placeInOrder root)).map
        (sourceFile root) ∧
      found.warnings = (before.filterMap Visit.trouble?).map fun x => skipped root x.1 x.2 := by
  have files (before : List Visit) : ((before.flatMap Visit.found).mergeSort
      (placeInOrder root)).map (sourceFile root) =
        ((before.flatMap Visit.found).map (sourceFile root)).mergeSort inOrder :=
    List.map_mergeSort fun _ _ _ _ => rfl
  have warnings (before : List Visit) :
      (before.filterMap Visit.trouble?).map (fun x => skipped root x.1 x.2) =
        before.filterMap (Visit.warning? root) := by
    rw [List.map_filterMap]
    rfl
  rcases run_cases (.after n) .start (walk_harmless (c := c) hd hroot) with
    ⟨silent, done⟩ | ⟨before, y, rest, split, listed, silent, stopped, done⟩
  · have enough : (directories d root c e).length ≤ n := by
      rw [directories, length_listedPlaces]
      exact le_of_after_silent silent
    refine ⟨walk d root c e, [], ⟨(List.append_nil _).symm, ?_, .inl ⟨rfl, enough⟩⟩,
      _, discover_eq hd hroot _, ?_, ?_⟩
    · exact (List.take_of_length_le enough).symm
    · rw [done, files]
      rfl
    · rw [done, warnings]
      rfl
  · have asked : listedCount before = n := by
      have low := le_of_after_silent silent
      have high : n ≤ Progress.start.checks + listedCount before := by
        simpa [StopSignal.after] using stopped
      simp only [Progress.start] at high
      omega
    have all : directories d root c e = listedPlaces before ++ y.place :: listedPlaces rest := by
      rw [directories, split, listedPlaces_append, listedPlaces_cons listed]
    rw [← length_listedPlaces] at asked
    refine ⟨before, y :: rest, ⟨split, ?_, .inr ⟨y, rest, rfl, listed, ?_⟩⟩,
      _, discover_eq hd hroot _, ?_, ?_⟩
    · rw [all, List.take_left' asked]
    · rw [all, ← asked, List.getElem?_append_right (Nat.le_refl _), Nat.sub_self]
      rfl
    · rw [done, files]
      rfl
    · rw [done, warnings]
      rfl

/-- A signal that lets as many questions pass as there are directories might as well be silent. -/
theorem discover_after_eq_never {n : Nat} (enough : (directories d root c e).length ≤ n) :
    discover d root c (.after n) = discover d root c .never := by
  have harmless := walk_harmless (c := c) hd hroot
  rw [directories, length_listedPlaces] at enough
  have silent : (StopSignal.after n).Silent Progress.start.checks
      (listedCount (walk d root c e)) := by
    intro k _ high
    simp only [Progress.start] at high
    simp only [StopSignal.after, decide_eq_false_iff_not]
    omega
  rw [discover_eq hd hroot, discover_eq hd hroot, run_complete harmless silent,
    run_complete harmless (StopSignal.never_silent _ _)]

theorem directories_ordered (c : Config) : (directories d root c e).Pairwise Precedes :=
  List.pairwise_map.2 ((visits_ordered (hroot.isProper hd)).filter _)

theorem nodup_directories (c : Config) : (directories d root c e).Nodup :=
  (directories_ordered hd hroot c).imp fun before => before.ne

/-- Visits to one directory are one visit. -/
theorem visit_eq_of_place {x y : Visit} (hx : x ∈ walk d root c e) (hy : y ∈ walk d root c e)
    (same : x.place = y.place) : x = y := by
  have nodup : ((walk d root c e).map Visit.place).Nodup :=
    List.pairwise_map.2 ((visits_ordered (hroot.isProper hd)).imp fun before => before.ne)
  exact List.inj_on_of_nodup_map nodup hx hy same

theorem mem_directories {q : List Name} : q ∈ directories d root c e ↔ Listed c e q := by
  have he := hroot.isProper hd
  rw [directories, listedPlaces, List.mem_map]
  constructor
  · rintro ⟨⟨place, outcome⟩, hx, rfl⟩
    obtain ⟨hx, listed⟩ := List.mem_filter.1 hx
    cases outcome with
    | error t => cases listed
    | ok names => exact ((mem_visits_ok he hroot.rootListed).1 hx).1
  · intro listed
    obtain ⟨dir, hdir⟩ := listed.at?
    have hx : (⟨q, .ok (sources (view d root c) q dir)⟩ : Visit) ∈ walk d root c e :=
      (mem_visits_ok he hroot.rootListed).2 ⟨listed, dir, hdir, rfl⟩
    exact ⟨_, List.mem_filter.2 ⟨hx, rfl⟩, rfl⟩

namespace IsCut

variable {n : Nat} {before rest : List Visit} (h : IsCut d root c e n before rest)
include h

/-- In front of the cut are the eligible files that lie in the first directories. -/
theorem mem_found {q : List Name} : q ∈ before.flatMap Visit.found ↔
    Eligible d root c e q ∧ q.dropLast ∈ (directories d root c e).take n := by
  have walked {x : Visit} (hx : x ∈ before) : x ∈ walk d root c e :=
    h.split ▸ List.mem_append_left rest hx
  rw [← h.listed, listedPlaces, List.mem_map]
  constructor
  · intro hq
    obtain ⟨x, hx, hq⟩ := List.mem_flatMap.1 hq
    obtain ⟨listed, place⟩ := Visit.dropLast_of_mem_found hq
    exact ⟨eligible_of_mem_found (hroot.isProper hd) (walked hx) hq, x,
      List.mem_filter.2 ⟨hx, listed⟩, place.symm⟩
  · rintro ⟨eligible, x, hx, place⟩
    obtain ⟨y, hy, hq⟩ := List.mem_flatMap.1
      (List.mem_mergeSort.1 ((mem_places hd hroot).2 eligible))
    have hx := (List.mem_filter.1 hx).1
    have same : y.place = x.place := (Visit.dropLast_of_mem_found hq).2.symm.trans place.symm
    rw [visit_eq_of_place hd hroot hy (walked hx) same] at hq
    exact List.mem_flatMap.2 ⟨x, hx, hq⟩

/-- In front of the cut are the directories that cannot be listed and come before the next one. -/
theorem mem_met {q : List Name} {t : Trouble} : (q, t) ∈ before.filterMap Visit.trouble? ↔
    Unlistable c e q t ∧ ∀ next, (directories d root c e)[n]? = some next → Precedes q next := by
  have failed : (⟨q, .error t⟩ : Visit) ∈ walk d root c e ↔ Unlistable c e q t :=
    mem_visits_error (hroot.isProper hd) hroot.rootListed
  have ordered : (walk d root c e).Pairwise fun x y => Precedes x.place y.place :=
    visits_ordered (hroot.isProper hd)
  rw [h.split, List.pairwise_append] at ordered
  obtain ⟨-, behindOrdered, apart⟩ := ordered
  rw [Visit.mem_troubles, ← failed, h.split, List.mem_append]
  constructor
  · refine fun hx => ⟨.inl hx, fun next hnext => ?_⟩
    obtain ⟨-, enough⟩ | ⟨y, behind, rfl, -, last⟩ := h.next
    · rw [List.getElem?_eq_none enough] at hnext
      cases hnext
    · cases last.symm.trans hnext
      exact apart _ hx y List.mem_cons_self
  · rintro ⟨hx | hx, earlier⟩
    · exact hx
    · obtain ⟨rfl, -⟩ | ⟨y, behind, rfl, listed, last⟩ := h.next
      · cases hx
      · -- The next directory is listed, so the trouble would be met behind it.
        rcases List.mem_cons.1 hx with rfl | hx
        · cases listed
        · have later := (List.pairwise_cons.1 behindOrdered).1 _ hx
          exact absurd (earlier _ last) later.asymm

end IsCut

end Cut

/-- A walk that is stopped after `n` questions. It has found the eligible files that lie in the
first `n` directories of the whole walk, in the order of their paths, and it has warned of the
directories that cannot be listed and come before the next one. So no directory is half collected,
more questions find more files, and as many questions as there are directories find all. -/
theorem stopped_walk_exact {d : Disk} (hd : d.IsProper) (path : Path) (c : Config) {e : Entry}
    (hroot : Listable d (d.absolute path) e) :
    ∃ dirs : List (List Name), dirs.Pairwise Precedes ∧ (∀ q, q ∈ dirs ↔ Listed c e q) ∧
      (∀ n, ∃ found, discover d (d.absolute path) c (.after n) = .ok found ∧
        (∃ places : List (List Name), places.Nodup ∧
          (∀ q, q ∈ places ↔ Eligible d (d.absolute path) c e q ∧ q.dropLast ∈ dirs.take n) ∧
          found.files = places.map (sourceFile (d.absolute path)) ∧
          found.files.map SourceFile.path = places.map placeText) ∧
        (found.files.map SourceFile.path).Pairwise (· ≤ ·) ∧
        ∃ met : List (List Name × Trouble), (met.Pairwise fun x y => Precedes x.1 y.1) ∧
          (∀ q t, (q, t) ∈ met ↔
            Unlistable c e q t ∧ ∀ next, dirs[n]? = some next → Precedes q next) ∧
          found.warnings = met.map fun x => ⟨.subtreeRead, troublePath x.1 x.2,
            s!"Skipping unreadable directory {troublePath x.1 x.2}: {x.2.reason}"⟩) ∧
      (∀ m n found found', m ≤ n → discover d (d.absolute path) c (.after m) = .ok found →
        discover d (d.absolute path) c (.after n) = .ok found' → found.files ⊆ found'.files) ∧
      ∀ n, dirs.length ≤ n →
        discover d (d.absolute path) c (.after n) = discover d (d.absolute path) c .never := by
  have habs := hd.isAbsolute path
  have he := hroot.isProper hd
  refine ⟨directories d (d.absolute path) c e, directories_ordered hd hroot c,
    fun q => mem_directories hd hroot, fun n => ?_, fun m n found found' le hm hn => ?_,
    fun n enough => discover_after_eq_never hd hroot enough⟩
  · obtain ⟨before, rest, cut, found, done, files, warnings⟩ := exists_cut hd hroot c n
    have first : before.Sublist (walk d (d.absolute path) c e) :=
      cut.split ▸ List.sublist_append_left before rest
    have places (q : List Name) :
        q ∈ (before.flatMap Visit.found).mergeSort (placeInOrder (d.absolute path)) ↔ _ :=
      List.mem_mergeSort.trans (cut.mem_found hd hroot)
    refine ⟨found, done, ⟨_, ?_, places, files, ?_⟩, ?_, before.filterMap Visit.trouble?, ?_,
      fun q t => cut.mem_met hd hroot, ?_⟩
    · exact (List.mergeSort_perm _ _).nodup_iff.2 (nodup_found he first)
    · rw [files, List.map_map, List.map_inj_left]
      intro q hq
      have eligible := ((places q).1 hq).1
      exact sourceFile_path habs (eligible.isProper he) eligible.ne_nil
    · rw [files]
      exact List.pairwise_map.2 ((sorted_inOrder _ _).imp path_le_of_inOrder)
    · exact (unread_ordered (c := c) hd hroot).sublist (first.filterMap Visit.trouble?)
    · rw [warnings, List.map_inj_left]
      rintro ⟨q, t⟩ hx
      exact skipped_eq hd hroot habs ((cut.mem_met hd hroot).1 hx).1
  · obtain ⟨before, rest, cut, _, done, files, -⟩ := exists_cut hd hroot c m
    obtain ⟨before', rest', cut', _, done', files', -⟩ := exists_cut hd hroot c n
    cases done.symm.trans hm
    cases done'.symm.trans hn
    rw [files, files']
    refine List.map_subset _ fun q hq => ?_
    rw [List.mem_mergeSort, cut.mem_found hd hroot] at hq
    rw [List.mem_mergeSort, cut'.mem_found hd hroot]
    exact ⟨hq.1, (List.take_sublist_take_left le).subset hq.2⟩

theorem stopped_walk_exact_sample : ∃ nothing one k,
    discover Sample.disk (Sample.disk.absolute Sample.root) .standard (.after 0) = .ok nothing ∧
      nothing.files = [] ∧
    discover Sample.disk (Sample.disk.absolute Sample.root) .standard (.after 1) = .ok one ∧
      sourceFile (Sample.disk.absolute Sample.root) [Sample.name 'b'] ∈ one.files ∧
      nothing.files ⊆ one.files ∧
    discover Sample.disk (Sample.disk.absolute Sample.root) .standard (.after k) =
      discover Sample.disk (Sample.disk.absolute Sample.root) .standard .never := by
  obtain ⟨dirs, ordered, listed, each, grows, all⟩ :=
    stopped_walk_exact Sample.disk_isProper Sample.root .standard Sample.disk_listable
  obtain ⟨nothing, zero, ⟨places, -, found, files, -⟩, -⟩ := each 0
  obtain ⟨one, first, ⟨places', -, found', files', -⟩, -⟩ := each 1
  refine ⟨nothing, one, dirs.length, zero, ?_, first, ?_, grows 0 1 _ _ (by decide) zero first,
    all _ le_rfl⟩
  · have empty : places = [] := List.eq_nil_iff_forall_not_mem.2 fun q hq => by
      simpa using ((found q).1 hq).2
    rw [files, empty, List.map_nil]
  · -- Nothing comes before the root, so it is the first directory.
    have root : [] ∈ dirs.take 1 := by
      have mem := (listed []).2 (listed_nil _ _)
      cases dirs with
      | nil => cases mem
      | cons q dirs =>
        rcases List.mem_cons.1 mem with same | later
        · simp [same]
        · exact absurd ((List.pairwise_cons.1 ordered).1 _ later) (List.not_lt_nil _)
    rw [files']
    exact List.mem_map_of_mem ((found' _).2 ⟨Sample.eligible, root⟩)

end Discovery

end ModuleAtlas
