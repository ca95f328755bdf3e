import ModuleAtlas.Proofs.Discovery.Naming
import ModuleAtlas.Proofs.Discovery.Stopping
import ModuleAtlas.Proofs.Disk.Agreement

/-!
# What discovery finds

Discovery finds a place when a source file lies there and all directories on the way are entered. It
warns of a directory when that is reached and cannot be listed. Both are said without the walk: by
what lies at the places of the tree.

## Main definitions

* `Eligible` — the places that discovery finds.
* `Listable` — the root can be listed, and no trouble below it is taken for one with the root.
* `walk` — the visits of a walk that nothing stops.
* `places` — the places of the files that the walk finds, in the order of the files.
-/
namespace ModuleAtlas

open Text

namespace Discovery

/-- What lies at a place is neither a directory nor a link that leads to one. -/
def HoldsFile (d : Disk) (root : Path) (e : Entry) (q : List Name) : Prop :=
  (∃ content, e.node? q = some (.file content)) ∨
    (∃ target, e.node? q = some (.link target)) ∧ d.isDirectory (fullPath root q) = false

/-- A source file lies at a place, and all directories on the way to it are entered. -/
structure Eligible (d : Disk) (root : Path) (c : Config) (e : Entry) (q : List Name) : Prop where
  holdsFile : HoldsFile d root e q
  reached : Reached c e q
  named : ∃ way name, q = way ++ [name] ∧ c.isSourceFile name = true

/-- The root can be listed as often as it is. A trouble that does not name its directory is met only
where the working directory is not the root. -/
structure Listable (d : Disk) (root : Path) (e : Entry) : Prop where
  opened : openRoot d root = .ok e
  listed : e.trouble? 1 = none
  elsewhere : ∀ q r reason, e.node? q = some (.directory r) →
    Refusal.trouble? r 0 = some (.unknown reason) → d.absolute [] ≠ root

/-- The visits of a walk that nothing stops. -/
def walk (d : Disk) (root : Path) (c : Config) (e : Entry) : List Visit :=
  visits (view d root c) 1 [] e

/-- Places in the order of the files at them. -/
def placeInOrder (root : Path) (p q : List Name) : Bool :=
  inOrder (sourceFile root p) (sourceFile root q)

/-- The places of the files that the walk finds, in the order of the files. -/
def places (d : Disk) (root : Path) (c : Config) (e : Entry) : List (List Name) :=
  ((walk d root c e).flatMap Visit.found).mergeSort (placeInOrder root)

/-- The directories that the walk cannot list, with what was in the way. -/
def unread (d : Disk) (root : Path) (c : Config) (e : Entry) : List (List Name × Trouble) :=
  (walk d root c e).filterMap Visit.trouble?

/-- What there is to find below a root. -/
def whole (d : Disk) (root : Path) (c : Config) (e : Entry) : Outcome where
  files := (places d root c e).map (sourceFile root)
  warnings := (unread d root c e).map fun x => skipped root x.1 x.2
  log := ((unread d root c e).map fun x => skipped root x.1 x.2).map fun w =>
    .warning sender w.message
  checks := listedCount (walk d root c e)

/-- The path that is reported for a directory that cannot be listed. -/
def troublePath (q : List Name) : Trouble → String
  | .known _ => placeText q
  | .unknown _ => ""

/-! ## The root -/

section Root

variable {d : Disk} {root : Path} {c : Config} {e : Entry} {q : List Name}

theorem find_eq_ok : d.find root = .ok e ↔
    ∃ p, d.locate root = .ok p ∧ d.top.at? p = some e := by
  rw [Disk.find]
  cases d.locate root with
  | error f => simp
  | ok p => cases found : d.top.at? p <;> simp [found]

theorem openRoot_eq_ok : openRoot d root = .ok e ↔
    (∃ p, d.locate root = .ok p ∧ d.top.at? p = some e) ∧
      root.hasNul = false ∧ e.isDirectory = true ∧ e.trouble? 0 = none := by
  rw [← find_eq_ok, openRoot]
  cases d.find root with
  | error f => simp
  | ok x =>
    by_cases noNul : root.hasNul = true
    · simp [noNul]
    · by_cases dir : x.isDirectory = true
      · cases trouble : x.trouble? 0 with
        | none =>
          simp only [noNul, dir, trouble, Bool.not_true, Bool.false_eq_true, if_false]
          grind
        | some t =>
          simp only [noNul, dir, trouble, Bool.not_true, Bool.false_eq_true, if_false]
          grind
      · simp only [noNul, dir, Bool.not_false, Bool.false_eq_true, if_true, if_false]
        grind

theorem Listable.isProper (h : Listable d root e) (hd : d.IsProper) : e.isProper = true := by
  obtain ⟨p, -, found⟩ := (openRoot_eq_ok.1 h.opened).1
  exact (Entry.isProper_of_at? hd.names found).1

theorem Listable.rootListed (h : Listable d root e) : RootListed e :=
  ⟨(openRoot_eq_ok.1 h.opened).2.2.1, h.listed⟩

theorem isProper_of_node? (he : e.isProper = true) {x : Node} (h : e.node? q = some x) :
    ∀ n ∈ q, Path.IsProper n := by
  obtain ⟨child, hchild, -⟩ := Entry.node?_eq_some.1 h
  exact fun n hn => Path.isProper_iff.1 ((Entry.isProper_of_at? he hchild).2 n hn)

/-! ## Single places -/

theorem HoldsFile.node (h : HoldsFile d root e q) : ∃ x, e.node? q = some x := by
  rcases h with ⟨content, h⟩ | ⟨⟨target, h⟩, -⟩ <;> exact ⟨_, h⟩

theorem Eligible.isProper (h : Eligible d root c e q) (he : e.isProper = true) :
    ∀ n ∈ q, Path.IsProper n := by
  obtain ⟨x, hx⟩ := h.holdsFile.node
  exact isProper_of_node? he hx

theorem Eligible.ne_nil (h : Eligible d root c e q) : q ≠ [] := by
  obtain ⟨way, name, rfl, -⟩ := h.named
  simp

theorem eligible_snoc {way : List Name} {name : Name} :
    Eligible d root c e (way ++ [name]) ↔
      Listed c e way ∧ c.isSourceFile name = true ∧ HoldsFile d root e (way ++ [name]) := by
  constructor
  · rintro ⟨holds, reached, above, n, split, source⟩
    obtain ⟨rfl, hn⟩ := List.append_inj' split rfl
    cases hn
    exact ⟨reached_snoc.1 reached, source, holds⟩
  · rintro ⟨listed, source, holds⟩
    exact ⟨holds, reached_snoc.2 listed, way, name, rfl, source⟩

theorem isSource_iff {way : List Name} {name : Name} {child : Entry}
    (h : e.at? (way ++ [name]) = some child) :
    (view d root c).isSource way name child = true ↔
      c.isSourceFile name = true ∧ HoldsFile d root e (way ++ [name]) := by
  cases child with
  | file content => simp [View.isSource, view, HoldsFile, Entry.node?, h, Entry.node]
  | directory r es => simp [View.isSource, HoldsFile, Entry.node?, h, Entry.node]
  | link target => simp [View.isSource, view, HoldsFile, Entry.node?, h, Entry.node, and_comm]

theorem mem_sources (he : e.isProper = true) {way : List Name} {name : Name} {dir : Entry}
    (h : e.at? way = some dir) : name ∈ sources (view d root c) way dir ↔
      c.isSourceFile name = true ∧ HoldsFile d root e (way ++ [name]) := by
  have proper := (Entry.isProper_of_at? he h).1
  have inside (child : Entry) : (name, child) ∈ dir.entries ↔
      e.at? (way ++ [name]) = some child := by
    rw [Entry.at?_append, h, Option.bind_some, Entry.at?_singleton]
    exact (Entry.lookup_entries proper).symm
  simp only [sources, List.mem_map, List.mem_filter]
  constructor
  · rintro ⟨⟨n, child⟩, ⟨mem, source⟩, rfl⟩
    exact (isSource_iff ((inside child).1 mem)).1 source
  · rintro ⟨source, holds⟩
    obtain ⟨x, hx⟩ := holds.node
    obtain ⟨child, hchild, -⟩ := Entry.node?_eq_some.1 hx
    exact ⟨(name, child), ⟨(inside child).2 hchild, (isSource_iff hchild).2 ⟨source, holds⟩⟩, rfl⟩

end Root

/-! ## The whole walk -/

theorem map_skipped_unread (d : Disk) (root : Path) (c : Config) (e : Entry) :
    (unread d root c e).map (fun x => skipped root x.1 x.2) =
      (walk d root c e).filterMap (Visit.warning? root) := by
  rw [unread, List.map_filterMap]
  rfl

theorem sorted_inOrder (root : Path) (qs : List (List Name)) :
    ((qs.mergeSort (placeInOrder root)).map (sourceFile root)).Pairwise
      fun a b => inOrder a b = true := by
  refine List.pairwise_map.2 (List.pairwise_mergeSort ?_ ?_ _)
  · exact fun p q r => inOrder_trans (sourceFile root p) (sourceFile root q) (sourceFile root r)
  · exact fun p q => inOrder_total (sourceFile root p) (sourceFile root q)

theorem files_inOrder (d : Disk) (root : Path) (c : Config) (e : Entry) :
    ((places d root c e).map (sourceFile root)).Pairwise fun a b => inOrder a b = true :=
  sorted_inOrder root _

section Found

variable {d : Disk} {root : Path} {c : Config} {e : Entry} (he : e.isProper = true)
include he

/-- What a visit of the walk finds is eligible. -/
theorem eligible_of_mem_found {x : Visit} {q : List Name} (hx : x ∈ walk d root c e)
    (h : q ∈ x.found) : Eligible d root c e q := by
  obtain ⟨way, outcome⟩ := x
  cases outcome with
  | error t => simp [Visit.found] at h
  | ok names =>
    obtain ⟨name, mem, rfl⟩ : ∃ name ∈ names, way ++ [name] = q := by simpa [Visit.found] using h
    -- If the root could not be listed again, there would be no other visit.
    have hroot : RootListed e := by
      have dir := (mem_visits.1 hx).1
      refine ⟨dir, ?_⟩
      obtain ⟨r, es, rfl⟩ := directory_of_isDirectory dir
      cases trouble : (Entry.directory r es).trouble? 1 with
      | none => rfl
      | some t => simp [walk, visits, trouble] at hx
    obtain ⟨listed, dir, hdir, rfl⟩ := (mem_visits_ok he hroot).1 hx
    exact eligible_snoc.2 ⟨listed, (mem_sources he hdir).1 mem⟩

/-- No place is found twice, whatever of the walk is carried out. -/
theorem nodup_found {before : List Visit} (h : before.Sublist (walk d root c e)) :
    (before.flatMap Visit.found).Nodup := by
  rw [List.nodup_flatMap]
  constructor
  · intro x hx
    obtain ⟨way, dir, listings, -, hdir, outcome⟩ :=
      exists_directory_of_mem_visits he (h.subset hx)
    obtain ⟨place, o⟩ := x
    cases o with
    | error t => simp [Visit.found]
    | ok names =>
      have differ := Entry.nodup_entries (Entry.isProper_of_at? he hdir).1
      have listed : names = sources (view d root c) place dir :=
        (listing_eq_ok.1 outcome.symm).2
      have nodup : names.Nodup := listed ▸ differ.sublist (List.filter_sublist.map Prod.fst)
      exact nodup.map fun n m h => by simpa using h
  · refine ((visits_ordered he).sublist h).imp fun {x y} before => ?_
    -- Files that are found in different directories lie at different places.
    intro q hx hy
    exact before.ne ((Visit.dropLast_of_mem_found hx).2.symm.trans
      (Visit.dropLast_of_mem_found hy).2)

end Found

/-- The files that a walk comes back with lie at eligible places, each at one of its own. -/
theorem files_of_discover {d : Disk} (hd : d.IsProper) {root : Path} {c : Config}
    {stop : StopSignal} {found : Outcome} (h : discover d root c stop = .ok found) :
    ∃ (e : Entry) (places : List (List Name)), openRoot d root = .ok e ∧ e.isProper = true ∧
      places.Nodup ∧ (∀ q ∈ places, Eligible d root c e q) ∧
      found.files = places.map (sourceFile root) := by
  rw [discover] at h
  cases opened : openRoot d root with
  | error f => simp [opened] at h
  | ok e =>
    have he : e.isProper = true := by
      obtain ⟨p, -, lies⟩ := (openRoot_eq_ok.1 opened).1
      exact (Entry.isProper_of_at? hd.names lies).1
    obtain ⟨before, first, hfound⟩ := run_found d root stop (walk d root c e) .start
    simp only [opened] at h
    split at h
    · cases h
    · cases h
      have places : (run d root stop (walk d root c e) .start).found =
          before.flatMap Visit.found := hfound
      have sorted : ((before.flatMap Visit.found).mergeSort (placeInOrder root)).map
          (sourceFile root) = ((before.flatMap Visit.found).map (sourceFile root)).mergeSort
            inOrder := List.map_mergeSort fun _ _ _ _ => rfl
      refine ⟨e, (before.flatMap Visit.found).mergeSort (placeInOrder root), rfl, he, ?_, ?_, ?_⟩
      · exact (List.mergeSort_perm _ _).nodup_iff.2 (nodup_found he first.sublist)
      · intro q hq
        obtain ⟨x, hx, hq⟩ := List.mem_flatMap.1 (List.mem_mergeSort.1 hq)
        exact eligible_of_mem_found he (first.subset hx) hq
      · rw [sorted, ← places]
        rfl

section Walk

variable {d : Disk} {root : Path} {c : Config} {e : Entry} (hd : d.IsProper)
  (hroot : Listable d root e)
include hd hroot

/-- The walk finds the eligible places. -/
theorem mem_places {q : List Name} : q ∈ places d root c e ↔ Eligible d root c e q := by
  have he := hroot.isProper hd
  have visited {way names : List Name} :
      (⟨way, .ok names⟩ : Visit) ∈ walk d root c e ↔
        Listed c e way ∧ ∃ dir, e.at? way = some dir ∧ names = sources (view d root c) way dir :=
    mem_visits_ok he hroot.rootListed
  rw [places, List.mem_mergeSort, List.mem_flatMap]
  constructor
  · rintro ⟨x, hx, found⟩
    exact eligible_of_mem_found he hx found
  · intro eligible
    obtain ⟨way, name, rfl, -⟩ := eligible.named
    obtain ⟨listed, source⟩ := eligible_snoc.1 eligible
    obtain ⟨x, hx⟩ := source.2.node
    obtain ⟨r, hr⟩ := Entry.directory_of_node?_append (by simp) hx
    obtain ⟨es, hdir⟩ := Entry.at?_directory.1 hr
    refine ⟨_, visited.2 ⟨listed, _, hdir, rfl⟩, ?_⟩
    simpa [Visit.found] using (mem_sources he hdir).2 source

/-- No place is found twice. -/
theorem nodup_places : (places d root c e).Nodup :=
  (List.mergeSort_perm _ _).nodup_iff.2 (nodup_found (hroot.isProper hd) (List.Sublist.refl _))

theorem mem_unread {q : List Name} {t : Trouble} :
    (q, t) ∈ unread d root c e ↔ Unlistable c e q t := by
  have failed : (⟨q, .error t⟩ : Visit) ∈ walk d root c e ↔ Unlistable c e q t :=
    mem_visits_error (hroot.isProper hd) hroot.rootListed
  rw [← failed, unread, Visit.mem_troubles]

/-- Directories that cannot be listed are met in the order of places. -/
theorem unread_ordered : (unread d root c e).Pairwise fun x y => Precedes x.1 y.1 := by
  refine (visits_ordered (hroot.isProper hd)).filterMap _ fun x y before => ?_
  obtain ⟨p, o⟩ := x
  obtain ⟨q, o'⟩ := y
  cases o <;> cases o' <;> simp_all [Visit.trouble?]

theorem walk_harmless : ∀ x ∈ walk d root c e, x.IsHarmless d root := by
  rintro ⟨q, outcome⟩ hx t rfl
  have failed := (mem_visits_error (hroot.isProper hd) hroot.rootListed).1 hx
  have notRoot := unlistable_ne_nil failed
  obtain ⟨way, name, r, -, -, -, node, trouble⟩ := failed
  rw [concernsRoot, decide_eq_false_iff_not]
  cases t with
  | known reason =>
    exact Path.absolute_foldl_join_ne hd.workingDirectory
      (isProper_of_node? (hroot.isProper hd) node) notRoot
  | unknown reason => exact hroot.elsewhere q r reason node trouble

/-- A walk from a root that can be listed has an outcome, whenever it is stopped. -/
theorem discover_eq (stop : StopSignal) : discover d root c stop =
    .ok ((run d root stop (walk d root c e) .start).outcome root) := by
  have fault : (run d root stop (walk d root c e) .start).fault = none := by
    rcases run_cases stop .start (walk_harmless hd hroot) with
      ⟨-, done⟩ | ⟨before, y, rest, -, -, -, -, done⟩
    · rw [done]
      rfl
    · rw [done]
      rfl
  rw [walk] at fault
  simp only [discover, hroot.opened, fault, walk]

/-- A place with the names of a file system is found when it is eligible. -/
theorem sourceFile_mem_iff (habs : Path.isAbsolute root = true) {q : List Name}
    (hq : ∀ n ∈ q, Path.IsProper n) :
    sourceFile root q ∈ (whole d root c e).files ↔ Eligible d root c e q := by
  rw [← mem_places hd hroot, whole, List.mem_map]
  constructor
  · rintro ⟨p, hp, same⟩
    have proper := ((mem_places hd hroot).1 hp).isProper (hroot.isProper hd)
    exact sourceFile_injective habs proper hq same ▸ hp
  · exact fun h => ⟨q, h, rfl⟩

/-- A walk that nothing stops finds the whole tree. -/
theorem discover_never : discover d root c .never = .ok (whole d root c e) := by
  have files : (places d root c e).map (sourceFile root) =
      (((walk d root c e).flatMap Visit.found).map (sourceFile root)).mergeSort inOrder :=
    List.map_mergeSort fun _ _ _ _ => rfl
  have done := run_complete (d := d) (p := .start) (walk_harmless (c := c) hd hroot)
    (StopSignal.never_silent _ _)
  rw [discover_eq hd hroot, done, whole, files, map_skipped_unread]
  simp [Progress.outcome, Progress.after, Progress.start]

theorem skipped_eq {q : List Name} {t : Trouble} (habs : Path.isAbsolute root = true)
    (h : Unlistable c e q t) : skipped root q t = ⟨.subtreeRead, troublePath q t,
      s!"Skipping unreadable directory {troublePath q t}: {t.reason}"⟩ := by
  have notRoot := unlistable_ne_nil h
  obtain ⟨way, name, r, -, -, -, node, -⟩ := h
  have proper := isProper_of_node? (hroot.isProper hd) node
  cases t <;> simp [skipped, troublePath, relativeText_eq habs proper notRoot]

end Walk

/-! ## Disks that differ in what one directory refuses -/

section Refusing

variable {d d' : Disk} {root : Path} {c : Config} {e e' : Entry} {place q : List Name}

theorem Reached.congr (same : ∀ way name below, q = way ++ name :: below → below ≠ [] →
    e.node? (way ++ [name]) = e'.node? (way ++ [name])) (h : Reached c e q) : Reached c e' q := by
  intro way name below split hne
  obtain ⟨kept, r, node, listed⟩ := h way name below split hne
  exact ⟨kept, r, same way name below split hne ▸ node, listed⟩

/-- The entries at a root differ where the disks do. -/
theorem agree_of_openRoot {above : List Name} (agree : Disk.AgreeExcept (above ++ place) d d')
    (dir : d.top.HasDirectory (above ++ place)) (dir' : d'.top.HasDirectory (above ++ place))
    (located : d.locate root = .ok above) (opened : openRoot d root = .ok e)
    (opened' : openRoot d' root = .ok e') : Entry.AgreeExcept place e e' := by
  obtain ⟨p, hp, found⟩ := (openRoot_eq_ok.1 opened).1
  obtain ⟨p', hp', found'⟩ := (openRoot_eq_ok.1 opened').1
  cases hp.symm.trans located
  cases (hp'.symm.trans (Disk.locate_eq_of_directories agree dir dir' root)).trans hp
  exact agree.top.below found found'

/-- What lies outside a directory is eligible whether or not the directory can be listed. -/
theorem Eligible.outside (agree : Entry.AgreeExcept place e e')
    (directories : ∀ path, d'.isDirectory path = d.isDirectory path) (outside : ¬ place <+: q)
    (h : Eligible d root c e q) : Eligible d' root c e' q := by
  have other {way below : List Name} (split : q = way ++ below) : way ≠ place := by
    rintro rfl
    exact outside ⟨below, split.symm⟩
  refine ⟨?_, h.reached.congr fun way name below split _ => ?_, h.named⟩
  · have node : e.node? q = e'.node? q := agree q (other (List.append_nil q).symm)
    have holds := h.holdsFile
    rw [HoldsFile, node] at holds
    rwa [HoldsFile, directories]
  · exact agree _ (other (by simpa using split))

end Refusing

/-- Discovery below a root that can be listed finds the eligible places, each once and in the order
of the paths that are reported, and warns once of each directory that it cannot list, in the order
of places. What a directory refuses changes nothing that lies outside it. -/
theorem discover_exact {d : Disk} (hd : d.IsProper) (path : Path) (c : Config) {e : Entry}
    (hroot : Listable d (d.absolute path) e) :
    ∃ found, discover d (d.absolute path) c .never = .ok found ∧
      (∃ places : List (List Name), places.Nodup ∧
        (∀ q, q ∈ places ↔ Eligible d (d.absolute path) c e q) ∧
        found.files = places.map (sourceFile (d.absolute path)) ∧
        found.files.map SourceFile.path = places.map placeText) ∧
      (found.files.map SourceFile.path).Pairwise (· ≤ ·) ∧
      (∃ unread : List (List Name × Trouble), (unread.Pairwise fun x y => Precedes x.1 y.1) ∧
        (∀ q t, (q, t) ∈ unread ↔ Unlistable c e q t) ∧
        found.warnings = unread.map fun x => ⟨.subtreeRead, troublePath x.1 x.2,
          s!"Skipping unreadable directory {troublePath x.1 x.2}: {x.2.reason}"⟩) ∧
      ∀ (d' : Disk) (e' : Entry) (above place : List Name) (found' : Outcome),
        d.locate (d.absolute path) = .ok above → Disk.AgreeExcept (above ++ place) d d' →
        d.top.HasDirectory (above ++ place) → d'.top.HasDirectory (above ++ place) →
        d'.IsProper → Listable d' (d.absolute path) e' →
        discover d' (d.absolute path) c .never = .ok found' →
        ∀ q, (∀ n ∈ q, properName n = true) → ¬ place <+: q →
          (sourceFile (d.absolute path) q ∈ found.files ↔
            sourceFile (d.absolute path) q ∈ found'.files) := by
  have habs := hd.isAbsolute path
  have he := hroot.isProper hd
  have eligible (q : List Name) : q ∈ places d (d.absolute path) c e ↔ _ := mem_places hd hroot
  refine ⟨_, discover_never hd hroot, ⟨places d (d.absolute path) c e, nodup_places hd hroot,
    eligible, rfl, ?_⟩, ?_, ⟨unread d (d.absolute path) c e, unread_ordered hd hroot,
    fun q t => mem_unread hd hroot, ?_⟩, ?_⟩
  · rw [whole, List.map_map, List.map_inj_left]
    intro q hq
    have h := (eligible q).1 hq
    exact sourceFile_path habs (h.isProper he) h.ne_nil
  · exact List.pairwise_map.2 ((files_inOrder _ _ _ _).imp path_le_of_inOrder)
  · rw [whole, List.map_inj_left]
    rintro ⟨q, t⟩ hx
    exact skipped_eq hd hroot habs ((mem_unread hd hroot).1 hx)
  · intro d' e' above place found' located agree dir dir' hd' hroot' done q proper outside
    have names : ∀ n ∈ q, Path.IsProper n := fun n hn => Path.isProper_iff.1 (proper n hn)
    cases (discover_never hd' hroot').symm.trans done
    have alike := Disk.isDirectory_eq_of_directories agree dir dir'
    have below := agree_of_openRoot agree dir dir' located hroot.opened hroot'.opened
    rw [sourceFile_mem_iff hd hroot habs names, sourceFile_mem_iff hd' hroot' habs names]
    exact ⟨.outside below alike outside,
      .outside below.symm (fun path => (alike path).symm) outside⟩

/-! ## A small tree -/

namespace Sample

def name (c : Char) : Name := [.char c, .char '.', .char 't', .char 's']

def root : Path := [Path.slash, .char 'r']

/-- A source file, a link to it, and a directory that cannot be listed. -/
def entry : Entry := .directory none
  [([.char 'd'], .directory (some ⟨.known "Permission denied", 0⟩) [(name 'a', .file [])]),
    (name 'b', .file []), (name 'l', .link (name 'b'))]

def disk : Disk where
  top := .directory none [([.char 'r'], entry)]
  workingDirectory := [Path.slash]

theorem disk_isProper : disk.IsProper := ⟨by decide +kernel, by decide +kernel⟩

theorem disk_listable : Listable disk (disk.absolute root) entry :=
  ⟨rfl, rfl, fun _ _ _ _ _ => by decide +kernel⟩

theorem eligible : Eligible disk (disk.absolute root) .standard entry [name 'b'] :=
  eligible_snoc.2 ⟨listed_nil _ _, by decide +kernel, .inl ⟨[], rfl⟩⟩

end Sample

theorem discover_exact_sample : ∃ found,
    discover Sample.disk (Sample.disk.absolute Sample.root) .standard .never = .ok found ∧
      sourceFile (Sample.disk.absolute Sample.root) [Sample.name 'b'] ∈ found.files := by
  obtain ⟨found, done, ⟨places, -, eligible, files, -⟩, -⟩ :=
    discover_exact Sample.disk_isProper Sample.root .standard Sample.disk_listable
  refine ⟨found, done, ?_⟩
  rw [files]
  exact List.mem_map_of_mem ((eligible _).2 Sample.eligible)

end Discovery

end ModuleAtlas
