import ModuleAtlas.Proofs.Discovery.Exactness
import Mathlib.Data.List.Perm.Subperm
import Mathlib.Data.List.Sort

/-!
# Configurations that admit more

A configuration that has more endings and passes over fewer directories enters every directory that
the other one enters, so it makes every place eligible that was, and meets every directory that
cannot be listed. Files are in the order of their paths and troubles in the order of places,
whatever was found; so what is found and met under the smaller configuration stands in the same
order among what is found and met under the larger one.

## Main definitions

* `Config.Within` — one configuration admits no more than another one.
-/
namespace ModuleAtlas

open Text

/-- One configuration admits no more than another one: it has no other endings, it passes over at
least the same directories, and it takes type declarations only if the other one does. -/
structure Config.Within (c c' : Config) : Prop where
  extensions : c.sourceExtensions.toList ⊆ c'.sourceExtensions.toList
  excluded : c'.excludedDirectoryNames.toList ⊆ c.excludedDirectoryNames.toList
  declarations : c.includeTypeDeclarationFiles = true → c'.includeTypeDeclarationFiles = true

namespace Config.Within

variable {c c' : Config} (h : c.Within c') {name : Name}
include h

theorem isSourceFile (source : c.isSourceFile name = true) : c'.isSourceFile name = true := by
  simp only [Config.isSourceFile, Bool.and_eq_true, Bool.or_eq_true, List.any_eq_true] at *
  obtain ⟨⟨s, known, ends⟩, declarations⟩ := source
  exact ⟨⟨s, h.extensions known, ends⟩, declarations.imp_left h.declarations⟩

theorem excludes (kept : c.excludes name = false) : c'.excludes name = false := by
  rw [Config.excludes, List.any_eq_false] at *
  exact fun s known => kept s (h.excluded known)

end Config.Within

namespace Discovery

variable {d : Disk} {root : Path} {c c' : Config} {e : Entry} {q : List Name}

/-! ## Single places -/

section Places

variable (h : c.Within c')
include h

theorem Entered.mono {way : List Name} {name : Name} (entered : Entered c e way name) :
    Entered c' e way name :=
  ⟨h.excludes entered.1, entered.2⟩

theorem Reached.mono (reached : Reached c e q) : Reached c' e q :=
  fun way name below split hne => (reached way name below split hne).mono h

theorem Eligible.mono (eligible : Eligible d root c e q) : Eligible d root c' e q := by
  obtain ⟨way, name, split, source⟩ := eligible.named
  exact ⟨eligible.holdsFile, eligible.reached.mono h, way, name, split, h.isSourceFile source⟩

theorem Unlistable.mono {t : Trouble} (unlistable : Unlistable c e q t) : Unlistable c' e q t := by
  obtain ⟨way, name, r, split, reached, kept, node, trouble⟩ := unlistable
  exact ⟨way, name, r, split, reached.mono h, h.excludes kept, node, trouble⟩

end Places

/-! ## Whole walks -/

instance : Std.Antisymm fun a b : SourceFile => inOrder a b = true := ⟨fun _ _ => inOrder_antisymm⟩

/-- No two places with a trouble stand before each other. -/
instance : Std.Antisymm fun x y : List Name × Trouble => Precedes x.1 y.1 :=
  ⟨fun _ _ before after => absurd after before.asymm⟩

section Walks

variable (hd : d.IsProper) (hroot : Listable d root e)
include hd hroot

theorem nodup_files (habs : Path.isAbsolute root = true) (c : Config) :
    (whole d root c e).files.Nodup := by
  have proper {q : List Name} (hq : q ∈ places d root c e) : ∀ n ∈ q, Path.IsProper n :=
    ((mem_places hd hroot).1 hq).isProper (hroot.isProper hd)
  exact (nodup_places hd hroot).map_on fun p hp q hq same =>
    sourceFile_injective habs (proper hp) (proper hq) same

theorem files_sublist (habs : Path.isAbsolute root = true) (h : c.Within c') :
    (whole d root c e).files.Sublist (whole d root c' e).files := by
  have subset : (whole d root c e).files ⊆ (whole d root c' e).files :=
    List.map_subset _ fun q hq => (mem_places hd hroot).2 (((mem_places hd hroot).1 hq).mono h)
  have subperm := (nodup_files hd hroot habs c).subperm subset
  exact List.sublist_of_subperm_of_pairwise subperm (files_inOrder ..) (files_inOrder ..)

theorem unread_sublist (h : c.Within c') : (unread d root c e).Sublist (unread d root c' e) := by
  have ordered (c : Config) : (unread d root c e).Pairwise fun x y => Precedes x.1 y.1 :=
    unread_ordered hd hroot
  have nodup : (unread d root c e).Nodup := (ordered c).imp fun before same =>
    before.ne (congrArg Prod.fst same)
  have subset : unread d root c e ⊆ unread d root c' e := fun ⟨q, t⟩ hx =>
    (mem_unread hd hroot).2 (((mem_unread hd hroot).1 hx).mono h)
  exact List.sublist_of_subperm_of_pairwise (nodup.subperm subset) (ordered c) (ordered c')

end Walks

/-- Below a root that can be listed, a configuration that admits no more than another one finds some
of the files that the other one finds, in the same order, and gives some of its warnings, in the
same order. -/
theorem discover_monotone {d : Disk} (hd : d.IsProper) (path : Path) {e : Entry}
    (hroot : Listable d (d.absolute path) e) {c c' : Config} (h : c.Within c') :
    ∃ found found', discover d (d.absolute path) c .never = .ok found ∧
      discover d (d.absolute path) c' .never = .ok found' ∧
      found.files.Sublist found'.files ∧
      (found.files.map SourceFile.path).Sublist (found'.files.map SourceFile.path) ∧
      found.warnings.Sublist found'.warnings := by
  have files := files_sublist hd hroot (hd.isAbsolute path) h
  have troubles := unread_sublist hd hroot h
  exact ⟨_, _, discover_never hd hroot, discover_never hd hroot, files, files.map _, troubles.map _⟩

/-- Passes over the directory of the small tree that cannot be listed. -/
def Sample.passingOver : Config := ⟨.ofList ["d"], .ofList [".ts"], false⟩

/-- Comes to that directory, and takes more files. -/
def Sample.passingNothing : Config := ⟨.ofList [], .ofList [".ts", ".js"], true⟩

theorem discover_monotone_sample : ∃ found found',
    discover Sample.disk (Sample.disk.absolute Sample.root) Sample.passingOver .never = .ok found ∧
      found.warnings = [] ∧
    discover Sample.disk (Sample.disk.absolute Sample.root) Sample.passingNothing .never =
      .ok found' ∧ found'.warnings ≠ [] ∧
    found.files.Sublist found'.files ∧ found.warnings.Sublist found'.warnings := by
  have within : Sample.passingOver.Within Sample.passingNothing :=
    ⟨by decide +kernel, by decide +kernel, by decide⟩
  obtain ⟨found, found', done, done', files, -, warnings⟩ :=
    discover_monotone Sample.disk_isProper Sample.root Sample.disk_listable within
  cases (discover_never Sample.disk_isProper Sample.disk_listable).symm.trans done
  cases (discover_never Sample.disk_isProper Sample.disk_listable).symm.trans done'
  refine ⟨_, _, done, by decide +kernel, done', by decide +kernel, files, warnings⟩

end Discovery

end ModuleAtlas
