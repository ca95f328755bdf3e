import ModuleAtlas.Proofs.Analysis.Accounting
import ModuleAtlas.Proofs.Discovery.Change
import ModuleAtlas.Proofs.Disk.Writing

/-!
# One file does not touch another

Two analyses of trees that differ in one file differ in what that file contributes: its record, its
edges and its warning. All else is the same and in the same order.

## Main definitions

* `AnalysisResult.SplitsAt` — what one file contributes to a result stands between what the files
  before it and those behind it do.
-/
namespace ModuleAtlas

/-- The files that discovery finds are some before a place, at most one at it, and some behind it. A
result holds their records, edges and warnings in that order, and before all warnings of files those
of the walk. -/
structure AnalysisResult.SplitsAt (result : AnalysisResult) (found : Discovery.Outcome)
    (before after : List Account) (own : Option Account) : Prop where
  sources : found.files =
    before.map Account.file ++ (own.map Account.file).toList ++ after.map Account.file
  files : result.files =
    before.map Account.record ++ (own.map Account.record).toList ++ after.map Account.record
  dependencies : result.dependencies = edgesOf (before.map Account.record) ++
    edgesOf (own.map Account.record).toList ++ edgesOf (after.map Account.record)
  warnings : result.warnings = found.warnings ++ before.filterMap Account.warning ++
    (own.bind Account.warning).toList ++ after.filterMap Account.warning
  summary : result.summary = ⟨result.files.length, result.dependencies.length⟩
  truncated : result.truncated = false

/-- Results that split alike behind the same warnings of a walk are the same. -/
theorem AnalysisResult.SplitsAt.unique {result result' : AnalysisResult}
    {found found' : Discovery.Outcome} {before after : List Account} {own : Option Account}
    (h : result.SplitsAt found before after own) (h' : result'.SplitsAt found' before after own)
    (same : found.warnings = found'.warnings) : result = result' := by
  have files := h.files.trans h'.files.symm
  have dependencies := h.dependencies.trans h'.dependencies.symm
  have summary : result.summary = result'.summary := by
    rw [h.summary, h'.summary, files, dependencies]
  have warnings : result.warnings = result'.warnings := by
    rw [h.warnings, h'.warnings, same]
  have truncated := h.truncated.trans h'.truncated.symm
  cases result
  cases result'
  simp_all

/-- The result of all files that are found splits wherever the files do. -/
theorem Analysis.splitsAt_resultOf (work : SourceFile → FileOutcome) {found : Discovery.Outcome}
    {before after : List SourceFile} {own : Option SourceFile}
    (files : found.files = before ++ own.toList ++ after) :
    (resultOf work found.files found.warnings false).SplitsAt found (before.map (.of work))
      (after.map (.of work)) (own.map (.of work)) := by
  have accounts : found.files.map (Account.of work) = before.map (Account.of work) ++
      (own.map (Account.of work)).toList ++ after.map (Account.of work) := by
    rw [files]
    cases own <;> simp
  rw [resultOf_eq_accounts, accounts]
  refine ⟨?_, ?_, ?_, ?_, rfl, rfl⟩
  · rw [← Account.map_file_of work found.files, accounts]
    cases own <;> simp
  · cases own <;> simp [AnalysisResult.ofParts]
  · cases own <;> simp [AnalysisResult.ofParts, edgesOf]
  · cases own with
    | none => simp [AnalysisResult.ofParts]
    | some f =>
      cases warning : (Account.of work f).warning <;>
        simp [AnalysisResult.ofParts, warning]

/-- The account of a file hangs on what is read of it alone. -/
theorem Account.of_congr {read read' : FileReader} (parse : SourceParser) {f : SourceFile}
    (h : read f.fullPath = read' f.fullPath) :
    Account.of (.ofFile read parse) f = .of (.ofFile read' parse) f := by
  rw [Account.of, Account.of, FileOutcome.ofFile, FileOutcome.ofFile, FileOutcome.textOf,
    FileOutcome.textOf, h]

open Discovery

section Change

variable {d d' : Disk} {root : Path} {c : Config} {e e' : Entry} {above place : List Name}
  (change : Disk.FileChange d d' root above place) (hroot : Listable d root e)
include change hroot

/-- The same is read of all other files, so they have the same accounts. -/
theorem map_account_others (habs : Path.isAbsolute root = true) (parse : SourceParser)
    {fs : List SourceFile} (h : ∀ f ∈ fs, f ∈ others d root c e place) :
    fs.map (.of (.ofFile d'.reader parse)) =
      fs.map (Account.of (.ofFile d.reader parse)) := by
  refine List.map_congr_left fun f hf => Account.of_congr parse ?_
  obtain ⟨q, hq, rfl⟩ := List.mem_map.1 (h f hf)
  obtain ⟨mem, other⟩ := List.mem_filter.1 hq
  have eligible := (mem_places change.proper hroot).1 mem
  have same := readFile_eq change hroot habs (bne_iff_ne.1 other) eligible
  rw [Disk.reader, Disk.reader, sourceFile, same]

/-- After the change, the whole result splits between the accounts that there were before. -/
theorem exists_own_after (hroot' : Listable d' root e') (habs : Path.isAbsolute root = true)
    (parse : SourceParser) :
    ∃ own, (Analysis.resultOf (.ofFile d'.reader parse) (whole d' root c e').files
        (whole d' root c e').warnings false).SplitsAt (whole d' root c e')
        ((filesBefore d root c e place).map (.of (.ofFile d.reader parse)))
        ((filesAfter d root c e place).map (.of (.ofFile d.reader parse))) own ∧
      (Eligible d' root c e' place →
        own = some (.of (.ofFile d'.reader parse) (sourceFile root place))) ∧
      (¬ Eligible d' root c e' place → own = none) := by
  obtain ⟨own, files, found, absent⟩ := exists_own change.proper' c hroot' place
  have split := Analysis.splitsAt_resultOf (.ofFile d'.reader parse) files
  have earlier := map_account_others change hroot habs parse
    fun f (hf : f ∈ filesBefore d root c e place) => List.mem_of_mem_filter hf
  have later := map_account_others change hroot habs parse
    fun f (hf : f ∈ filesAfter d root c e place) => List.mem_of_mem_filter hf
  rw [filesBefore, filesAfter, others_eq change hroot hroot' habs, ← filesBefore, ← filesAfter,
    earlier, later] at split
  refine ⟨_, split, fun h => ?_, fun h => ?_⟩
  · rw [found h, Option.map_some]
  · rw [absent h, Option.map_none]

end Change

/-- Writing one file, over another one or anew, changes what that file contributes to an analysis
and nothing else. The file stands at its place in the order of paths, if it is found at all; if it
is not found, the whole result stays the same. -/
theorem failure_isolated {d d' : Disk} (path : Path) (c : Config) {e : Entry}
    {above place : List Name} (change : Disk.FileChange d d' (d.absolute path) above place)
    (hroot : Listable d (d.absolute path) e) (parse : SourceParser) (env : Environment)
    (kept : Settings.Kept) {asked : Option Int} {n : Int}
    (hcount : (Analysis.workerCount env kept asked).1 = .ok n) :
    (∃ a, Analyzes d d.reader parse env kept ⟨path, c, asked, .never⟩ a) ∧
    (∃ a', Analyzes d' d'.reader parse env kept ⟨path, c, asked, .never⟩ a') ∧
    ∃ found found', discover d (d.absolute path) c .never = .ok found ∧
      discover d' (d'.absolute path) c .never = .ok found' ∧
      found'.warnings = found.warnings ∧ (∀ w ∈ found.warnings, w.kind = .subtreeRead) ∧
    ∀ a a', Analyzes d d.reader parse env kept ⟨path, c, asked, .never⟩ a →
      Analyzes d' d'.reader parse env kept ⟨path, c, asked, .never⟩ a' →
      (∃ before after own own',
        a.result.SplitsAt found before after own ∧ a'.result.SplitsAt found' before after own' ∧
        (∀ x ∈ before ++ after, Accounts d.reader parse x.file x.record x.warning) ∧
        (∀ x ∈ before, x.file.path ≤ placeText place) ∧
        (∀ x ∈ after, placeText place ≤ x.file.path) ∧
        (d.top.node? (above ++ place) = none → own = none) ∧
        (d.top.node? (above ++ place) ≠ none → Findable c e place → own =
          some (.of (.ofFile d.reader parse) (sourceFile (d.absolute path) place))) ∧
        (Findable c e place → own' =
          some (.of (.ofFile d'.reader parse) (sourceFile (d.absolute path) place)))) ∧
      (¬ Findable c e place → a'.result = a.result) := by
  have hd := change.proper
  have hd' := change.proper'
  have habs := hd.isAbsolute path
  have hpath : d'.absolute path = d.absolute path := by
    rw [Disk.absolute, Disk.absolute, change.agree.workingDirectory]
  obtain ⟨e', hroot'⟩ := exists_listable change hroot
  have hroot'' : Listable d' (d'.absolute path) e' := by rwa [hpath]
  have warnings : (whole d' (d'.absolute path) c e').warnings =
      (whole d (d.absolute path) c e).warnings := by
    rw [hpath, whole, whole, unread_eq change hroot hroot']
  refine ⟨exists_analyzes_never hd c hroot _ parse hcount,
    exists_analyzes_never hd' c hroot'' _ parse hcount, _, _, discover_never hd hroot,
    discover_never hd' hroot'', warnings, fun w => kind_of_mem_whole, fun a a' ha ha' => ?_⟩
  obtain ⟨own, files, found, absent⟩ := exists_own hd c hroot place
  have split := Analysis.splitsAt_resultOf (.ofFile d.reader parse) files
  obtain ⟨own', split', found', absent'⟩ :=
    exists_own_after (c := c) change hroot hroot' habs parse
  rw [← result_of_never hd hroot hcount ha] at split
  have result' := result_of_never hd' hroot'' hcount ha'
  rw [hpath] at result' warnings ⊢
  rw [← result'] at split'
  have name : (sourceFile (d.absolute path) place).path = placeText place :=
    sourceFile_path habs change.place_isProper (place_ne_nil change hroot)
  refine ⟨⟨_, _, _, own', split, split', ?_, ?_, ?_, fun free => ?_, fun there h => ?_,
    fun h => found' ((eligible_after change hroot hroot').2 h)⟩, fun h => ?_⟩
  · intro x hx
    rw [← List.map_append] at hx
    obtain ⟨f, -, rfl⟩ := List.mem_map.1 hx
    exact accounts_ofFile d.reader parse f
  · intro x hx
    obtain ⟨f, hf, rfl⟩ := List.mem_map.1 hx
    exact (path_le_of_mem_filesBefore hf).trans_eq name
  · intro x hx
    obtain ⟨f, hf, rfl⟩ := List.mem_map.1 hx
    exact name.symm.trans_le (path_le_of_mem_filesAfter hf)
  · rw [absent (not_eligible_before change hroot free), Option.map_none]
  · rw [found ((eligible_before change hroot there).2 h), Option.map_some]
  · have none : own = .none := absent fun eligible => h eligible.findable
    have none' : own' = .none := absent' fun eligible =>
      h ((eligible_after change hroot hroot').1 eligible)
    subst none none'
    exact split'.unique split warnings

/-! ## A file that is added to the small tree -/

namespace Discovery.Sample

/-- The place of a new file beside the others. -/
def newPlace : List Name := [[.char 'r'], name 'n']

def written : Disk := disk.update newPlace fun _ => some (.file [])

theorem link_eq {q : List Name} {target : Path}
    (h : disk.top.node? ([[.char 'r']] ++ q) = some (.link target)) : q = [name 'l'] := by
  rw [Entry.at?_link, Entry.at?_append] at h
  obtain ⟨e, root, inside⟩ := Option.bind_eq_some_iff.1 h
  cases root
  cases q with
  | nil => cases inside
  | cons n q =>
    simp only [Entry.at?_cons, entry, Entry.entries, Entry.lookup_cons] at inside
    split at inside
    · cases q with
      | nil => cases inside
      | cons m q =>
        simp only [Option.bind_some, Entry.at?_cons, Entry.entries, Entry.lookup_cons] at inside
        split at inside
        · cases (Entry.eq_of_at? rfl inside).2
        · cases inside
    · split at inside
      · cases (Entry.eq_of_at? rfl inside).2
      · split at inside
        · next same => rw [same, (Entry.eq_of_at? rfl inside).1]
        · cases inside

theorem link_clear : ¬ disk.ComesUpon (fullPath (disk.absolute root) [name 'l']) newPlace := by
  have way : (Path.join disk.workingDirectory
      (fullPath (disk.absolute root) [name 'l'])).components =
        [[], [.char 'r'], name 'l'] := by decide +kernel
  rw [Disk.ComesUpon, way]
  refine Disk.not_followsUpon_place (by decide) rfl ?_
  refine Disk.not_followsUpon_place (by decide) rfl ?_
  refine Disk.not_followsUpon_link (by decide) rfl ?_
  refine Disk.not_followsUpon_place (by decide) rfl ?_
  exact Disk.not_followsUpon_nil

theorem hasWay : disk.top.HasWay newPlace := by
  intro way below split hb
  match way, split with
  | [], _ => exact ⟨none, rfl⟩
  | [_], split =>
    cases split
    exact ⟨none, rfl⟩
  | [_, _], split =>
    cases split
    exact absurd rfl hb

theorem written_node : Disk.AgreeExcept newPlace disk written ∧
    written.top.node? newPlace = some (.file []) :=
  Disk.agreeExcept_update [] hasWay (.inl (by decide +kernel))

theorem change : Disk.FileChange disk written (disk.absolute root) [[.char 'r']] [name 'n'] where
  proper := disk_isProper
  proper' := ⟨by decide +kernel, by decide +kernel⟩
  agree := written_node.1
  located := rfl
  before := .inl (by decide +kernel)
  after := ⟨[], written_node.2⟩
  links q target h := by
    rw [link_eq h]
    exact link_clear

end Discovery.Sample

theorem failure_isolated_sample : ∃ a a',
    Analyzes Sample.disk Sample.disk.reader (fun _ _ => default) [] none
      ⟨Sample.root, .standard, some 2, .never⟩ a ∧
    Analyzes Sample.written Sample.written.reader (fun _ _ => default) [] none
      ⟨Sample.root, .standard, some 2, .never⟩ a' ∧
    ∃ found found' before after own,
      a.result.SplitsAt found before after none ∧
        a'.result.SplitsAt found' before after (some own) ∧
        own.file.path = placeText [Sample.name 'n'] := by
  have count : (Analysis.workerCount [] none (some 2)).1 = .ok 2 := rfl
  obtain ⟨⟨a, h⟩, ⟨a', h'⟩, found, found', -, -, -, -, all⟩ := failure_isolated Sample.root
    .standard Sample.change Sample.disk_listable (fun _ _ => default) [] none count
  obtain ⟨⟨before, after, own, own', split, split', -, -, -, free, -, there⟩, -⟩ := all a a' h h'
  have findable : Findable .standard Sample.entry [Sample.name 'n'] :=
    ⟨reached_snoc.2 (listed_nil _ _), [], Sample.name 'n', rfl, by decide +kernel⟩
  rw [free (by decide +kernel)] at split
  rw [there findable] at split'
  refine ⟨a, a', h, h', found, found', before, after, _, split, split', ?_⟩
  decide +kernel

end ModuleAtlas
