import ModuleAtlas.Proofs.Disk.Relative
import ModuleAtlas.Proofs.Discovery.Exactness
import ModuleAtlas.Proofs.Text.Spelling
import ModuleAtlas.Proofs.Text.WellFormed

/-!
# Relative paths in reports

A report names a file by the way to it from the root. Where all bytes are those of a text, nothing
is lost in this: joined to the root again, the way comes to the file, and it is a path that a record
may have exactly if the file lies within the root.
-/
namespace ModuleAtlas

open Text ModuleAtlas.Path
open Glyph (IsText)

/-! ## Paths without stray bytes -/

namespace Text.Glyph

/-- The bytes of a text are read as that text. -/
theorem ofBytes_encode (cs : List Char) :
    ofBytes (cs.flatMap String.utf8EncodeChar) = ofText cs := by
  have enough (fuel : Nat) (h : cs.length ≤ fuel) :
      ofBytes.go fuel (cs.flatMap String.utf8EncodeChar) = ofText cs := by
    induction cs generalizing fuel with
    | nil => cases fuel <;> rfl
    | cons c cs ih =>
      obtain ⟨fuel, rfl⟩ : ∃ k, fuel = k + 1 := Nat.exists_eq_add_one.2 (by simp at h; omega)
      obtain ⟨b, bs, bytes, read⟩ :=
        Utf8.next_encodeChar c (cs.flatMap String.utf8EncodeChar)
      have first : Utf8.character? (b :: bs) = some (c, cs.flatMap String.utf8EncodeChar) := by
        rw [Utf8.character?, read]
        rfl
      rw [List.flatMap_cons, bytes, ofBytes.go, first]
      exact congrArg (char c :: ·) (ih fuel (by simpa using h))
  exact enough _ (Utf8.length_le_encode cs)

theorem isText_ofBytes {bs : List UInt8} (h : Utf8.WellFormed bs) : IsText (ofBytes bs) := by
  obtain ⟨cs, rfl⟩ := h
  rw [ofBytes_encode]
  exact isText_ofText cs

end Text.Glyph

namespace Path

variable {p : Path} {cs : List Path}

theorem ofText_toText (h : IsText p) : ofText (toText p) = p := by
  unfold ofText toText
  rw [String.toList_ofList, Glyph.ofText_text h]

theorem isText_ofComponents (h : ∀ c ∈ cs, IsText c) : IsText (ofComponents cs) := by
  induction cs with
  | nil => exact fun g hg => absurd hg (by simp [ofComponents])
  | cons c cs ih =>
    obtain ⟨hc, hcs⟩ := List.forall_mem_cons.1 h
    by_cases rest : cs = []
    · simpa [rest, ofComponents] using hc
    · rw [ofComponents_cons c rest]
      intro g hg
      rcases List.mem_append.1 hg with hg | hg
      · exact hc g hg
      · rcases List.mem_cons.1 hg with rfl | hg
        · exact ⟨'/', rfl⟩
        · exact ih hcs g hg

theorem mem_ofComponents {c : Path} (hc : c ∈ cs) {g : Glyph} (hg : g ∈ c) :
    g ∈ ofComponents cs := by
  induction cs with
  | nil => simp at hc
  | cons x cs ih =>
    by_cases rest : cs = []
    · obtain rfl := List.mem_singleton.1 (rest ▸ hc)
      simpa [rest, ofComponents] using hg
    · rw [ofComponents_cons x rest]
      rcases List.mem_cons.1 hc with rfl | hc
      · exact List.mem_append_left _ hg
      · exact List.mem_append_right _ (List.mem_cons_of_mem _ (ih hc))

theorem isText_of_mem_components (h : IsText p) : ∀ c ∈ components p, IsText c := by
  intro c hc g hg
  have whole : ofComponents (components p) = p := List.intercalate_splitOn slash
  exact h g (whole ▸ mem_ofComponents hc hg)

theorem isText_essential (h : IsText p) : ∀ c ∈ p.essential, IsText c := by
  intro c hc
  rcases mem_foldl_climb (List.mem_reverse.1 hc) with hc | ⟨hc, -⟩
  · simp at hc
  · exact isText_of_mem_components h c hc

theorem isText_steps (root : Path) (h : IsText p) : ∀ c ∈ steps root p, IsText c := by
  intro c hc
  rcases of_mem_steps hc with rfl | rfl | hc
  · exact Glyph.isText_ofText ['.']
  · exact Glyph.isText_ofText ['.', '.']
  · exact isText_essential h c hc

/-- An absolute path that does not begin with exactly two slashes begins with one, once it is
shortened. -/
theorem leadingSlashes_eq_one (hp : isAbsolute p = true) (h : p.leadingSlashes ≠ 2) :
    p.leadingSlashes = 1 := by
  have := leadingSlashes_ne_zero_iff.2 hp
  have := leadingSlashes_cases p
  omega

end Path

/-! ## Texts of relative paths -/

theorem FileRecord.exists_make_iff {path : String} (imports : List ImportRecord)
    (exports : List ExportRecord) :
    (∃ record, make path imports exports = .ok record) ↔ pathFault? path = none := by
  rw [make_eq]
  unfold checkPath
  cases pathFault? path with
  | none => exact ⟨fun _ => rfl, fun _ => ⟨_, rfl⟩⟩
  | some fault =>
    constructor
    · rintro ⟨record, ⟨⟩⟩
    · nofun

section Given

variable (w : Path) {root path : String} (hroot : isAbsolute (.ofText root) = true)
  (hpath : isAbsolute (.ofText path) = true)
include hroot hpath

theorem head?_relative :
    (relative w (.ofText root) (.ofText path)).toText.toList.head? ≠ some '/' := by
  rw [relative_eq hroot hpath]
  exact head?_toText fun _ => isSegment_of_mem_steps

theorem ofText_relative :
    Path.ofText (relative w (.ofText root) (.ofText path)).toText =
      relative w (.ofText root) (.ofText path) := by
  rw [relative_eq hroot hpath]
  exact ofText_toText (isText_ofComponents (isText_steps _ (Glyph.isText_ofText path.toList)))

theorem exists_record_iff (slashes : leadingSlashes (.ofText root) = leadingSlashes (.ofText path))
    (imports : List ImportRecord) (exports : List ExportRecord) :
    (∃ record, FileRecord.make (relative w (.ofText root) (.ofText path)).toText imports exports =
      .ok record) ↔ LiesWithin (Path.normalize (.ofText root)) (Path.normalize (.ofText path)) := by
  rw [FileRecord.exists_make_iff, relative_eq hroot hpath,
    pathFault?_toText (steps_ne_nil _ _) (fun _ => isSegment_of_mem_steps),
    parent_mem_steps hpath, not_not, liesWithin_normalize hroot hpath slashes]

end Given

namespace Discovery

/-- The names of a place below a root can be read off the text of its relative path. -/
theorem components_relativeText {root : Path} (hroot : isAbsolute root = true) {q : List Name}
    (hq : ∀ n ∈ q, IsProper n) (hne : q ≠ []) (texts : ∀ n ∈ q, IsText n) :
    (Path.ofText (relativeText root q)).components = q := by
  rw [relativeText_eq hroot hq hne, placeText, ofText_toText (isText_ofComponents texts)]
  exact components_ofComponents (fun n hn => (hq n hn).noSlash) hne

theorem foldl_join_relativeText {root : Path} (hroot : isAbsolute root = true) {q : List Name}
    (hq : ∀ n ∈ q, IsProper n) (hne : q ≠ []) (texts : ∀ n ∈ q, IsText n) :
    (Path.ofText (relativeText root q)).components.foldl join root = fullPath root q := by
  rw [components_relativeText hroot hq hne texts]
  rfl

end Discovery

/-- A file without a full path is opened by the components of its path. -/
theorem SourceFile.located_none (root : Path) (path : String) : located root path none =
    located root path (some ((Path.ofText path).components.foldl join root)) := rfl

open Discovery in
/-- The way from a root to a path, both absolute and not behind exactly two slashes, comes to that
path when it is joined to the root. It is never absolute, and a record may have it exactly if the
path lies within the root. A file that is found and whose names are UTF-8 is found again by the
components of its relative path, so its analysis is the same with and without its full path. -/
theorem relative_paths_faithful :
    (∀ (w : Path) (root path : String), isAbsolute (.ofText root) = true →
      isAbsolute (.ofText path) = true → leadingSlashes (.ofText root) ≠ 2 →
      leadingSlashes (.ofText path) ≠ 2 →
      let r := (relative w (.ofText root) (.ofText path)).toText
      Path.normalize (join (.ofText root) (.ofText r)) = Path.normalize (.ofText path) ∧
      r.toList.head? ≠ some '/' ∧
      ∀ imports exports, (∃ record, FileRecord.make r imports exports = .ok record) ↔
        LiesWithin (Path.normalize (.ofText root)) (Path.normalize (.ofText path))) ∧
    ∀ (d : Disk) (p : Path) (c : Config) (stop : StopSignal) (found : Outcome), d.IsProper →
      discover d (d.absolute p) c stop = .ok found → ∀ f ∈ found.files, ∃ q,
        (∀ n ∈ q, properName n = true) ∧ f.fullPath = fullPath (d.absolute p) q ∧
        f.path = (relative (d.absolute p) (d.absolute p) f.fullPath).toText ∧
        ((∀ n ∈ q, ∃ bs, Utf8.WellFormed bs ∧ n = Glyph.ofBytes bs) →
          (Path.ofText f.path).components.foldl join (d.absolute p) = f.fullPath ∧
          ∀ read parse, analyzeFileRead read parse (.located (d.absolute p) f.path none) =
            analyzeFileRead read parse (.located (d.absolute p) f.path (some f.fullPath))) := by
  constructor
  · intro w root path hroot hpath notTwo notTwo' r
    have slashes : leadingSlashes (.ofText root) = leadingSlashes (.ofText path) :=
      (leadingSlashes_eq_one hroot notTwo).trans (leadingSlashes_eq_one hpath notTwo').symm
    refine ⟨?_, head?_relative w hroot hpath, exists_record_iff w hroot hpath slashes⟩
    rw [ofText_relative w hroot hpath]
    exact normalize_join_relative hroot hpath slashes
  · intro d p c stop found hd done f hf
    have hroot := hd.isAbsolute p
    obtain ⟨e, places, -, he, -, eligible, files⟩ := files_of_discover hd done
    obtain ⟨q, hq, rfl⟩ := List.mem_map.1 (files ▸ hf)
    have proper := (eligible q hq).isProper he
    refine ⟨q, fun n hn => isProper_iff.2 (proper n hn), rfl, rfl, fun texts => ?_⟩
    have spelled : ∀ n ∈ q, IsText n := by
      intro n hn
      obtain ⟨bs, formed, rfl⟩ := texts n hn
      exact Glyph.isText_ofBytes formed
    have again : (Path.ofText (sourceFile (d.absolute p) q).path).components.foldl join
        (d.absolute p) = (sourceFile (d.absolute p) q).fullPath :=
      foldl_join_relativeText hroot proper (eligible q hq).ne_nil spelled
    exact ⟨again, fun read parse => by rw [SourceFile.located_none, again]⟩

open Discovery in
theorem relative_paths_faithful_sample :
    Path.normalize (join (.ofText "/") (.ofText "a/b")) = .ofText "/a/b" ∧
    (∃ record, FileRecord.make "a/b" [] [] = .ok record) ∧
    ∃ found, discover Sample.disk (Sample.disk.absolute Sample.root) .standard .never = .ok found ∧
      ∃ f ∈ found.files, (Path.ofText f.path).components.foldl join
        (Sample.disk.absolute Sample.root) = f.fullPath := by
  have hd := Sample.disk_isProper
  have hroot := Sample.disk_listable
  have way : (relative [] (.ofText "/") (.ofText "/../a/./b")).toText = "a/b" := by decide +kernel
  have short : Path.normalize (.ofText "/../a/./b") = .ofText "/a/b" := by decide +kernel
  have within : LiesWithin (Path.normalize (.ofText "/")) (Path.normalize (.ofText "/../a/./b")) :=
    .inr ⟨Path.ofText "a/b", by decide, by decide, by decide +kernel⟩
  obtain ⟨comes, -, record⟩ := relative_paths_faithful.1 [] "/" "/../a/./b" (by decide) (by decide)
    (by decide) (by decide)
  rw [way] at comes record
  have file : sourceFile (Sample.disk.absolute Sample.root) [Sample.name 'b'] ∈
      (whole Sample.disk (Sample.disk.absolute Sample.root) .standard Sample.entry).files := by
    exact List.mem_map_of_mem ((mem_places hd hroot).2 Sample.eligible)
  obtain ⟨q, proper, full, -, again⟩ := relative_paths_faithful.2 Sample.disk Sample.root .standard
    .never _ hd (discover_never hd hroot) _ file
  have same : [Sample.name 'b'] = q := foldl_join_injective (hd.isAbsolute Sample.root)
    (Sample.eligible.isProper (hroot.isProper hd)) (fun n hn => isProper_iff.1 (proper n hn)) full
  subst same
  have texts : ∀ n ∈ [Sample.name 'b'], ∃ bs, Utf8.WellFormed bs ∧ n = Glyph.ofBytes bs := by
    intro n hn
    obtain rfl := List.mem_singleton.1 hn
    exact ⟨[0x62, 0x2E, 0x74, 0x73], ⟨"b.ts".toList, by decide +kernel⟩, by decide +kernel⟩
  exact ⟨comes.trans short, (record [] []).2 within, _, discover_never hd hroot, _, file,
    (again texts).1⟩

end ModuleAtlas
