import ModuleAtlas.Proofs.Analysis.Accounting
import ModuleAtlas.Proofs.Text.Spelling

/-!
# Paths of different files

The paths of an analysis are places with their names spelled out. Two places have one path exactly
if they part at two names in one directory, of which one holds a stray byte and the other the
characters that spell it, and all their names are spelled alike. Where no two source files clash in
this way, no two files of an analysis have the same path; where some do, they have it.

## Main definitions

* `Discovery.Clash` — two places that part at names of which one spells out a stray byte of the
  other.
-/
namespace ModuleAtlas

open Text ModuleAtlas.Path

namespace Discovery

/-! ## Places with one path -/

/-- Places with one path have names that are spelled alike, one by one. -/
theorem map_text_eq_of_placeText {p q : List Name} (hp : ∀ n ∈ p, IsProper n) (hpne : p ≠ [])
    (hq : ∀ n ∈ q, IsProper n) (hqne : q ≠ []) (h : placeText p = placeText q) :
    p.map Glyph.text = q.map Glyph.text := by
  have split {ns : List Name} (hns : ∀ n ∈ ns, IsProper n) (hne : ns ≠ []) :
      (placeText ns).toList.splitOn '/' = ns.map Glyph.text := by
    have noSlash : ∀ t ∈ ns.map Glyph.text, '/' ∉ t := by
      intro t ht
      obtain ⟨n, hn, rfl⟩ := List.mem_map.1 ht
      exact fun mem => (hns n hn).noSlash (Glyph.slash_mem_text.1 mem)
    rw [placeText, toText, String.toList_ofList, text_ofComponents]
    exact List.splitOn_intercalate '/' noSlash (by simpa using hne)
  rw [← split hp hpne, ← split hq hqne, h]

/-- Different places with names that are spelled alike part at two such names in one directory. -/
theorem exists_parting {p q : List Name} (ne : p ≠ q) (h : p.map Glyph.text = q.map Glyph.text) :
    ∃ way n m below below', p = way ++ n :: below ∧ q = way ++ m :: below' ∧
      n ≠ m ∧ Glyph.text n = Glyph.text m ∧ below.map Glyph.text = below'.map Glyph.text := by
  induction p generalizing q with
  | nil => exact absurd (List.map_eq_nil_iff.1 h.symm).symm ne
  | cons n p ih =>
    cases q with
    | nil => cases h
    | cons m q =>
      obtain ⟨head, tail⟩ := List.cons.inj h
      by_cases same : n = m
      · subst same
        obtain ⟨way, k, l, below, below', rfl, rfl, parts⟩ := ih (fun same => ne (same ▸ rfl)) tail
        exact ⟨n :: way, k, l, below, below', rfl, rfl, parts⟩
      · exact ⟨[], n, m, p, q, rfl, rfl, same, head, tail⟩

/-- Two places part at names in one directory that are spelled alike, since the first holds a stray
byte that the second spells out. Behind these names they are spelled alike, too. -/
def Clash (p q : List Name) : Prop :=
  ∃ way n m below below' b, p = way ++ n :: below ∧ q = way ++ m :: below' ∧
    Glyph.text n = Glyph.text m ∧ .byte b ∈ n ∧ Glyph.SpellsOut m b ∧
    below.map Glyph.text = below'.map Glyph.text

theorem Clash.map_text_eq {p q : List Name} (h : Clash p q) :
    p.map Glyph.text = q.map Glyph.text := by
  obtain ⟨way, n, m, below, below', -, rfl, rfl, alike, -, -, behind⟩ := h
  simp [alike, behind]

/-- Places that are spelled alike have the same path. -/
theorem relativeText_eq_of_alike {root : Path} (hroot : isAbsolute root = true) {p q : List Name}
    (hp : ∀ n ∈ p, IsProper n) (hpne : p ≠ []) (hq : ∀ n ∈ q, IsProper n) (hqne : q ≠ [])
    (alike : p.map Glyph.text = q.map Glyph.text) : relativeText root p = relativeText root q := by
  rw [relativeText_eq hroot hp hpne, relativeText_eq hroot hq hqne, placeText, placeText, toText,
    toText, text_ofComponents, text_ofComponents, alike]

/-- Different places have the same path exactly if they clash. -/
theorem relativeText_eq_iff {root : Path} (hroot : isAbsolute root = true) {p q : List Name}
    (hp : ∀ n ∈ p, IsProper n) (hpne : p ≠ []) (hq : ∀ n ∈ q, IsProper n) (hqne : q ≠ []) :
    relativeText root p = relativeText root q ↔ p = q ∨ Clash p q ∨ Clash q p := by
  constructor
  · intro h
    rw [relativeText_eq hroot hp hpne, relativeText_eq hroot hq hqne] at h
    refine or_iff_not_imp_left.2 fun ne => ?_
    obtain ⟨way, n, m, below, below', hsplit, hsplit', other, alike, behind⟩ :=
      exists_parting ne (map_text_eq_of_placeText hp hpne hq hqne h)
    obtain ⟨b, ⟨mem, out⟩ | ⟨mem, out⟩⟩ := Glyph.spellsOut_of_ne other alike
    · exact .inl ⟨way, n, m, below, below', b, hsplit, hsplit', alike, mem, out, behind⟩
    · exact .inr ⟨way, m, n, below', below, b, hsplit', hsplit, alike.symm, mem, out, behind.symm⟩
  · rintro (rfl | clash | clash)
    · rfl
    · exact relativeText_eq_of_alike hroot hp hpne hq hqne clash.map_text_eq
    · exact relativeText_eq_of_alike hroot hp hpne hq hqne clash.map_text_eq.symm

/-- The files that a walk comes back with have different paths, if no two of their places clash. -/
theorem nodup_paths_of_discover {d : Disk} (hd : d.IsProper) {root : Path}
    (hroot : isAbsolute root = true) {c : Config} {stop : StopSignal} {found : Outcome}
    (apart : ∀ e p q, openRoot d root = .ok e → Eligible d root c e p → Eligible d root c e q →
      ¬ Clash p q) (h : discover d root c stop = .ok found) :
    (found.files.map SourceFile.path).Nodup := by
  obtain ⟨e, places, opened, he, nodup, eligible, files⟩ := files_of_discover hd h
  rw [files, List.map_map]
  refine nodup.map_on fun p hp q hq same => ?_
  have hp := eligible p hp
  have hq := eligible q hq
  rcases (relativeText_eq_iff hroot (hp.isProper he) hp.ne_nil (hq.isProper he) hq.ne_nil).1 same
    with same | clash | clash
  · exact same
  · exact absurd clash (apart e p q opened hp hq)
  · exact absurd clash (apart e q p opened hq hp)

end Discovery

theorem Analysis.paths_resultOf (read : FileReader) (parse : SourceParser)
    (files : List SourceFile) (subtree : List Warning) (truncated : Bool) :
    (resultOf (.ofFile read parse) files subtree truncated).files.map FileRecord.path =
      files.map SourceFile.path := by
  simp [resultOf, AnalysisResult.ofParts, FileOutcome.path_ofFile]

/-- Two files below a root have the same path exactly where their places clash. Where no source
files do so, no two files of an analysis have the same path, whatever stops it and whatever the
steps of the workers are. -/
theorem paths_unique {d : Disk} (hd : d.IsProper) (read : FileReader) (parse : SourceParser)
    (env : Environment) (kept : Settings.Kept) (r : AnalysisRequest) :
    (∀ p q : List Name, (∀ n ∈ p, properName n = true) → p ≠ [] →
      (∀ n ∈ q, properName n = true) → q ≠ [] →
      (Discovery.relativeText (d.absolute r.root) p =
        Discovery.relativeText (d.absolute r.root) q ↔
          p = q ∨ Discovery.Clash p q ∨ Discovery.Clash q p)) ∧
    ((∀ e p q, Discovery.openRoot d (d.absolute r.root) = .ok e →
        Discovery.Eligible d (d.absolute r.root) r.config e p →
        Discovery.Eligible d (d.absolute r.root) r.config e q → ¬ Discovery.Clash p q) →
      (∀ a, Analyzes d read parse env kept r a → (a.result.files.map FileRecord.path).Nodup) ∧
      ∀ a, (analyzeReading d read parse env kept r).1 = .ok a →
        (a.result.files.map FileRecord.path).Nodup) := by
  have habs := hd.isAbsolute r.root
  refine ⟨fun p q hp hpne hq hqne => ?_, fun apart => ?_⟩
  · exact Discovery.relativeText_eq_iff habs (fun n hn => isProper_iff.1 (hp n hn)) hpne
      (fun n hn => isProper_iff.1 (hq n hn)) hqne
  have unique {a : Analysis} (h : ∃ found files subtree truncated,
      discover d (d.absolute r.root) r.config r.stop = .ok found ∧
      List.Sublist files found.files ∧
      a.result = Analysis.resultOf (.ofFile read parse) files subtree truncated) :
      (a.result.files.map FileRecord.path).Nodup := by
    obtain ⟨found, files, subtree, truncated, hfound, sub, result⟩ := h
    rw [result, Analysis.paths_resultOf]
    exact (Discovery.nodup_paths_of_discover hd habs apart hfound).sublist (sub.map _)
  exact ⟨fun a h => unique (kept_of_analyzes h), fun a h => unique (kept_of_analyzeReading hd h)⟩

/-- The names of these files hold no stray bytes. -/
theorem Discovery.Sample.not_clash {p : List Name}
    (h : Eligible disk (disk.absolute root) .standard entry p) (q : List Name) : ¬ Clash p q := by
  have found : (walk disk (disk.absolute root) .standard entry).flatMap Visit.found =
      [[name 'b'], [name 'l']] := by decide +kernel
  have mem := List.mem_mergeSort.1 ((mem_places disk_isProper disk_listable).2 h)
  rw [found, List.mem_pair] at mem
  rintro ⟨way, n, -, below, -, b, rfl, -, -, stray, -⟩
  have noStray (c : Char) : Glyph.byte b ∉ name c := by simp [name]
  have inside : n ∈ way ++ n :: below := by simp
  rcases mem with same | same
  · rw [same, List.mem_singleton] at inside
    exact noStray 'b' (inside ▸ stray)
  · rw [same, List.mem_singleton] at inside
    exact noStray 'l' (inside ▸ stray)

/-- The condition is met where names hold no stray bytes. -/
theorem paths_unique_sample :
    (∀ e p q, Discovery.openRoot Discovery.Sample.disk
        (Discovery.Sample.disk.absolute Discovery.Sample.root) = .ok e →
      Discovery.Eligible Discovery.Sample.disk
        (Discovery.Sample.disk.absolute Discovery.Sample.root) .standard e p →
      Discovery.Eligible Discovery.Sample.disk
        (Discovery.Sample.disk.absolute Discovery.Sample.root) .standard e q →
      ¬ Discovery.Clash p q) ∧
    ∃ a, Analyzes Discovery.Sample.disk Discovery.Sample.disk.reader (fun _ _ => default) [] none
      ⟨Discovery.Sample.root, .standard, some 2, .never⟩ a ∧
      (a.result.files.map FileRecord.path).Nodup := by
  have hd := Discovery.Sample.disk_isProper
  have count : (Analysis.workerCount [] none (some 2)).1 = .ok 2 := rfl
  have apart : ∀ e p q, Discovery.openRoot Discovery.Sample.disk
      (Discovery.Sample.disk.absolute Discovery.Sample.root) = .ok e →
      Discovery.Eligible Discovery.Sample.disk
        (Discovery.Sample.disk.absolute Discovery.Sample.root) .standard e p →
      Discovery.Eligible Discovery.Sample.disk
        (Discovery.Sample.disk.absolute Discovery.Sample.root) .standard e q →
      ¬ Discovery.Clash p q := by
    intro e p q opened hp _
    cases Discovery.Sample.disk_listable.opened.symm.trans opened
    exact Discovery.Sample.not_clash hp q
  obtain ⟨a, h⟩ := exists_analyzes_never hd .standard Discovery.Sample.disk_listable
    Discovery.Sample.disk.reader (fun _ _ => default) count
  exact ⟨apart, a, h, (paths_unique hd _ _ [] none
    ⟨Discovery.Sample.root, .standard, some 2, .never⟩).2 apart |>.1 a h⟩

/-! ## Names that are spelled alike -/

namespace Discovery

/-- Of files at different places that are spelled alike, all are found, with one path. -/
theorem not_nodup_paths_of_alike {d : Disk} (hd : d.IsProper) {root : Path}
    (habs : isAbsolute root = true) {c : Config} {e : Entry} (hroot : Listable d root e)
    {p q : List Name} (hp : Eligible d root c e p) (hq : Eligible d root c e q) (ne : p ≠ q)
    (alike : p.map Glyph.text = q.map Glyph.text) :
    ¬ ((whole d root c e).files.map SourceFile.path).Nodup := by
  have he := hroot.isProper hd
  intro nodup
  rw [whole, List.map_map] at nodup
  have same : relativeText root p = relativeText root q :=
    relativeText_eq_of_alike habs (hp.isProper he) hp.ne_nil (hq.isProper he) hq.ne_nil alike
  exact ne (List.inj_on_of_nodup_map nodup ((mem_places hd hroot).2 hp)
    ((mem_places hd hroot).2 hq) same)

namespace Alike

/-- A name of a byte that is no character and an ending. -/
def stray : Name := Glyph.ofBytes [0xFF, 0x2E, 0x74, 0x73]

/-- A name of the characters that spell that byte and the same ending. -/
def literal : Name := Glyph.ofBytes [0x5C, 0x78, 0x66, 0x66, 0x2E, 0x74, 0x73]

def entry : Entry := .directory none [(stray, .file []), (literal, .file [])]

def disk : Disk where
  top := .directory none [([.char 'r'], entry)]
  workingDirectory := [Path.slash]

theorem disk_isProper : disk.IsProper := ⟨by decide, by decide⟩

theorem disk_listable : Listable disk (disk.absolute Sample.root) entry :=
  ⟨rfl, rfl, fun _ _ _ _ _ => by decide⟩

theorem stray_eligible : Eligible disk (disk.absolute Sample.root) .standard entry [stray] :=
  eligible_snoc.2 ⟨listed_nil _ _, by decide, .inl ⟨[], rfl⟩⟩

theorem literal_eligible : Eligible disk (disk.absolute Sample.root) .standard entry [literal] :=
  eligible_snoc.2 ⟨listed_nil _ _, by decide, .inl ⟨[], by decide⟩⟩

end Alike

end Discovery

/-- Two files in one directory have the same path, though their names are different bytes. -/
theorem paths_not_unique : Discovery.Alike.disk.IsProper ∧
    ∃ a, Analyzes Discovery.Alike.disk Discovery.Alike.disk.reader (fun _ _ => default) [] none
      ⟨Discovery.Sample.root, .standard, some 1, .never⟩ a ∧
      ¬ (a.result.files.map FileRecord.path).Nodup := by
  have count : (Analysis.workerCount [] none (some 1)).1 = .ok 1 := rfl
  have hd := Discovery.Alike.disk_isProper
  obtain ⟨a, h⟩ := exists_analyzes_never hd .standard Discovery.Alike.disk_listable
    Discovery.Alike.disk.reader (fun _ _ => default) count
  refine ⟨hd, a, h, ?_⟩
  rw [result_of_never hd Discovery.Alike.disk_listable count h, Analysis.paths_resultOf]
  exact Discovery.not_nodup_paths_of_alike hd (hd.isAbsolute _) Discovery.Alike.disk_listable
    Discovery.Alike.stray_eligible Discovery.Alike.literal_eligible (by decide +kernel)
    (by decide +kernel)

end ModuleAtlas
