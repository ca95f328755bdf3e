import ModuleAtlas.Proofs.Config.Extensions
import ModuleAtlas.Proofs.Text.Storage
import Mathlib.Data.List.Sort
import Mathlib.Data.List.TakeWhile
import Mathlib.Data.String.Basic

/-!
# Endings in normal form

An ending that is read is trimmed, put into lower case and given a dot. None of the three undoes
another one: no blank is the lower-case form of something else, and neither lower case nor a dot
brings a blank to an end. So what comes of an ending stays as it is when it is read again, and a
configuration that is saved is loaded as the same one, in whatever order the members of its sets are
written.

## Main definitions

* `Config.IsNormal` — an ending that begins with a dot, has no blanks around it and is in lower
  case.
-/
namespace ModuleAtlas

open Schema Checked Text

open Json.Printer (Layout)

namespace Text

/-! ## Trimmed texts -/

variable {test : Char → Bool} {s : List Char}

theorem dropWhile_eq_self (first : ∀ c ∈ s.head?, test c = false) : s.dropWhile test = s := by
  rw [List.dropWhile_eq_self_iff]
  intro nonempty
  simp [first s[0] (by rw [List.head?_eq_getElem?, List.getElem?_eq_getElem nonempty]; rfl)]

theorem trimBy_eq_self (first : ∀ c ∈ s.head?, test c = false)
    (last : ∀ c ∈ s.getLast?, test c = false) : trimBy test s = s := by
  have last' : ∀ c ∈ s.reverse.head?, test c = false := by rwa [List.head?_reverse]
  rw [trimBy, dropWhile_eq_self first, dropWhile_eq_self last', List.reverse_reverse]

theorem getLast?_trimBy {c : Char} (h : c ∈ (trimBy test s).getLast?) : test c = false := by
  rw [trimBy, List.getLast?_reverse] at h
  have stop := List.head?_dropWhile_not test (s.dropWhile test).reverse
  rw [Option.mem_def.1 h] at stop
  exact stop

/-! ## Blanks and lower case -/

/-- Nothing but a blank becomes a blank. -/
theorem blank_of_mem_lowerAt {before after : List Char} {c x : Char}
    (h : x ∈ lowerAt before after c) (blank : isBlank x = true) : isBlank c = true := by
  have noBlank : irregular.any isBlank = false := by decide
  rcases mem_lowerAt h with form | ⟨-, -, rfl⟩
  · exact absurd blank (List.any_eq_false.1 noBlank x form)
  · have unmade : inRanges unmadeRanges (lowerChar c) = true := by
      rw [isBlank_eq] at blank
      rw [unmadeRanges, inRanges, List.any_append, Bool.or_eq_true]
      exact .inl blank
    rwa [eq_of_lowerChar_unmade unmade] at blank

theorem getLast?_lowerBehind (last : ∀ c ∈ s.getLast?, isBlank c = false) (before : List Char) :
    ∀ x ∈ (lowerBehind before s).getLast?, isBlank x = false := by
  induction s generalizing before with
  | nil => simp [lowerBehind]
  | cons c s ih =>
    intro x hx
    cases s with
    | nil =>
      rw [lowerBehind, lowerBehind, List.append_nil] at hx
      by_contra blank
      have made := blank_of_mem_lowerAt (List.mem_of_mem_getLast? hx) (by simpa using blank)
      simp [last c rfl] at made
    | cons c' s =>
      have letters : lowerBehind (c :: before) (c' :: s) ≠ [] :=
        List.append_ne_nil_of_left_ne_nil (lowerAt_ne_nil _ _ _) _
      rw [lowerBehind, List.getLast?_append_of_ne_nil _ letters] at hx
      exact ih (by simpa using last) _ x hx

end Text

/-! ## Sets -/

namespace NameSet

/-- Sets with the same members are the same. -/
theorem eq_of_mem_iff {s t : NameSet} (h : ∀ a, a ∈ s.toList ↔ a ∈ t.toList) : s = t := by
  obtain ⟨as, ascending⟩ := s
  obtain ⟨bs, ascending'⟩ := t
  cases ascending.eq_of_mem_iff ascending' h
  rfl

theorem ofList_eq {xs : List String} {s : NameSet} (h : ∀ a, a ∈ xs ↔ a ∈ s.toList) :
    ofList xs = s :=
  eq_of_mem_iff fun a => mem_ofList.trans (h a)

end NameSet

namespace Config

/-! ## Single endings -/

/-- An ending that begins with a dot, has no blanks around it and is in lower case. -/
structure IsNormal (m : String) : Prop where
  dotted : m.toList.head? = some '.'
  trimmed : trim m.toList = m.toList
  lowered : lower m.toList = m.toList

theorem IsNormal.normalizeExtension? {m : String} (h : IsNormal m) :
    normalizeExtension? m = some m := by
  obtain ⟨s, split⟩ := List.head?_eq_some_iff.1 h.dotted
  rw [normalizeExtension?_eq, h.trimmed, h.lowered, if_neg (by simp [split]), split]
  have dotted : withDot ('.' :: s) = '.' :: s := rfl
  rw [dotted, ← split, String.ofList_toList]

/-- What is made of an ending is normal. -/
theorem isNormal_of_normalizeExtension? {e m : String} (h : normalizeExtension? e = some m) :
    IsNormal m := by
  rw [normalizeExtension?_eq] at h
  split at h
  · cases h
  · next letters =>
    cases h
    have last : ∀ x ∈ (lower (trim e.toList)).getLast?, isBlank x = false :=
      getLast?_lowerBehind (fun c hc => getLast?_trimBy hc) []
    have head : (withDot (lower (trim e.toList))).head? = some '.' := by
      rcases withDot_cases (lower (trim e.toList)) with ⟨rest, split, same⟩ | ⟨-, dotted⟩
      · rw [same, split]
        rfl
      · rw [dotted]
        rfl
    have last' : ∀ x ∈ (withDot (lower (trim e.toList))).getLast?, isBlank x = false := by
      rcases withDot_cases (lower (trim e.toList)) with ⟨rest, -, same⟩ | ⟨-, dotted⟩
      · rwa [same]
      · rw [dotted, ← List.singleton_append, List.getLast?_append_of_ne_nil _ letters]
        exact last
    refine ⟨?_, ?_, ?_⟩ <;> rw [String.toList_ofList]
    · exact head
    · refine trimBy_eq_self (fun c hc => ?_) last'
      cases hc.symm.trans head
      decide
    · rw [lower_withDot, lower_lower]

theorem isNormal_of_mem_normalizeExtensions {es : List String} {m : String}
    (h : m ∈ (normalizeExtensions es).toList) : IsNormal m := by
  obtain ⟨e, -, made⟩ := List.mem_filterMap.1 (NameSet.mem_ofList.1 h)
  exact isNormal_of_normalizeExtension? made

/-- Endings that are normal already stay as they are. -/
theorem normalizeExtensions_eq {es : List String} {s : NameSet}
    (normal : ∀ m ∈ s.toList, IsNormal m) (h : ∀ a, a ∈ es ↔ a ∈ s.toList) :
    normalizeExtensions es = s := by
  refine NameSet.ofList_eq fun a => ?_
  rw [← h, List.mem_filterMap]
  constructor
  · rintro ⟨e, known, made⟩
    rw [(normal e ((h e).1 known)).normalizeExtension?] at made
    cases made
    exact known
  · exact fun known => ⟨a, known, (normal a ((h a).1 known)).normalizeExtension?⟩

/-! ## Whole configurations -/

theorem exists_of_read {v : Json} {c : Config} (h : read v = ok c) :
    ∃ excluded extensions declarations, c = ofMembers excluded extensions declarations := by
  obtain ⟨ms, -, h⟩ := readObject_eq_ok.1 h
  simp only [seq_eq_ok, map_eq_ok] at h
  obtain ⟨_, declarations, ⟨_, extensions, ⟨excluded, -, rfl⟩, -, rfl⟩, -, rfl⟩ := h
  exact ⟨excluded, extensions, declarations, rfl⟩

theorem exists_of_readText {text : String} {c : Config} (h : readText read text = ok c) :
    ∃ excluded extensions declarations, c = ofMembers excluded extensions declarations := by
  rw [readText] at h
  cases parsed : Json.parse? text with
  | none => simp [parsed, fail] at h
  | some v => exact exists_of_read (by simpa [parsed] using h)

/-- A configuration is loaded from a file that holds a text of it, however its lines end. -/
theorem load_of_readText {d : Disk} {path : Path} {saved : String} {c : Config} (e : LineEnd)
    (noReturn : '\r' ∉ saved.toList) (done : readText read saved = ok c)
    (stored : d.readFile path = .ok ((⟨false, e⟩ : Storage).bytes saved.toList)) :
    load d path = .ok c := by
  have named : path ≠ [] := by
    rintro rfl
    cases stored
  have bytes : (⟨false, e⟩ : Storage).bytes saved.toList =
      (String.ofList (e.write saved.toList)).toUTF8.toList := by
    rw [Utf8.toList_toUTF8, String.toList_ofList]
    rfl
  rw [load, if_neg named, stored, bytes]
  simp only [Utf8.decode_toUTF8, String.toList_ofList, Utf8.unifyLines_write e noReturn,
    String.ofList_toList, done]

/-- Endings that are read from a text begin with a dot, have no blanks around them and are in lower
case, and normalizing them again changes nothing. A configuration whose members are written in any
order and any number of times is read as the same configuration, from any text of what is written
and from any file that it is saved in. What the printer writes is such a text, however it is laid
out. -/
theorem normalization_survives_saving {text : String} {c : Config}
    (h : readText read text = ok c) :
    (∀ m ∈ c.sourceExtensions.toList, m.toList.head? = some '.' ∧
      trim m.toList = m.toList ∧ lower m.toList = m.toList) ∧
    normalizeExtensions c.sourceExtensions.toList = c.sourceExtensions ∧
    ∀ excluded extensions : List String,
      (∀ x, x ∈ excluded ↔ x ∈ c.excludedDirectoryNames.toList) →
      (∀ x, x ∈ extensions ↔ x ∈ c.sourceExtensions.toList) →
      let value := written excluded extensions c.includeTypeDeclarationFiles
      (∀ l : Layout, l.IsBlank →
        Json.parse? (String.ofList (Json.Printer.value l 0 value)) = some value) ∧
      ∀ saved, Json.parse? saved = some value →
        readText read saved = ok c ∧
        ∀ (d : Disk) (path : Path) (e : LineEnd), '\r' ∉ saved.toList →
          d.readFile path = .ok ((⟨false, e⟩ : Storage).bytes saved.toList) →
          ∃ again, load d path = .ok again ∧ again = c ∧
            ∀ name, again.isSourceFile name = c.isSourceFile name := by
  obtain ⟨names, endings, declarations, rfl⟩ := exists_of_readText h
  have normal : ∀ m ∈ (normalizeExtensions endings).toList, IsNormal m :=
    fun m => isNormal_of_mem_normalizeExtensions
  refine ⟨fun m hm => ?_, normalizeExtensions_eq normal fun _ => .rfl, ?_⟩
  · have ⟨dotted, trimmed, lowered⟩ := normal m hm
    exact ⟨dotted, trimmed, lowered⟩
  · intro excluded extensions sameNames sameEndings
    have same : ofMembers excluded extensions declarations =
        ofMembers names endings declarations := by
      rw [ofMembers, NameSet.ofList_eq sameNames, normalizeExtensions_eq normal sameEndings]
      rfl
    refine ⟨fun l hl => ?_, fun saved parsed => ?_⟩
    · exact Json.parse?_value hl (nested_written excluded extensions declarations)
    · have done : readText read saved = ok (ofMembers names endings declarations) := by
        rw [readText, parsed]
        exact (read_written _ _ _).trans (congrArg ok same)
      exact ⟨done, fun d path e noReturn stored =>
        ⟨_, load_of_readText e noReturn done stored, rfl, fun _ => rfl⟩⟩

/-! ## A configuration that is saved -/

namespace Sample

/-- Endings with blanks, capitals and a final sigma, by the longer name of their member. -/
def given : Json := .object [("source_extensions", .ofStrings [" .MTS\n", "İ.ΑΣ", "mts", "\t"])]

/-- What is saved for them, on several lines and with an ending written twice. -/
def saved : String := (written defaultExcluded [".mts", ".i̇.ας", ".mts"] false).pretty 2

def bytes : List UInt8 := (⟨false, .both⟩ : Storage).bytes saved.toList

def disk : Disk where
  top := .directory none [([.char 'c'], .file bytes)]
  workingDirectory := [Path.slash]

theorem readFile_disk : disk.readFile (.ofText "/c") = .ok bytes := by
  have path : Path.ofText "/c" = [Path.slash, .char 'c'] := by decide
  rw [path]
  rfl

theorem noReturn_saved : '\r' ∉ saved.toList := by
  have lacks : (Layout.lines 2).Lacks '\r' := by constructor <;> simp [Layout.lines]
  have nested : Json.Nested 2 (written defaultExcluded [".mts", ".i̇.ας", ".mts"] false) :=
    nested_written _ _ _
  rw [saved, Json.pretty, String.toList_ofList]
  exact Json.Printer.notMem_value (by decide) lacks nested 0

end Sample

theorem normalization_survives_saving_sample : ∃ c, readText read Sample.given.compact = ok c ∧
    ".i̇.ας" ∈ c.sourceExtensions.toList ∧
    (∀ m ∈ c.sourceExtensions.toList, m.toList.head? = some '.') ∧
    load Sample.disk (.ofText "/c") = .ok c := by
  have nested : Json.Nested Json.maxDepth Sample.given :=
    Json.nested_object (Json.nested_ofStrings _)
  have done : readText read Sample.given.compact =
      ok (ofMembers defaultExcluded [" .MTS\n", "İ.ΑΣ", "mts", "\t"] false) := by
    rw [readText, Json.parse?_compact nested]
    simp [read, Sample.given, ofMembers, readObject, Schema.optional, Members.find?, Json.lookup]
  have endings : (ofMembers defaultExcluded [" .MTS\n", "İ.ΑΣ", "mts", "\t"]
      false).sourceExtensions.toList = [".i̇.ας", ".mts"] := by decide +kernel
  obtain ⟨normal, -, saving⟩ := normalization_survives_saving done
  have declarations : (ofMembers defaultExcluded [" .MTS\n", "İ.ΑΣ", "mts", "\t"]
      false).includeTypeDeclarationFiles = false := rfl
  rw [declarations, endings] at saving
  obtain ⟨printed, loading⟩ := saving defaultExcluded [".mts", ".i̇.ας", ".mts"]
    (fun _ => NameSet.mem_ofList.symm) (by simp)
  obtain ⟨-, loading⟩ := loading Sample.saved (printed (.lines 2) (Layout.lines_isBlank 2))
  obtain ⟨again, loaded, same, -⟩ := loading Sample.disk (.ofText "/c") .both
    Sample.noReturn_saved Sample.readFile_disk
  refine ⟨_, done, ?_, fun m hm => (normal m hm).1, same ▸ loaded⟩
  rw [endings]
  exact List.mem_cons_self

end Config

end ModuleAtlas
