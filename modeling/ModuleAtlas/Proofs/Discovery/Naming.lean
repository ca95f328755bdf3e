import ModuleAtlas.Discovery
import ModuleAtlas.Analysis
import ModuleAtlas.Proofs.Disk.Normalization

/-!
# How found files are named

A place below a root is written as its names with slashes between them, stray bytes spelled out.
Such a path is one that a file record takes: it is relative and does not leave the root.
-/
namespace ModuleAtlas

open Text ModuleAtlas.Path

namespace Text.Glyph

theorem hexDigit_ne_slash (n : Nat) : hexDigit (n % 16) ≠ '/' := by
  have small : ∀ k < 16, hexDigit k ≠ '/' := by decide
  exact small _ (Nat.mod_lt _ (by omega))

theorem slash_notMem_hex (width n : Nat) : '/' ∉ hex width n := by
  induction width generalizing n with
  | zero => simp [hex]
  | succ width ih =>
    have digit := hexDigit_ne_slash n
    simp [hex, ih, Ne.symm digit]

theorem slash_mem_spelled {g : Glyph} : '/' ∈ spelled g ↔ g = slash := by
  cases g with
  | char c => simp [spelled, slash, eq_comm]
  | byte b => simp [spelled, slash, slash_notMem_hex]

theorem slash_mem_text {g : List Glyph} : '/' ∈ text g ↔ slash ∈ g := by
  simp [text, slash_mem_spelled]

/-- Only a character that is a dot is spelled with a dot first. -/
theorem head_spelled (g : Glyph) : ∃ c rest, spelled g = c :: rest ∧ (c = '.' → g = dot) := by
  cases g with
  | char c => exact ⟨c, [], rfl, fun h => congrArg char h⟩
  | byte b => exact ⟨'\\', _, rfl, fun h => absurd h (by decide)⟩

theorem text_cons (g : Glyph) (p : List Glyph) : text (g :: p) = spelled g ++ text p := rfl

theorem text_append (p q : List Glyph) : text (p ++ q) = text p ++ text q :=
  List.flatMap_append

theorem text_eq_dots {p : List Glyph} (h : text p = ['.', '.']) : p = parent := by
  cases p with
  | nil => simp [text] at h
  | cons g p =>
    obtain ⟨c, rest, spell, only⟩ := head_spelled g
    rw [text_cons, spell, List.cons_append, List.cons.injEq] at h
    obtain rfl := only h.1
    obtain ⟨-, rfl⟩ : c = '.' ∧ rest = [] := by simpa [spelled, dot, eq_comm] using spell
    cases p with
    | nil => simp [text] at h
    | cons g' p =>
      obtain ⟨c', rest', spell', only'⟩ := head_spelled g'
      rw [text_cons, spell', List.nil_append, List.cons_append, List.cons.injEq] at h
      obtain rfl := only' h.2.1
      obtain ⟨-, hp⟩ := List.append_eq_nil_iff.1 h.2.2
      cases p with
      | nil => rfl
      | cons g'' p =>
        obtain ⟨c'', rest'', spell'', -⟩ := head_spelled g''
        simp [text_cons, spell''] at hp

end Text.Glyph

open Text.Glyph

namespace Path

theorem text_ofComponents (cs : List Path) :
    Glyph.text (ofComponents cs) = List.intercalate ['/'] (cs.map Glyph.text) := by
  induction cs with
  | nil => rfl
  | cons c cs ih =>
    cases cs with
    | nil => simp [ofComponents]
    | cons c' cs =>
      have joined : ofComponents (c :: c' :: cs) = c ++ [slash] ++ ofComponents (c' :: cs) := by
        simp [ofComponents]
      have mark : Glyph.text [slash] = ['/'] := rfl
      rw [joined, text_append, text_append, ih, mark]
      simp

section Components

variable {cs : List Path}

theorem splitOn_toText (hcs : cs ≠ []) (h : ∀ c ∈ cs, slash ∉ c) :
    (toText (ofComponents cs)).toList.splitOn '/' = cs.map Glyph.text := by
  have noSlash : ∀ t ∈ cs.map Glyph.text, '/' ∉ t := by
    intro t ht
    obtain ⟨c, hc, rfl⟩ := List.mem_map.1 ht
    exact fun mem => h c hc (slash_mem_text.1 mem)
  rw [toText, String.toList_ofList, text_ofComponents]
  exact List.splitOn_intercalate '/' noSlash (by simpa using hcs)

/-- A text of components that are not empty does not begin with a slash. -/
theorem head?_toText (h : ∀ c ∈ cs, IsSegment c) :
    (toText (ofComponents cs)).toList.head? ≠ some '/' := by
  rw [toText, String.toList_ofList, text_ofComponents]
  cases cs with
  | nil => simp
  | cons c cs =>
    obtain ⟨notEmpty, noSlash⟩ := h c (List.mem_cons_self ..)
    obtain ⟨g, c, rfl⟩ := List.exists_cons_of_ne_nil notEmpty
    obtain ⟨first, rest, spell, -⟩ := head_spelled g
    have other : first ≠ '/' := by
      rintro rfl
      refine noSlash (slash_mem_text.1 ?_)
      rw [text_cons, spell]
      exact List.mem_cons_self ..
    cases cs <;> simp [text_cons, spell, other]

/-- Components with slashes between them make a path for a record if none of them goes up. -/
theorem pathFault?_toText (hcs : cs ≠ []) (h : ∀ c ∈ cs, IsSegment c) :
    FileRecord.pathFault? (toText (ofComponents cs)) = none ↔ parent ∉ cs := by
  have dots : ['.', '.'] ∈ cs.map Glyph.text ↔ parent ∈ cs := by
    constructor
    · intro mem
      obtain ⟨c, hc, spelled⟩ := List.mem_map.1 mem
      exact text_eq_dots spelled ▸ hc
    · exact fun mem => List.mem_map.2 ⟨parent, mem, rfl⟩
  rw [FileRecord.pathFault?, if_neg (head?_toText h),
    splitOn_toText hcs fun c hc => (h c hc).noSlash, ← dots]
  split <;> simp_all

end Components

/-- The names of a place with slashes between them make a path for a record. -/
theorem pathFault?_ofComponents {ns : List Name} (hns : ∀ n ∈ ns, IsProper n) (hne : ns ≠ []) :
    FileRecord.pathFault? (toText (ofComponents ns)) = none :=
  (pathFault?_toText hne fun n hn => (hns n hn).isSegment).2
    fun mem => (hns parent mem).notParent rfl

end Path

namespace Discovery

/-- The text of a place, its names with slashes between them. -/
def placeText (q : List Name) : String := toText (ofComponents q)

theorem relativeText_eq {root : Path} (hroot : isAbsolute root = true) {q : List Name}
    (hq : ∀ n ∈ q, IsProper n) (hne : q ≠ []) : relativeText root q = placeText q := by
  rw [relativeText, fullPath, relative_foldl_join hroot hq hne, placeText]

theorem sourceFile_path {root : Path} (hroot : isAbsolute root = true) {q : List Name}
    (hq : ∀ n ∈ q, IsProper n) (hne : q ≠ []) : (sourceFile root q).path = placeText q :=
  relativeText_eq hroot hq hne

theorem sourceFile_injective {root : Path} (hroot : isAbsolute root = true) {q q' : List Name}
    (hq : ∀ n ∈ q, IsProper n) (hq' : ∀ n ∈ q', IsProper n)
    (h : sourceFile root q = sourceFile root q') : q = q' :=
  foldl_join_injective hroot hq hq' (congrArg SourceFile.fullPath h)

end Discovery

/-- A file that lies below a root always has an outcome. -/
theorem analyzeFileRead_sourceFile {root : Path} (hroot : isAbsolute root = true)
    (hnul : hasNul root = false) {q : List Name} (hq : ∀ n ∈ q, IsProper n) (hne : q ≠ [])
    (read : FileReader) (parse : SourceParser) :
    analyzeFileRead read parse (Discovery.sourceFile root q) =
      .ok (.ofFile read parse (Discovery.sourceFile root q)) := by
  have noNul : hasNul (Discovery.sourceFile root q).fullPath = false := hasNul_foldl_join hnul hq
  have valid : FileRecord.pathFault? (Discovery.sourceFile root q).path = none := by
    rw [Discovery.sourceFile_path hroot hq hne]
    exact pathFault?_ofComponents hq hne
  exact analyzeFileRead_eq_ok.2 ⟨noNul, valid, rfl⟩

end ModuleAtlas
