import ModuleAtlas.Proofs.Interfaces.Configuration
import ModuleAtlas.Proofs.Text.LowerCase

/-!
# File names that end in a configured ending

An ending is put into lower case by itself, and a file name as a whole. The two agree at the end of
the name, so that the ending is found whatever the case of its letters, but for one: a capital sigma
that is the first letter of the ending and its last one becomes another letter behind a name that
ends in a letter. Then the file is not found.

## Main definitions

* `Config.withDot` — an ending with the dot that stands before it.
-/
namespace ModuleAtlas

open Schema Checked Text

namespace Config

/-- An ending with the dot that stands before it, which need not be written. -/
def withDot : List Char → List Char
  | '.' :: s => '.' :: s
  | s => '.' :: s

theorem withDot_of_head {s : List Char} (h : s.head? ≠ some '.') : withDot s = '.' :: s := by
  unfold withDot
  split
  · simp at h
  · rfl

theorem withDot_cases (s : List Char) :
    (∃ rest, s = '.' :: rest ∧ withDot s = s) ∨ s.head? ≠ some '.' ∧ withDot s = '.' :: s := by
  by_cases h : s.head? = some '.'
  · obtain ⟨rest, rfl⟩ := List.head?_eq_some_iff.1 h
    exact .inl ⟨rest, rfl, rfl⟩
  · exact .inr ⟨h, withDot_of_head h⟩

theorem normalizeExtension?_eq (e : String) : normalizeExtension? e =
    if lower (trim e.toList) = [] then none
    else some (String.ofList (withDot (lower (trim e.toList)))) := by
  unfold normalizeExtension?
  split
  · next empty => rw [if_pos empty]
  · next s dot =>
    rw [if_neg (by simp [dot]), dot]
    rfl
  · next s letters noDot =>
    have head : (lower (trim e.toList)).head? ≠ some '.' := fun dot => by
      obtain ⟨rest, split⟩ := List.head?_eq_some_iff.1 dot
      exact noDot rest split
    rw [if_neg letters, withDot_of_head head]

/-! ## Lower case behind a dot -/

theorem dot_ignorable : isIgnorable '.' = true := by decide +kernel

theorem lowerBehind_dot (before s : List Char) :
    lowerBehind before ('.' :: s) = '.' :: lowerBehind before s := by
  have settled : IsSettled '.' := by decide +kernel
  rw [lowerBehind, lowerAt_of_settled settled,
    lowerBehind_congr (meetsCased_cons_of_ignorable dot_ignorable before), List.singleton_append]

theorem head?_lower_ne_dot {s : List Char} (h : s.head? ≠ some '.') :
    (lower s).head? ≠ some '.' := by
  cases s with
  | nil => simp [lower, lowerBehind]
  | cons c s =>
    intro dot
    have dot : '.' ∈ lowerAt [] s c := by
      obtain ⟨x, xs, form⟩ := List.exists_cons_of_ne_nil (lowerAt_ne_nil [] s c)
      rw [lower, lowerBehind, form, List.cons_append, List.head?_cons] at dot
      cases dot
      simp [form]
    rcases mem_lowerAt dot with form | ⟨-, -, made⟩
    · exact absurd form (by decide)
    · have same : lowerChar c = c := eq_of_lowerChar_unmade (by rw [← made]; decide)
      exact h (by rw [List.head?_cons, made, same])

theorem lower_withDot (s : List Char) : lower (withDot s) = withDot (lower s) := by
  rcases withDot_cases s with ⟨rest, rfl, same⟩ | ⟨noDot, dotted⟩
  · rw [same, lower, lowerBehind_dot]
    rfl
  · rw [dotted, withDot_of_head (head?_lower_ne_dot noDot)]
    exact lowerBehind_dot [] s

theorem opensWithFinalSigma_withDot (s : List Char) :
    OpensWithFinalSigma (withDot s) ↔ OpensWithFinalSigma s := by
  rcases withDot_cases s with ⟨rest, -, same⟩ | ⟨-, dotted⟩
  · rw [same]
  · rw [dotted, opensWithFinalSigma_cons dot_ignorable]

/-! ## Ends of names -/

theorem ofText_injective {s t : List Char} (h : Glyph.ofText s = Glyph.ofText t) : s = t := by
  simpa using congrArg Glyph.leadingText h

/-- A name that is put together from a stem and a text ends, in lower case, in the lower-case form
of the text exactly when the text has that form behind the stem. -/
theorem lower_suffix_iff (stem : Name) (s : List Char) :
    Glyph.ofText (lower s) <:+ Glyph.lower (stem ++ Glyph.ofText s) ↔
      lowerBehind (Glyph.leadingText stem.reverse) s = lower s := by
  obtain ⟨front, split⟩ := Glyph.exists_lower_append stem s
  rw [split]
  constructor
  · intro suffix
    have long : (Glyph.ofText (lower s)).length =
        (Glyph.ofText (lowerBehind (Glyph.leadingText stem.reverse) s)).length := by
      rw [Glyph.ofText, Glyph.ofText, List.length_map, List.length_map, lower]
      exact length_lowerBehind [] _ s
    have last := List.suffix_of_suffix_length_le suffix (List.suffix_append front _) long.le
    exact (ofText_injective (last.eq_of_length long)).symm
  · intro same
    rw [same]
    exact List.suffix_append front _

/-- Behind a stem a text has the lower-case form that it has by itself, unless the stem ends in a
letter and the text opens with a sigma that ends a word. -/
theorem lowerBehind_stem_iff (before s : List Char) : lowerBehind before s = lower s ↔
    ¬ (meetsCased before = true ∧ OpensWithFinalSigma s) := by
  cases letter : meetsCased before with
  | true => simp only [true_and, lowerBehind_eq_lower_iff letter s]
  | false =>
    have nothing : meetsCased before = meetsCased [] := letter
    have same : lowerBehind before s = lower s := lowerBehind_congr nothing s
    simpa using same

/-- A configuration with one ending, which includes type declarations, takes the names that end in
it in lower case. -/
theorem isSourceFile_ofMembers_singleton {excluded : List String} {e : String}
    (he : lower (trim e.toList) ≠ []) (name : Name) :
    (ofMembers excluded [e] true).isSourceFile name = true ↔
      Glyph.ofText (withDot (lower (trim e.toList))) <:+ Glyph.lower name := by
  have one : (normalizeExtensions [e]).toList =
      [String.ofList (withDot (lower (trim e.toList)))] := by
    rw [normalizeExtensions, List.filterMap_cons, normalizeExtension?_eq, if_neg he]
    rfl
  simp [isSourceFile, ofMembers, one, endsIn]

/-- An ending that is configured matches a file name that ends in it, whatever the case of its
letters. The only exception is an ending whose first letter is a capital sigma with no letter behind
it, where the name before it ends in a letter. -/
theorem extension_matches_any_case (excluded : List String) (e : String)
    (he : trim e.toList ≠ []) (stem : Name) :
    ∃ c, read (written excluded [e] true) = ok c ∧
      (c.isSourceFile (stem ++ Glyph.ofText (withDot (trim e.toList))) = true ↔
        ¬ (meetsCased (Glyph.leadingText stem.reverse) = true ∧
          OpensWithFinalSigma (trim e.toList))) := by
  have some : lower (trim e.toList) ≠ [] := by
    obtain ⟨c, s, split⟩ := List.exists_cons_of_ne_nil he
    rw [split, lower, lowerBehind]
    exact List.append_ne_nil_of_left_ne_nil (lowerAt_ne_nil _ _ _) _
  refine ⟨_, read_written excluded [e] true, ?_⟩
  rw [isSourceFile_ofMembers_singleton some, ← lower_withDot, lower_suffix_iff,
    lowerBehind_stem_iff, opensWithFinalSigma_withDot]

/-- A sigma behind another letter is a final one in the ending and in the name alike. -/
theorem extension_matches_any_case_sample : trim "\tΑΣ ".toList ≠ [] ∧
    ∃ c, read (written ["dist"] ["\tΑΣ "] true) = ok c ∧
      c.isSourceFile (Glyph.ofText "É.ΑΣ".toList) = true := by
  have named : trim "\tΑΣ ".toList ≠ [] := by decide +kernel
  obtain ⟨c, done, takes⟩ :=
    extension_matches_any_case ["dist"] "\tΑΣ " named (Glyph.ofText "É".toList)
  have opens : ¬ OpensWithFinalSigma (trim "\tΑΣ ".toList) := by
    have letters : trim "\tΑΣ ".toList = ['Α', 'Σ'] := by decide +kernel
    rw [letters]
    exact not_opensWithFinalSigma_cons (by decide) (by decide +kernel) _
  have name : Glyph.ofText "É".toList ++ Glyph.ofText (withDot (trim "\tΑΣ ".toList)) =
      Glyph.ofText "É.ΑΣ".toList := by decide +kernel
  rw [name] at takes
  exact ⟨named, c, done, takes.2 fun clash => opens clash.2⟩

/-- Not every ending matches the names that end in it: the file `a.Σ` is not found by the ending
`.Σ`, which is `.σ` in lower case by itself and `.ς` behind the letter. -/
theorem sigma_extension_unmatched : ¬ ∀ (excluded : List String) (e : String),
    trim e.toList ≠ [] → ∀ stem : Name, ∃ c, read (written excluded [e] true) = ok c ∧
      c.isSourceFile (stem ++ Glyph.ofText (withDot (trim e.toList))) = true := by
  intro all
  obtain ⟨c, done, takes⟩ := all [] ".Σ" (by decide +kernel) (Glyph.ofText ['a'])
  cases (read_written [] [".Σ"] true).symm.trans done
  have unmatched : (ofMembers [] [".Σ"] true).isSourceFile
      (Glyph.ofText ['a'] ++ Glyph.ofText (withDot (trim ".Σ".toList))) = false := by
    decide +kernel
  rw [unmatched] at takes
  cases takes

end Config

end ModuleAtlas
