import ModuleAtlas.Text.Space
import ModuleAtlas.Text.Glyph
import Mathlib.Data.List.Basic

/-!
# Lower case is stable

No run takes a character to one that another run takes further, so that a text in lower case stays
as it is. A lower-case form depends on what stands around a character only for the capital sigma,
and of what stands before only one thing counts: whether a letter with case is met first. So a text
that is put behind some other one has the lower-case form that it has by itself, unless it opens
with a sigma that ends a word.

## Main definitions

* `IsSettled` — a character that no text in lower case loses.
* `OpensWithFinalSigma` — the first character that is not ignorable is a capital sigma that no
  letter follows.
-/
namespace ModuleAtlas.Text

/-! ## Runs -/

/-- A run has a number. -/
def InRun (r : Nat × Nat × Nat × Int) (n : Nat) : Prop :=
  r.1 ≤ n ∧ n ≤ r.2.1 ∧ (n - r.1) % r.2.2.1 = 0

/-- Blanks as ranges. -/
def blankRanges : List (Nat × Nat) :=
  [(9, 0xD), (0x1C, 0x20), (0x85, 0x85), (0xA0, 0xA0), (0x1680, 0x1680), (0x2000, 0x200A),
   (0x2028, 0x2029), (0x202F, 0x202F), (0x205F, 0x205F), (0x3000, 0x3000)]

/-- Characters that are not the lower-case form of any other one: blanks, the dot, and the two
capitals that have no run. -/
def unmadeRanges : List (Nat × Nat) :=
  blankRanges ++ [(0x2E, 0x2E), (0x130, 0x130), (0x3A3, 0x3A3)]

theorem isBlank_eq (c : Char) : isBlank c = inRanges blankRanges c := by
  rw [Bool.eq_iff_iff]
  simp only [isBlank, isWhite, inRanges, blankRanges, Bool.or_eq_true, Bool.and_eq_true,
    decide_eq_true_eq, List.any_cons, List.any_nil, Bool.false_eq_true, or_false]
  omega

theorem inRanges_iff {ranges : List (Nat × Nat)} {c : Char} :
    inRanges ranges c = true ↔ ∃ b ∈ ranges, b.1 ≤ c.toNat ∧ c.toNat ≤ b.2 := by
  simp [inRanges]

/-- Runs lead to characters. -/
theorem runs_valid : ∀ r ∈ lowerRuns, 0 ≤ r.1 + r.2.2.2 ∧
    (r.2.1 + r.2.2.2 < 0xD800 ∨ 0xDFFF < r.1 + r.2.2.2 ∧ r.2.1 + r.2.2.2 < 0x110000) := by
  decide +kernel

theorem runs_unmade : ∀ r ∈ lowerRuns, ∀ b ∈ unmadeRanges,
    r.2.1 + r.2.2.2 < b.1 ∨ (b.2 : Int) < r.1 + r.2.2.2 := by
  decide +kernel

theorem lowerChar_eq_self {c : Char} (h : ∀ r ∈ lowerRuns, ¬ InRun r c.toNat) :
    lowerChar c = c := by
  have none : (lowerRuns.find? fun r =>
      r.1 ≤ c.toNat && c.toNat ≤ r.2.1 && (c.toNat - r.1) % r.2.2.1 = 0) = none := by
    refine List.find?_eq_none.2 fun r hr has => h r hr ?_
    simpa [InRun, and_assoc] using has
  simp only [lowerChar, moved, none]

/-- A character is its own lower-case form, or it is in a run and moves with that. -/
theorem lowerChar_cases (c : Char) : lowerChar c = c ∨
    ∃ r ∈ lowerRuns, InRun r c.toNat ∧ ((lowerChar c).toNat : Int) = c.toNat + r.2.2.2 := by
  by_cases h : ∀ r ∈ lowerRuns, ¬ InRun r c.toNat
  · exact .inl (lowerChar_eq_self h)
  · right
    cases found : lowerRuns.find? fun r =>
        r.1 ≤ c.toNat && c.toNat ≤ r.2.1 && (c.toNat - r.1) % r.2.2.1 = 0 with
    | none =>
      refine absurd (fun r hr has => ?_) h
      exact List.find?_eq_none.1 found r hr (by simpa [InRun, and_assoc] using has)
    | some r =>
      have hr := List.mem_of_find?_eq_some found
      have has : InRun r c.toNat := by
        simpa [InRun, and_assoc] using List.find?_some found
      refine ⟨r, hr, has, ?_⟩
      have shifted : lowerChar c = Char.ofNat ((c.toNat : Int) + r.2.2.2).toNat := by
        simp only [lowerChar, moved, found]
      have valid := runs_valid r hr
      have char : Nat.isValidChar ((c.toNat : Int) + r.2.2.2).toNat := by
        obtain ⟨low, high, -⟩ := has
        unfold Nat.isValidChar
        omega
      have number : (lowerChar c).toNat = ((c.toNat : Int) + r.2.2.2).toNat := by
        rw [shifted, Char.ofNat, dif_pos char]
        rfl
      obtain ⟨low, -, -⟩ := has
      omega

/-- A character that is the lower-case form of no other one is made of itself only. -/
theorem eq_of_lowerChar_unmade {c : Char} (h : inRanges unmadeRanges (lowerChar c) = true) :
    lowerChar c = c := by
  rcases lowerChar_cases c with same | ⟨r, hr, ⟨low, high, -⟩, moved⟩
  · exact same
  · obtain ⟨b, hb, from', to'⟩ := inRanges_iff.1 h
    rcases runs_unmade r hr b hb with before | behind <;> omega

/-! ## Runs as bits -/

/-- The numbers of a run as the bits of one number. -/
def runBits (r : Nat × Nat × Nat × Int) : Nat :=
  (List.range ((r.2.1 - r.1) / r.2.2.1 + 1)).foldl
    (fun bits k => bits ||| 1 <<< (r.1 + k * r.2.2.1)) 0

/-- The numbers of all runs as the bits of one number. -/
def allBits : Nat := lowerRuns.foldl (fun bits r => bits ||| runBits r) 0

/-- Bits that are moved by a distance, up or down. -/
def movedBits (bits : Nat) : Int → Nat
  | .ofNat k => bits <<< k
  | .negSucc k => bits >>> (k + 1)

/-- No run leads to a character of a run. Bits make this one test for each run, not for each pair.
-/
theorem runs_apart : ∀ r ∈ lowerRuns, movedBits (runBits r) r.2.2.2 &&& allBits = 0 := by
  decide +kernel

theorem testBit_foldl_or {α : Type} {f : α → Nat} {xs : List α} {x : α} {n : Nat} (hx : x ∈ xs)
    (h : (f x).testBit n = true) (bits : Nat) :
    (xs.foldl (fun bits x => bits ||| f x) bits).testBit n = true := by
  have kept (xs : List α) (bits : Nat) (has : bits.testBit n = true) :
      (xs.foldl (fun bits x => bits ||| f x) bits).testBit n = true := by
    induction xs generalizing bits with
    | nil => exact has
    | cons y ys ih => exact ih _ (by rw [Nat.testBit_or, has, Bool.true_or])
  induction xs generalizing bits with
  | nil => cases hx
  | cons y ys ih =>
    rcases List.mem_cons.1 hx with rfl | hx
    · exact kept ys _ (by rw [Nat.testBit_or, h, Bool.or_true])
    · exact ih hx _

theorem testBit_runBits {r : Nat × Nat × Nat × Int} {n : Nat} (h : InRun r n) :
    (runBits r).testBit n = true := by
  obtain ⟨low, high, step⟩ := h
  have steps : (n - r.1) / r.2.2.1 ∈ List.range ((r.2.1 - r.1) / r.2.2.1 + 1) :=
    List.mem_range.2 (Nat.lt_succ_of_le (Nat.div_le_div_right (by omega)))
  have number : r.1 + (n - r.1) / r.2.2.1 * r.2.2.1 = n := by
    rw [Nat.div_mul_cancel (Nat.dvd_of_mod_eq_zero step)]
    omega
  refine testBit_foldl_or steps ?_ 0
  rw [number, Nat.one_shiftLeft, Nat.testBit_two_pow_self]

theorem testBit_movedBits {bits n m : Nat} {distance : Int} (h : bits.testBit n = true)
    (moved : (m : Int) = n + distance) : (movedBits bits distance).testBit m = true := by
  cases distance with
  | ofNat k =>
    rw [Int.ofNat_eq_natCast] at moved
    obtain rfl : m = n + k := by omega
    simp [movedBits, h]
  | negSucc k =>
    obtain rfl : n = m + (k + 1) := by omega
    simpa [movedBits, Nat.add_comm] using h

@[simp] theorem lowerChar_lowerChar (c : Char) : lowerChar (lowerChar c) = lowerChar c := by
  rcases lowerChar_cases c with same | ⟨r, hr, has, moved⟩
  · rw [same, same]
  · -- Were the new character in a run, its bit would be both among those moved and among all.
    refine lowerChar_eq_self fun r' hr' has' => ?_
    have made := testBit_movedBits (testBit_runBits has) moved
    have known : allBits.testBit (lowerChar c).toNat = true :=
      testBit_foldl_or hr' (testBit_runBits has') 0
    have both : (movedBits (runBits r) r.2.2.2 &&& allBits).testBit (lowerChar c).toNat = true := by
      rw [Nat.testBit_and, made, known, Bool.true_and]
    rw [runs_apart r hr, Nat.zero_testBit] at both
    cases both

/-! ## Texts in lower case -/

/-- A character that no text in lower case loses. -/
def IsSettled (c : Char) : Prop := c ≠ 'Σ' ∧ c ≠ 'İ' ∧ lowerChar c = c

instance (c : Char) : Decidable (IsSettled c) := inferInstanceAs (Decidable (_ ∧ _))

theorem lowerAt_of_settled {c : Char} (h : IsSettled c) (before after : List Char) :
    lowerAt before after c = [c] := by
  rw [lowerAt, if_neg h.1, if_neg h.2.1, h.2.2]

/-- What the two capitals that have no run become. -/
def irregular : List Char := ['ς', 'σ', 'i', '\u0307']

theorem mem_lowerAt {before after : List Char} {c x : Char} (h : x ∈ lowerAt before after c) :
    x ∈ irregular ∨ c ≠ 'Σ' ∧ c ≠ 'İ' ∧ x = lowerChar c := by
  unfold lowerAt at h
  split at h
  · left
    split at h <;> simp_all [irregular]
  · split at h
    · left
      simp_all [irregular]
    · next noSigma noDot => exact .inr ⟨noSigma, noDot, List.mem_singleton.1 h⟩

theorem lowerAt_ne_nil (before after : List Char) (c : Char) : lowerAt before after c ≠ [] := by
  unfold lowerAt
  split
  · simp
  · split <;> simp

theorem settled_lowerChar {c : Char} (noSigma : c ≠ 'Σ') (noDot : c ≠ 'İ') :
    IsSettled (lowerChar c) := by
  refine ⟨fun h => noSigma ?_, fun h => noDot ?_, lowerChar_lowerChar c⟩
  · rw [← h, eq_of_lowerChar_unmade (by rw [h]; decide)]
  · rw [← h, eq_of_lowerChar_unmade (by rw [h]; decide)]

theorem settled_of_mem_lowerAt {before after : List Char} {c x : Char}
    (h : x ∈ lowerAt before after c) : IsSettled x := by
  have settled : irregular.all (fun x => decide (IsSettled x)) = true := by decide +kernel
  rcases mem_lowerAt h with form | ⟨noSigma, noDot, rfl⟩
  · exact of_decide_eq_true (List.all_eq_true.1 settled x form)
  · exact settled_lowerChar noSigma noDot

theorem settled_of_mem_lowerBehind {before s : List Char} {x : Char}
    (h : x ∈ lowerBehind before s) : IsSettled x := by
  induction s generalizing before with
  | nil => cases h
  | cons c s ih =>
    rcases List.mem_append.1 h with h | h
    · exact settled_of_mem_lowerAt h
    · exact ih h

theorem lowerBehind_of_settled {s : List Char} (h : ∀ c ∈ s, IsSettled c) (before : List Char) :
    lowerBehind before s = s := by
  induction s generalizing before with
  | nil => rfl
  | cons c s ih =>
    have ⟨first, rest⟩ := List.forall_mem_cons.1 h
    rw [lowerBehind, lowerAt_of_settled first, ih rest, List.singleton_append]

/-- A text in lower case stays as it is. -/
@[simp] theorem lower_lower (s : List Char) : lower (lower s) = lower s :=
  lowerBehind_of_settled (fun _ h => settled_of_mem_lowerBehind h) []

/-! ## What stands before a text -/

theorem meetsCased_cons_of_ignorable {c : Char} (h : isIgnorable c = true) (s : List Char) :
    meetsCased (c :: s) = meetsCased s := by
  rw [meetsCased, meetsCased, List.dropWhile_cons_of_pos h]

theorem meetsCased_cons_of_not_ignorable {c : Char} (h : isIgnorable c = false) (s : List Char) :
    meetsCased (c :: s) = isCased c := by
  rw [meetsCased, List.dropWhile_cons_of_neg (by simp [h])]
  rfl

theorem lowerAt_congr {before before' : List Char} (h : meetsCased before = meetsCased before')
    (after : List Char) (c : Char) : lowerAt before after c = lowerAt before' after c := by
  rw [lowerAt, lowerAt, h]

/-- Of what stands before a text only the first letter counts that is met from there. -/
theorem lowerBehind_congr {before before' : List Char}
    (h : meetsCased before = meetsCased before') (s : List Char) :
    lowerBehind before s = lowerBehind before' s := by
  induction s generalizing before before' with
  | nil => rfl
  | cons c s ih =>
    have next : meetsCased (c :: before) = meetsCased (c :: before') := by
      cases ignorable : isIgnorable c with
      | true =>
        rw [meetsCased_cons_of_ignorable ignorable, meetsCased_cons_of_ignorable ignorable, h]
      | false =>
        rw [meetsCased_cons_of_not_ignorable ignorable, meetsCased_cons_of_not_ignorable ignorable]
    rw [lowerBehind, lowerBehind, lowerAt_congr h, ih next]

theorem lowerAt_of_ne_sigma {c : Char} (h : c ≠ 'Σ') (before before' after : List Char) :
    lowerAt before after c = lowerAt before' after c := by
  rw [lowerAt, lowerAt, if_neg h, if_neg h]

theorem length_lowerAt (before after before' after' : List Char) (c : Char) :
    (lowerAt before after c).length = (lowerAt before' after' c).length := by
  unfold lowerAt
  split
  · rfl
  · split <;> rfl

/-- However a text begins to be read, its lower-case form is as long. -/
theorem length_lowerBehind (before before' s : List Char) :
    (lowerBehind before s).length = (lowerBehind before' s).length := by
  induction s generalizing before before' with
  | nil => rfl
  | cons c s ih =>
    rw [lowerBehind, lowerBehind, List.length_append, List.length_append, ih (c :: before),
      length_lowerAt before s before' s]

/-- The first character that is not ignorable is a capital sigma that no letter follows. -/
def OpensWithFinalSigma (s : List Char) : Prop :=
  ∃ p q, s = p ++ 'Σ' :: q ∧ (∀ c ∈ p, isIgnorable c = true) ∧ meetsCased q = false

theorem opensWithFinalSigma_cons {c : Char} (h : isIgnorable c = true) (s : List Char) :
    OpensWithFinalSigma (c :: s) ↔ OpensWithFinalSigma s := by
  constructor
  · rintro ⟨p, q, split, ignorable, last⟩
    cases p with
    | nil =>
      cases split
      exact absurd h (by decide +kernel)
    | cons x p =>
      cases split
      exact ⟨p, q, rfl, (List.forall_mem_cons.1 ignorable).2, last⟩
  · rintro ⟨p, q, rfl, ignorable, last⟩
    exact ⟨c :: p, q, rfl, List.forall_mem_cons.2 ⟨h, ignorable⟩, last⟩

theorem opensWithFinalSigma_sigma (s : List Char) :
    OpensWithFinalSigma ('Σ' :: s) ↔ meetsCased s = false := by
  constructor
  · rintro ⟨p, q, split, ignorable, last⟩
    cases p with
    | nil =>
      cases split
      exact last
    | cons x p =>
      cases split
      exact absurd (ignorable 'Σ' List.mem_cons_self) (by decide +kernel)
  · exact fun last => ⟨[], s, rfl, List.forall_mem_nil _, last⟩

theorem not_opensWithFinalSigma_cons {c : Char} (noSigma : c ≠ 'Σ') (h : isIgnorable c = false)
    (s : List Char) : ¬ OpensWithFinalSigma (c :: s) := by
  rintro ⟨p, q, split, ignorable, -⟩
  cases p with
  | nil =>
    cases split
    exact noSigma rfl
  | cons x p =>
    cases split
    simp [h] at ignorable

/-- Behind a letter with case a text has the lower-case form that it has by itself, unless it opens
with a sigma that ends a word. -/
theorem lowerBehind_eq_lower_iff {before : List Char} (letter : meetsCased before = true)
    (s : List Char) : lowerBehind before s = lower s ↔ ¬ OpensWithFinalSigma s := by
  suffices ∀ before', meetsCased before' = false →
      (lowerBehind before s = lowerBehind before' s ↔ ¬ OpensWithFinalSigma s) from this [] rfl
  intro before' noLetter
  induction s generalizing before before' with
  | nil =>
    have none : ¬ OpensWithFinalSigma [] := by
      rintro ⟨p, q, split, -⟩
      simp at split
    exact iff_of_true rfl none
  | cons c s ih =>
    rw [lowerBehind, lowerBehind]
    cases ignorable : isIgnorable c with
    | true =>
      -- The character is no sigma, and the search from behind it goes on to the same letter.
      have noSigma : c ≠ 'Σ' := by
        rintro rfl
        exact absurd ignorable (by decide +kernel)
      have letter' : meetsCased (c :: before) = true := by
        rw [meetsCased_cons_of_ignorable ignorable, letter]
      have noLetter' : meetsCased (c :: before') = false := by
        rw [meetsCased_cons_of_ignorable ignorable, noLetter]
      rw [lowerAt_of_ne_sigma noSigma before before', List.append_cancel_left_eq,
        opensWithFinalSigma_cons ignorable, ih letter' _ noLetter']
    | false =>
      -- From behind the character the search ends at it, whatever stands before.
      have next : meetsCased (c :: before) = meetsCased (c :: before') := by
        rw [meetsCased_cons_of_not_ignorable ignorable, meetsCased_cons_of_not_ignorable ignorable]
      rw [lowerBehind_congr next, List.append_cancel_right_eq]
      by_cases sigma : c = 'Σ'
      · subst sigma
        rw [opensWithFinalSigma_sigma, lowerAt, lowerAt, if_pos rfl, if_pos rfl, letter, noLetter]
        cases meetsCased s <;> decide
      · exact iff_of_true (lowerAt_of_ne_sigma sigma before before' s)
          (not_opensWithFinalSigma_cons sigma ignorable s)

/-! ## File names -/

namespace Glyph

@[simp] theorem leadingText_ofText (s : List Char) : leadingText (ofText s) = s := by
  induction s with
  | nil => rfl
  | cons c s ih => exact congrArg (c :: ·) ih

theorem leadingText_append_byte (g : List Glyph) (b : UInt8) (h : List Glyph) :
    leadingText (g ++ byte b :: h) = leadingText g := by
  induction g with
  | nil => rfl
  | cons x g ih =>
    cases x with
    | char c => exact congrArg (c :: ·) ih
    | byte b' => rfl

@[simp] theorem lowerBehind_ofText (before s : List Char) :
    lowerBehind before (ofText s) = ofText (Text.lowerBehind before s) := by
  induction s generalizing before with
  | nil => rfl
  | cons c s ih =>
    have step : lowerBehind before (ofText (c :: s)) =
        ofText (lowerAt before (leadingText (ofText s)) c) ++
          lowerBehind (c :: before) (ofText s) := rfl
    rw [step, leadingText_ofText, ih, Text.lowerBehind, ofText, ofText, ofText, List.map_append]

/-- The end of a name has its lower-case form behind the text that stands before it, back to the
last stray byte. -/
theorem exists_lowerBehind_append (before : List Char) (g h : List Glyph) :
    ∃ front, lowerBehind before (g ++ h) =
      front ++ lowerBehind (leadingText (g.reverse ++ ofText before)) h := by
  induction g generalizing before with
  | nil => exact ⟨[], by simp⟩
  | cons x g ih =>
    cases x with
    | char c =>
      obtain ⟨front, rest⟩ := ih (c :: before)
      have text : g.reverse ++ ofText (c :: before) = (char c :: g).reverse ++ ofText before := by
        simp [ofText]
      refine ⟨(lowerAt before (leadingText (g ++ h)) c).map char ++ front, ?_⟩
      rw [List.cons_append, lowerBehind, rest, text, List.append_assoc]
    | byte b =>
      obtain ⟨front, rest⟩ := ih []
      have text : leadingText ((byte b :: g).reverse ++ ofText before) =
          leadingText (g.reverse ++ ofText []) := by
        rw [List.reverse_cons, List.append_assoc, List.singleton_append, leadingText_append_byte,
          ofText, List.map_nil, List.append_nil]
      refine ⟨byte b :: front, ?_⟩
      rw [List.cons_append, lowerBehind, rest, text, List.cons_append]

/-- A name whose end is a text ends in lower case in the form that the text has behind what stands
before it. -/
theorem exists_lower_append (stem : List Glyph) (s : List Char) : ∃ front,
    lower (stem ++ ofText s) = front ++ ofText (Text.lowerBehind (leadingText stem.reverse) s) := by
  obtain ⟨front, split⟩ := exists_lowerBehind_append [] stem (ofText s)
  have nothing : ofText [] = [] := rfl
  refine ⟨front, ?_⟩
  rw [lower, split, lowerBehind_ofText, nothing, List.append_nil]

end Glyph

end ModuleAtlas.Text
