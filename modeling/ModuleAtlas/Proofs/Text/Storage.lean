import ModuleAtlas.Proofs.Text.Utf8

/-!
# Ways to store a text

A text is stored as UTF-8 with a byte order mark or without, and with each of its line ends as a
line feed, as a carriage return, or as both. Whichever way is taken, the text is what is read,
unless it has carriage returns of its own or begins with the character of the mark.

## Main definitions

* `LineEnd.write` — a text with its line ends spelled in one way.
* `Storage.bytes` — the bytes that store a text.
-/
namespace ModuleAtlas.Text

/-- What stands at the end of a line. -/
inductive LineEnd
  | feed
  | carriageReturn
  | both
deriving DecidableEq

def LineEnd.spelled : LineEnd → List Char
  | feed => ['\n']
  | carriageReturn => ['\r']
  | both => ['\r', '\n']

/-- A text with each line end spelled in one way. -/
def LineEnd.write (e : LineEnd) (s : List Char) : List Char :=
  s.flatMap fun c => if c = '\n' then e.spelled else [c]

/-- A way to store a text. -/
structure Storage where
  marked : Bool
  lineEnd : LineEnd
deriving DecidableEq

/-- The bytes that store a text. -/
def Storage.bytes (w : Storage) (s : List Char) : List UInt8 :=
  (if w.marked then Utf8.mark else []) ++ (w.lineEnd.write s).flatMap String.utf8EncodeChar

/-- The character that a byte order mark is. -/
def markCharacter : Char := '\uFEFF'

/-! ## Line ends -/

namespace LineEnd

theorem write_cons (e : LineEnd) (c : Char) (s : List Char) :
    e.write (c :: s) = (if c = '\n' then e.spelled else [c]) ++ e.write s := rfl

/-- Only a line end is spelled as something else, and never with the character of the mark. -/
theorem head?_write_ne {e : LineEnd} {s : List Char} (h : s.head? ≠ some markCharacter) :
    (e.write s).head? ≠ some markCharacter := by
  cases s with
  | nil => exact h
  | cons c s =>
    rw [write_cons]
    split
    · cases e <;> simp [spelled, markCharacter]
    · exact h

theorem feed_notMem_carriageReturn (s : List Char) : '\n' ∉ carriageReturn.write s := by
  intro mem
  obtain ⟨c, -, here⟩ := List.mem_flatMap.1 mem
  split at here
  · simp [spelled] at here
  · next other => exact other (List.mem_singleton.1 here).symm

end LineEnd

namespace Utf8

theorem unifyLines_cons {c : Char} (h : c ≠ '\r') (s : List Char) :
    unifyLines (c :: s) = c :: unifyLines s := by
  rw [unifyLines]
  · rintro _ rfl
    contradiction
  · exact h

theorem unifyLines_carriageReturn {s : List Char} (h : '\n' ∉ s) :
    unifyLines ('\r' :: s) = '\n' :: unifyLines s := by
  rw [unifyLines]
  rintro rest rfl
  exact h (List.mem_cons_self ..)

/-- Line ends are read as what they are, however they are spelled. -/
theorem unifyLines_write (e : LineEnd) {s : List Char} (h : '\r' ∉ s) :
    unifyLines (e.write s) = s := by
  induction s with
  | nil => rfl
  | cons c s ih =>
    rw [List.mem_cons, not_or] at h
    have rest := ih h.2
    rw [LineEnd.write_cons]
    by_cases ends : c = '\n'
    · subst ends
      rw [if_pos rfl]
      cases e with
      | feed =>
        rw [LineEnd.spelled, List.singleton_append, unifyLines_cons (by decide), rest]
      | carriageReturn =>
        rw [LineEnd.spelled, List.singleton_append,
          unifyLines_carriageReturn (LineEnd.feed_notMem_carriageReturn s), rest]
      | both =>
        rw [LineEnd.spelled, List.cons_append, List.singleton_append, unifyLines, rest]
    · rw [if_neg ends, List.singleton_append, unifyLines_cons (Ne.symm h.1), rest]

/-! ## Byte order marks -/

/-- Bytes that break off within the mark are no characters. -/
theorem eq_nil_of_encode_short {cs : List Char}
    (short : (cs.flatMap String.utf8EncodeChar).length < 3)
    (begins : cs.flatMap String.utf8EncodeChar <+: mark) : cs = [] := by
  cases cs with
  | nil => rfl
  | cons c cs =>
    obtain ⟨b, bs, bytes, read⟩ := next_encodeChar c (cs.flatMap String.utf8EncodeChar)
    rw [List.flatMap_cons, bytes] at short begins
    obtain ⟨after, split⟩ := begins
    match bs, short with
    | [], _ =>
      obtain ⟨rfl, -⟩ : b = 0xEF ∧ _ := List.cons.inj split
      cases read
    | [b'], _ =>
      obtain ⟨rfl, rfl, -⟩ : b = 0xEF ∧ b' = 0xBB ∧ after = [0xBF] := by simpa [mark] using split
      cases read

/-- A text that is stored without a mark begins with its bytes only if it begins with its character.
-/
theorem head?_of_mark_begins {cs : List Char}
    (begins : mark <+: cs.flatMap String.utf8EncodeChar) : cs.head? = some markCharacter := by
  cases cs with
  | nil => simp [mark] at begins
  | cons c cs =>
    obtain ⟨b, bs, bytes, read⟩ := next_encodeChar c (cs.flatMap String.utf8EncodeChar)
    obtain ⟨after, split⟩ := begins
    rw [List.flatMap_cons, bytes] at split
    obtain ⟨rfl, rfl⟩ : 0xEF = b ∧ 0xBB :: 0xBF :: after = bs := List.cons.inj split
    have first : next 0xEF (0xBB :: 0xBF :: after) = .ok (markCharacter, after) := rfl
    cases first.symm.trans read
    rfl

theorem decodeMarked_encode {cs : List Char} (h : cs.head? ≠ some markCharacter) :
    decodeMarked (cs.flatMap String.utf8EncodeChar) = .ok cs := by
  rw [decodeMarked]
  split
  · next short =>
    rw [Bool.and_eq_true, decide_eq_true_eq, List.isPrefixOf_iff_prefix] at short
    rw [eq_nil_of_encode_short short.1 short.2]
  · split
    · next begins => exact absurd (head?_of_mark_begins (List.isPrefixOf_iff_prefix.1 begins)) h
    · exact decode_encode cs

theorem decodeMarked_mark (cs : List Char) :
    decodeMarked (mark ++ cs.flatMap String.utf8EncodeChar) = .ok cs := by
  have long : ¬ (mark ++ cs.flatMap String.utf8EncodeChar).length < 3 := by simp [mark]
  have begins : mark.isPrefixOf (mark ++ cs.flatMap String.utf8EncodeChar) = true := by simp
  rw [decodeMarked, decide_eq_false long, Bool.false_and, if_neg Bool.false_ne_true, if_pos begins]
  exact decode_encode cs

theorem decodeMarked_bytes (w : Storage) {s : List Char} (h : s.head? ≠ some markCharacter) :
    decodeMarked (w.bytes s) = .ok (w.lineEnd.write s) := by
  rw [Storage.bytes]
  cases w.marked with
  | true => exact decodeMarked_mark _
  | false => exact decodeMarked_encode (LineEnd.head?_write_ne h)

end Utf8

end ModuleAtlas.Text
