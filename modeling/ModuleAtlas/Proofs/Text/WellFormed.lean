import ModuleAtlas.Proofs.Text.Utf8

/-!
# Which bytes are UTF-8

Bytes are UTF-8 when they are the encoding of some text. The decoder accepts these and no others.
Where bytes are not UTF-8, they begin with a text, and behind it stands something that is no
character: a byte that begins none, a sequence that breaks off, or a whole sequence whose number is
written too long or is not that of a character.

## Main definitions

* `WellFormed` — the bytes of a text.
* `IsSequence`, `assembled` — a first byte with those that it announces, and their number.
* `Malformed` — bytes that begin with no character, by what is wrong with them.
* `withoutMark`, `BreaksOffInMark` — what a byte order mark has to do with the bytes behind it.
-/
namespace ModuleAtlas.Text.Utf8

/-- The bytes of a text. -/
def WellFormed (bs : List UInt8) : Prop := ∃ cs : List Char, bs = cs.flatMap String.utf8EncodeChar

/-- A byte that goes on with a sequence. -/
def Continues (b : UInt8) : Prop := 0x80 ≤ b.toNat ∧ b.toNat < 0xC0

instance (b : UInt8) : Decidable (Continues b) := inferInstanceAs (Decidable (_ ∧ _))

/-- How many bytes a first byte announces behind it. -/
def announced? (first : UInt8) : Option Nat :=
  if first.toNat < 0x80 then some 0
  else if first.toNat < 0xC0 then none
  else if first.toNat < 0xE0 then some 1
  else if first.toNat < 0xF0 then some 2
  else if first.toNat < 0xF8 then some 3
  else none

/-- What a first byte gives to the number of its sequence. -/
def ownBits (first : UInt8) : Nat :=
  if first.toNat < 0x80 then first.toNat
  else if first.toNat < 0xE0 then first.toNat - 0xC0
  else if first.toNat < 0xF0 then first.toNat - 0xE0
  else first.toNat - 0xF0

/-- The number of a sequence: each byte behind the first gives six bits to it. -/
def assembled (first : UInt8) (behind : List UInt8) : Nat :=
  behind.foldl (fun n b => n * 64 + (b.toNat - 0x80)) (ownBits first)

/-- A first byte with all the bytes that it announces. -/
structure IsSequence (first : UInt8) (behind : List UInt8) : Prop where
  announced : announced? first = some behind.length
  continues : ∀ b ∈ behind, Continues b

/-- The least number that needs so many bytes behind the first. -/
def leastOf : Nat → Nat
  | 0 => 0
  | 1 => 0x80
  | 2 => 0x800
  | _ => 0x10000

/-- A number of a character that needs so many bytes behind the first. -/
structure IsNumber (count n : Nat) : Prop where
  least : leastOf count ≤ n
  noHalf : n < 0xD800 ∨ 0xDFFF < n
  great : n ≤ 0x10FFFF

/-- Bytes that begin with no character. -/
inductive Malformed : List UInt8 → Prop where
  /-- A byte that goes on with something that has not begun. -/
  | stray {b : UInt8} {bs : List UInt8} (h : Continues b) : Malformed (b :: bs)
  /-- A byte that stands in no text. -/
  | noFirst {b : UInt8} {bs : List UInt8} (h : 0xF8 ≤ b.toNat) : Malformed (b :: bs)
  /-- Fewer bytes than the first one announces. -/
  | truncated {first : UInt8} {behind bs : List UInt8} {n : Nat} (h : announced? first = some n)
      (continues : ∀ b ∈ behind, Continues b) (short : behind.length < n)
      (stops : ∀ b ∈ bs.head?, ¬ Continues b) : Malformed (first :: (behind ++ bs))
  /-- A number that fewer bytes can hold. -/
  | overlong {first : UInt8} {behind bs : List UInt8} (h : IsSequence first behind)
      (less : assembled first behind < leastOf behind.length) : Malformed (first :: (behind ++ bs))
  /-- The number of a half of a pair. -/
  | surrogate {first : UInt8} {behind bs : List UInt8} (h : IsSequence first behind)
      (half : 0xD800 ≤ assembled first behind ∧ assembled first behind ≤ 0xDFFF) :
      Malformed (first :: (behind ++ bs))
  | tooGreat {first : UInt8} {behind bs : List UInt8} (h : IsSequence first behind)
      (beyond : 0x10FFFF < assembled first behind) : Malformed (first :: (behind ++ bs))

/-! ## Sequences of bytes -/

/-- How many bytes are announced tells in which range the first byte lies. -/
theorem announced?_eq_some {first : UInt8} {n : Nat} (h : announced? first = some n) :
    (n = 0 ∧ first.toNat < 0x80 ∧ ownBits first = first.toNat) ∨
    (n = 1 ∧ (0xC0 ≤ first.toNat ∧ first.toNat < 0xE0) ∧ ownBits first = first.toNat - 0xC0) ∨
    (n = 2 ∧ (0xE0 ≤ first.toNat ∧ first.toNat < 0xF0) ∧ ownBits first = first.toNat - 0xE0) ∨
    (n = 3 ∧ (0xF0 ≤ first.toNat ∧ first.toNat < 0xF8) ∧ ownBits first = first.toNat - 0xF0) := by
  rw [announced?] at h
  rw [ownBits]
  split_ifs at h ⊢ <;> simp only [Option.some.injEq] at h <;> omega

/-- A sequence has one, two, three or four bytes, and its number is what their bits make up. -/
theorem IsSequence.cases {first : UInt8} {behind : List UInt8} (h : IsSequence first behind) :
    (behind = [] ∧ first.toNat < 0x80 ∧ assembled first behind = first.toNat) ∨
    (∃ b, behind = [b] ∧ (0xC0 ≤ first.toNat ∧ first.toNat < 0xE0) ∧ Continues b ∧
      assembled first behind = (first.toNat - 0xC0) * 64 + (b.toNat - 0x80)) ∨
    (∃ b c, behind = [b, c] ∧ (0xE0 ≤ first.toNat ∧ first.toNat < 0xF0) ∧
      (Continues b ∧ Continues c) ∧ assembled first behind =
        ((first.toNat - 0xE0) * 64 + (b.toNat - 0x80)) * 64 + (c.toNat - 0x80)) ∨
    ∃ b c d, behind = [b, c, d] ∧ (0xF0 ≤ first.toNat ∧ first.toNat < 0xF8) ∧
      (Continues b ∧ Continues c ∧ Continues d) ∧ assembled first behind =
        (((first.toNat - 0xF0) * 64 + (b.toNat - 0x80)) * 64 + (c.toNat - 0x80)) * 64 +
          (d.toNat - 0x80) := by
  obtain ⟨announced, continues⟩ := h
  rcases announced?_eq_some announced with
    ⟨n, ascii, own⟩ | ⟨n, range, own⟩ | ⟨n, range, own⟩ | ⟨n, range, own⟩
  · obtain rfl := List.length_eq_zero_iff.1 n
    exact .inl ⟨rfl, ascii, own⟩
  · obtain ⟨b, rfl⟩ := List.length_eq_one_iff.1 n
    exact .inr (.inl ⟨b, rfl, range, by simpa using continues, by rw [← own]; rfl⟩)
  · obtain ⟨b, c, rfl⟩ := List.length_eq_two.1 n
    exact .inr (.inr (.inl ⟨b, c, rfl, range, by simpa using continues, by rw [← own]; rfl⟩))
  · obtain ⟨b, c, d, rfl⟩ := List.length_eq_three.1 n
    exact .inr (.inr (.inr ⟨b, c, d, rfl, range, by simpa using continues, by rw [← own]; rfl⟩))

/-! ## Sequences and characters -/

theorem IsNumber.toNat_ofNat {count n : Nat} (h : IsNumber count n) : (Char.ofNat n).toNat = n := by
  have valid : n.isValidChar := by
    have noHalf := h.noHalf
    have great := h.great
    unfold Nat.isValidChar
    omega
  rw [Char.ofNat, dif_pos valid]
  rfl

theorem ofNat_eq {n : Nat} {b : UInt8} (h : n = b.toNat) : UInt8.ofNat n = b := by
  rw [h, UInt8.ofNat_toNat]

/-- The character with the number of a sequence is encoded as that sequence. -/
theorem encodeChar_assembled {first : UInt8} {behind : List UInt8} (h : IsSequence first behind)
    (number : IsNumber behind.length (assembled first behind)) :
    String.utf8EncodeChar (Char.ofNat (assembled first behind)) = first :: behind := by
  have code : (Char.ofNat (assembled first behind)).val.toNat = assembled first behind :=
    number.toNat_ofNat
  have least := number.least
  have great := number.great
  rw [String.utf8EncodeChar, code]
  rcases h.cases with ⟨rfl, ascii, bits⟩ | ⟨b, rfl, range, continues, bits⟩ |
      ⟨b, c, rfl, range, continues, bits⟩ | ⟨b, c, d, rfl, range, continues, bits⟩ <;>
    rw [bits] at least great ⊢ <;>
    simp only [leastOf, List.length_cons, List.length_nil] at least
  · rw [if_pos (by omega), ofNat_eq rfl]
  · rw [Continues] at continues
    rw [if_neg (by omega), if_pos (by omega), ofNat_eq (b := first) (by omega),
      ofNat_eq (b := b) (by omega)]
  · simp only [Continues] at continues
    rw [if_neg (by omega), if_neg (by omega), if_pos (by omega), ofNat_eq (b := first) (by omega),
      ofNat_eq (b := b) (by omega), ofNat_eq (b := c) (by omega)]
  · simp only [Continues] at continues
    rw [if_neg (by omega), if_neg (by omega), if_neg (by omega), ofNat_eq (b := first) (by omega),
      ofNat_eq (b := b) (by omega), ofNat_eq (b := c) (by omega), ofNat_eq (b := d) (by omega)]

/-! ## What the decoder reads -/

/-- What goes on with a character, when the decoder reads it. -/
theorem exists_of_continuation_eq_ok {value count read : Nat} {bs rest : List UInt8} {c : Char}
    (h : continuation 0x80 0xBF value count read bs = .ok (c, rest)) :
    ∃ behind, bs = behind ++ rest ∧ behind.length = count ∧ (∀ b ∈ behind, Continues b) ∧
      c = Char.ofNat (behind.foldl (fun n b => n * 64 + (b.toNat - 0x80)) value) := by
  induction count generalizing value read bs with
  | zero =>
    cases h
    exact ⟨[], rfl, rfl, List.forall_mem_nil _, rfl⟩
  | succ count ih =>
    cases bs with
    | nil => cases h
    | cons b bs =>
      rw [continuation] at h
      split at h
      · next within =>
        simp only [UInt8.le_iff_toNat_le, UInt8.reduceToNat] at within
        obtain ⟨behind, rfl, rfl, continues, rfl⟩ := ih h
        have bits : b.toNat % 0x40 = b.toNat - 0x80 := by omega
        refine ⟨b :: behind, rfl, rfl, List.forall_mem_cons.2 ⟨⟨within.1, by omega⟩, continues⟩, ?_⟩
        rw [List.foldl_cons, bits]
      · cases h

/-- What the decoder expects behind a first byte. -/
structure Expects (first low high : UInt8) (count : Nat) : Prop where
  announced : announced? first = some (count + 1)
  start : 0xC2 ≤ first.toNat ∧ first.toNat < 0xF5
  bounds : 0x80 ≤ low.toNat ∧ high.toNat < 0xC0
  long : (first.toNat = 0xE0 → 0xA0 ≤ low.toNat) ∧ (first.toNat = 0xF0 → 0x90 ≤ low.toNat)
  half : first.toNat = 0xED → high.toNat < 0xA0
  great : first.toNat = 0xF4 → high.toNat < 0x90

theorem expects_of_follow? {first low high : UInt8} {count : Nat}
    (h : follow? first = some (low, high, count)) :
    ∃ n, count = n + 1 ∧ Expects first low high n := by
  simp only [follow?, UInt8.lt_iff_toNat_lt, ← UInt8.toNat_inj, UInt8.reduceToNat] at h
  split_ifs at h <;> simp only [Option.some.injEq, Prod.mk.injEq] at h <;>
    obtain ⟨rfl, rfl, rfl⟩ := h <;>
    exact ⟨_, rfl, by grind [announced?], by omega, by decide, by grind, by grind, by grind⟩

theorem leadingBits_eq {first : UInt8} {count : Nat} (h : announced? first = some (count + 1)) :
    leadingBits first (count + 1) = ownBits first := by
  rcases announced?_eq_some h with ⟨n, -⟩ | ⟨n, range, own⟩ | ⟨n, range, own⟩ | ⟨n, range, own⟩
  · omega
  · obtain rfl : count = 0 := by omega
    show first.toNat % 32 = _
    omega
  · obtain rfl : count = 1 := by omega
    show first.toNat % 16 = _
    omega
  · obtain rfl : count = 2 := by omega
    show first.toNat % 8 = _
    omega

/-- What the decoder expects are sequences with the numbers of characters. -/
theorem Expects.isNumber {first low high b : UInt8} {behind : List UInt8}
    (h : Expects first low high behind.length) (sequence : IsSequence first (b :: behind))
    (within : low.toNat ≤ b.toNat ∧ b.toNat ≤ high.toNat) :
    IsNumber (b :: behind).length (assembled first (b :: behind)) := by
  obtain ⟨-, start, bounds, long, half, great⟩ := h
  rcases sequence.cases with ⟨none, -⟩ | ⟨b', one, range, continues, bits⟩ |
      ⟨b', c, two, range, continues, bits⟩ | ⟨b', c, d, three, range, continues, bits⟩
  · cases none
  · cases one
    rw [bits]
    rw [Continues] at continues
    exact ⟨by simp only [leastOf, List.length_cons, List.length_nil]; omega, by omega, by omega⟩
  · cases two
    rw [bits]
    simp only [Continues] at continues
    exact ⟨by simp only [leastOf, List.length_cons, List.length_nil]; omega, by omega, by omega⟩
  · cases three
    rw [bits]
    simp only [Continues] at continues
    exact ⟨by simp only [leastOf, List.length_cons, List.length_nil]; omega, by omega, by omega⟩

/-- What the decoder reads is a sequence with the number of the character. -/
theorem exists_of_next_eq_ok {first : UInt8} {bs rest : List UInt8} {c : Char}
    (h : next first bs = .ok (c, rest)) :
    ∃ behind, bs = behind ++ rest ∧ IsSequence first behind ∧
      IsNumber behind.length (assembled first behind) ∧
        c = Char.ofNat (assembled first behind) := by
  rw [next] at h
  split at h
  · next ascii =>
    rw [UInt8.lt_iff_toNat_lt] at ascii
    have low : first.toNat < 0x80 := ascii
    have bits : assembled first [] = first.toNat := by simp [assembled, ownBits, low]
    cases h
    refine ⟨[], rfl, ⟨by simp [announced?, low], List.forall_mem_nil _⟩, ?_, by rw [bits]⟩
    rw [bits]
    exact ⟨Nat.zero_le _, by omega, by omega⟩
  · cases follows : follow? first with
    | none => simp [follows] at h
    | some bounds =>
      obtain ⟨low, high, count⟩ := bounds
      obtain ⟨count, rfl, expects⟩ := expects_of_follow? follows
      simp only [follows] at h
      cases bs with
      | nil => cases h
      | cons b bs =>
        rw [continuation] at h
        split at h
        · next within =>
          rw [UInt8.le_iff_toNat_le, UInt8.le_iff_toNat_le] at within
          obtain ⟨behind, rfl, rfl, continues, rfl⟩ := exists_of_continuation_eq_ok h
          have bounds := expects.bounds
          have goesOn : ∀ x ∈ b :: behind, Continues x :=
            List.forall_mem_cons.2 ⟨⟨by omega, by omega⟩, continues⟩
          have sequence : IsSequence first (b :: behind) := ⟨expects.announced, goesOn⟩
          have bits : b.toNat % 0x40 = b.toNat - 0x80 := by omega
          refine ⟨b :: behind, rfl, sequence, expects.isNumber sequence within, ?_⟩
          rw [leadingBits_eq expects.announced, bits, assembled, List.foldl_cons]
        · cases h

/-- The decoder reads a character when the bytes begin with its encoding. -/
theorem next_eq_ok {first : UInt8} {bs rest : List UInt8} {c : Char} :
    next first bs = .ok (c, rest) ↔ first :: bs = String.utf8EncodeChar c ++ rest := by
  constructor
  · intro h
    obtain ⟨behind, rfl, sequence, number, rfl⟩ := exists_of_next_eq_ok h
    rw [encodeChar_assembled sequence number, List.cons_append]
  · intro h
    obtain ⟨b, bs', bytes, read⟩ := next_encodeChar c rest
    cases h.trans bytes
    exact read

/-- A character is encoded as a sequence with its number. -/
theorem exists_sequence (c : Char) : ∃ first behind, String.utf8EncodeChar c = first :: behind ∧
    IsSequence first behind ∧ IsNumber behind.length (assembled first behind) := by
  obtain ⟨first, behind, bytes, read⟩ := next_encodeChar c []
  obtain ⟨behind, rfl, sequence, number, -⟩ := exists_of_next_eq_ok read
  simp only [List.append_nil] at bytes
  exact ⟨first, behind, bytes, sequence, number⟩

/-! ## Bytes that begin with no character -/

theorem IsSequence.unique {first : UInt8} {behind behind' bs bs' : List UInt8}
    (h : IsSequence first behind) (h' : IsSequence first behind')
    (same : behind ++ bs = behind' ++ bs') : behind = behind' := by
  have length := h.announced.symm.trans h'.announced
  exact (List.append_inj same (Option.some.inj length)).1

/-- What is truncated stops before the bytes that a sequence has. -/
theorem IsSequence.continues_of_short {first : UInt8} {behind read bs rest : List UInt8}
    (h : IsSequence first behind) (same : read ++ bs = behind ++ rest)
    (short : read.length < behind.length) : ∃ b ∈ bs.head?, Continues b := by
  rcases List.append_eq_append_iff.1 same with ⟨more, rfl, rfl⟩ | ⟨more, rfl, -⟩
  · cases more with
    | nil => simp at short
    | cons b more => exact ⟨b, rfl, h.continues b (by simp)⟩
  · simp only [List.length_append] at short
    omega

theorem Malformed.no_character {bs : List UInt8} (h : Malformed bs) (c : Char)
    (rest : List UInt8) : bs ≠ String.utf8EncodeChar c ++ rest := by
  obtain ⟨first, behind, bytes, sequence, number⟩ := exists_sequence c
  rw [bytes, List.cons_append]
  have range := announced?_eq_some sequence.announced
  intro same
  cases h with
  | stray h =>
    obtain ⟨rfl, -⟩ := List.cons.inj same
    rw [Continues] at h
    omega
  | noFirst h =>
    obtain ⟨rfl, -⟩ := List.cons.inj same
    omega
  | truncated h continues short stops =>
    obtain ⟨rfl, tails⟩ := List.cons.inj same
    cases h.symm.trans sequence.announced
    obtain ⟨b, head, goesOn⟩ := sequence.continues_of_short tails short
    exact stops b head goesOn
  | overlong h less =>
    obtain ⟨rfl, tails⟩ := List.cons.inj same
    cases h.unique sequence tails
    exact Nat.not_le.2 less number.least
  | surrogate h half =>
    obtain ⟨rfl, tails⟩ := List.cons.inj same
    cases h.unique sequence tails
    have noHalf := number.noHalf
    omega
  | tooGreat h beyond =>
    obtain ⟨rfl, tails⟩ := List.cons.inj same
    cases h.unique sequence tails
    exact Nat.not_le.2 beyond number.great

/-- Bytes go on with a character as far as is announced, or they stop before. -/
theorem exists_behind (n : Nat) (bs : List UInt8) : ∃ behind rest, bs = behind ++ rest ∧
    (∀ b ∈ behind, Continues b) ∧
      (behind.length = n ∨ behind.length < n ∧ ∀ b ∈ rest.head?, ¬ Continues b) := by
  induction n generalizing bs with
  | zero => exact ⟨[], bs, rfl, List.forall_mem_nil _, .inl rfl⟩
  | succ n ih =>
    cases bs with
    | nil => exact ⟨[], [], rfl, List.forall_mem_nil _, .inr ⟨Nat.succ_pos n, by simp⟩⟩
    | cons b bs =>
      by_cases h : Continues b
      · obtain ⟨behind, rest, rfl, continues, ends⟩ := ih bs
        refine ⟨b :: behind, rest, rfl, List.forall_mem_cons.2 ⟨h, continues⟩, ?_⟩
        simpa using ends
      · exact ⟨[], b :: bs, rfl, List.forall_mem_nil _, .inr ⟨Nat.succ_pos n, by simpa using h⟩⟩

/-- Bytes begin with a character, or with one of the things that are none. -/
theorem character_or_malformed (first : UInt8) (bs : List UInt8) :
    (∃ c rest, first :: bs = String.utf8EncodeChar c ++ rest) ∨ Malformed (first :: bs) := by
  cases announced : announced? first with
  | none =>
    rw [announced?] at announced
    by_cases high : 0xF8 ≤ first.toNat
    · exact .inr (.noFirst high)
    · refine .inr (.stray ?_)
      rw [Continues]
      split_ifs at announced <;> omega
  | some n =>
    obtain ⟨behind, rest, rfl, continues, rfl | ⟨short, stops⟩⟩ := exists_behind n bs
    · have sequence : IsSequence first behind := ⟨announced, continues⟩
      by_cases least : leastOf behind.length ≤ assembled first behind
      · by_cases noHalf : assembled first behind < 0xD800 ∨ 0xDFFF < assembled first behind
        · by_cases great : assembled first behind ≤ 0x10FFFF
          · have bytes := encodeChar_assembled sequence ⟨least, noHalf, great⟩
            exact .inl ⟨_, rest, by rw [bytes, List.cons_append]⟩
          · exact .inr (.tooGreat sequence (Nat.not_le.1 great))
        · exact .inr (.surrogate sequence (by omega))
      · exact .inr (.overlong sequence (Nat.not_le.1 least))
    · exact .inr (.truncated announced continues short stops)

/-! ## Texts -/

theorem wellFormed_nil : WellFormed [] := ⟨[], rfl⟩

theorem wellFormed_append (c : Char) {rest : List UInt8} :
    WellFormed (String.utf8EncodeChar c ++ rest) ↔ WellFormed rest := by
  constructor
  · rintro ⟨cs, same⟩
    obtain ⟨b, bs, bytes, read⟩ := next_encodeChar c rest
    cases cs with
    | nil => simp [bytes] at same
    | cons c' cs =>
      obtain ⟨b', bs', bytes', read'⟩ :=
        next_encodeChar c' (cs.flatMap String.utf8EncodeChar)
      rw [List.flatMap_cons, bytes'] at same
      cases bytes.symm.trans same
      cases read.symm.trans read'
      exact ⟨cs, rfl⟩
  · rintro ⟨cs, rfl⟩
    exact ⟨c :: cs, rfl⟩

theorem length_lt_of_character {bs rest : List UInt8} {c : Char}
    (h : bs = String.utf8EncodeChar c ++ rest) : rest.length < bs.length := by
  have := List.length_pos_iff.2 (String.utf8EncodeChar_ne_nil (c := c))
  rw [h, List.length_append]
  omega

/-- Bytes are a text, or behind a text there is something that is no character. -/
theorem wellFormed_or_malformed (bs : List UInt8) : WellFormed bs ∨
    ∃ before after, bs = before ++ after ∧ WellFormed before ∧ Malformed after := by
  induction size : bs.length using Nat.strongRecOn generalizing bs with
  | ind n ih =>
    cases bs with
    | nil => exact .inl wellFormed_nil
    | cons first tail =>
      rcases character_or_malformed first tail with ⟨c, rest, same⟩ | malformed
      · have shorter : rest.length < n := size ▸ length_lt_of_character same
        rw [same]
        rcases ih _ shorter rest rfl with text | ⟨before, after, rfl, text, malformed⟩
        · exact .inl ((wellFormed_append c).2 text)
        · exact .inr ⟨_, after, (List.append_assoc ..).symm, (wellFormed_append c).2 text,
            malformed⟩
      · exact .inr ⟨[], _, rfl, wellFormed_nil, malformed⟩

theorem not_wellFormed_iff {bs : List UInt8} : ¬ WellFormed bs ↔
    ∃ before after, bs = before ++ after ∧ WellFormed before ∧ Malformed after := by
  refine ⟨(wellFormed_or_malformed bs).resolve_left, ?_⟩
  rintro ⟨_, after, rfl, ⟨cs, rfl⟩, malformed⟩
  induction cs with
  | nil =>
    rintro ⟨cs, rfl⟩
    cases cs with
    | nil => cases malformed
    | cons c cs => exact malformed.no_character c _ List.flatMap_cons
  | cons c cs ih => rwa [List.flatMap_cons, List.append_assoc, wellFormed_append]

/-- The decoder accepts the encodings of texts and nothing else. -/
theorem decodeFrom_eq_ok {fuel : Nat} {bs : List UInt8} (enough : bs.length ≤ fuel) (start : Nat)
    (read cs : List Char) : decodeFrom fuel start bs read = .ok cs ↔
      ∃ rest, cs = read.reverse ++ rest ∧ bs = rest.flatMap String.utf8EncodeChar := by
  constructor
  · fun_induction decodeFrom fuel start bs read with
    | case1 fuel start read =>
      rintro ⟨⟩
      exact ⟨[], by simp, rfl⟩
    | case2 => simp at enough
    | case3 fuel start b bs read c rest next ih =>
      intro done
      have same := next_eq_ok.1 next
      have shorter := length_lt_of_character same
      obtain ⟨rest, rfl, rfl⟩ := ih (by omega) done
      exact ⟨c :: rest, by simp, by rw [same, List.flatMap_cons]⟩
    | case4 => nofun
  · rintro ⟨rest, rfl, rfl⟩
    exact decodeFrom_encode (Nat.le_trans (length_le_encode rest) enough) start read

theorem decode_eq_ok {bs : List UInt8} {cs : List Char} :
    decode bs = .ok cs ↔ bs = cs.flatMap String.utf8EncodeChar := by
  rw [decode, decodeFrom_eq_ok (Nat.le_refl _)]
  simp

theorem decode_eq_error_iff {bs : List UInt8} :
    (∃ f, decode bs = .error f) ↔ ¬ WellFormed bs := by
  rw [WellFormed]
  simp only [← decode_eq_ok]
  cases decode bs <;> simp

/-! ## Byte order marks -/

/-- What stands behind a byte order mark, or all if there is none. -/
def withoutMark (bs : List UInt8) : List UInt8 :=
  if mark.isPrefixOf bs then bs.drop 3 else bs

/-- One or two bytes of a mark, and nothing else. -/
def BreaksOffInMark (bs : List UInt8) : Prop := bs = [0xEF] ∨ bs = [0xEF, 0xBB]

instance (bs : List UInt8) : Decidable (BreaksOffInMark bs) := inferInstanceAs (Decidable (_ ∨ _))

theorem decodeMarked_of_breaksOff {bs : List UInt8} (h : BreaksOffInMark bs) :
    decodeMarked bs = .ok [] := by
  rcases h with rfl | rfl <;> rfl

/-- Bytes that do not break off in a mark are decoded behind it. -/
theorem decodeMarked_eq {bs : List UInt8} (h : ¬ BreaksOffInMark bs) :
    decodeMarked bs = decode (withoutMark bs) := by
  rw [decodeMarked, withoutMark]
  split
  · next short =>
    rw [Bool.and_eq_true, decide_eq_true_eq, List.isPrefixOf_iff_prefix] at short
    obtain ⟨few, after, split⟩ := short
    match bs with
    | [] => rfl
    | [b] =>
      obtain ⟨rfl, -⟩ : b = 0xEF ∧ _ := List.cons.inj split
      exact absurd (.inl rfl) h
    | [b, c] =>
      obtain ⟨rfl, rfl, -⟩ : b = 0xEF ∧ c = 0xBB ∧ after = [0xBF] := by simpa [mark] using split
      exact absurd (.inr rfl) h
  · split <;> rfl

end ModuleAtlas.Text.Utf8
