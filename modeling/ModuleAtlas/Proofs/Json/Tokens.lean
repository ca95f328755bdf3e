import ModuleAtlas.Json.Printer
import ModuleAtlas.Json.Reader
import Mathlib.Tactic.IntervalCases

/-!
# Strings and numbers in JSON texts

What is written for a string or a number is read as that string or number, and reading ends where
it ends. A string says itself where it ends. A number ends in front of text that does not go on
with it.
-/
namespace ModuleAtlas.Json

namespace Reader

/-! ## Strings -/

theorem hexDigit?_hexDigit {n : Nat} (h : n < 16) : hexDigit? (Printer.hexDigit n) = some n := by
  interval_cases n <;> rfl

/-- The escape of a control character by its number. -/
theorem escape?_control {c : Char} (h : c.toNat < 0x20) (rest : List Char) :
    escape? ('u' :: '0' :: '0' :: Printer.hexDigit (c.toNat / 16) ::
      Printer.hexDigit (c.toNat % 16) :: rest) = some (c, rest) := by
  have high : hexDigit? (Printer.hexDigit (c.toNat / 16)) = some (c.toNat / 16) :=
    hexDigit?_hexDigit (by omega)
  have low : hexDigit? (Printer.hexDigit (c.toNat % 16)) = some (c.toNat % 16) :=
    hexDigit?_hexDigit (by omega)
  have zero : hexDigit? '0' = some 0 := rfl
  have whole : ((0 * 16 + 0) * 16 + c.toNat / 16) * 16 + c.toNat % 16 = c.toNat := by omega
  have noHigh : ¬ (0xD800 ≤ c.toNat ∧ c.toNat < 0xDC00) := by omega
  have noLow : ¬ (0xDC00 ≤ c.toNat ∧ c.toNat < 0xE000) := by omega
  simp only [escape?, unit?, zero, high, low, Option.bind_eq_bind, Option.bind_some,
    Option.pure_def, whole, noHigh, noLow, if_false, Char.ofNat_toNat]

/-- What is written for a character inside a string is read as that character. -/
theorem characters_character (fuel : Nat) (c : Char) (rest acc : List Char) :
    characters (fuel + 1) (Printer.character c ++ rest) acc = characters fuel rest (c :: acc) := by
  unfold Printer.character
  split_ifs with quote backslash backspace feed newline carriage tab control
  case pos => subst quote; rfl
  case pos => subst backslash; rfl
  case pos => subst backspace; rfl
  case pos => subst feed; rfl
  case pos => subst newline; rfl
  case pos => subst carriage; rfl
  case pos => subst tab; rfl
  case pos =>
    have escaped := escape?_control control rest
    simp [characters, escaped]
  case neg => simp [characters, quote, backslash, control]

theorem characters_flatMap {cs : List Char} {fuel : Nat} (h : cs.length < fuel)
    (rest acc : List Char) :
    characters fuel (cs.flatMap Printer.character ++ '"' :: rest) acc =
      some (String.ofList (acc.reverse ++ cs), rest) := by
  induction cs generalizing fuel acc with
  | nil =>
    obtain ⟨fuel, rfl⟩ := Nat.exists_eq_add_of_lt h
    simp [characters]
  | cons c cs ih =>
    obtain ⟨fuel, rfl⟩ : ∃ k, fuel = k + 1 := ⟨fuel - 1, by omega⟩
    rw [List.flatMap_cons, List.append_assoc, characters_character,
      ih (by simpa using h)]
    simp

theorem length_character_pos (c : Char) : 0 < (Printer.character c).length := by
  unfold Printer.character
  split_ifs <;> simp

theorem length_le_flatMap_character (cs : List Char) :
    cs.length ≤ (cs.flatMap Printer.character).length := by
  induction cs with
  | nil => simp
  | cons c cs ih =>
    have := length_character_pos c
    simp only [List.flatMap_cons, List.length_append, List.length_cons]
    omega

/-- What is written for a string is read as that string, whatever follows. -/
theorem string?_string {s : String} {fuel : Nat} (h : (Printer.string s).length ≤ fuel)
    (rest : List Char) : string? fuel (Printer.string s ++ rest) = some (s, rest) := by
  have short := length_le_flatMap_character s.toList
  have enough : s.toList.length < fuel := by
    simp only [Printer.string, List.cons_append, List.length_cons, List.length_append] at h
    omega
  simpa [Printer.string, string?] using characters_flatMap enough rest []

/-! ## Digits -/

theorem isDigit_of_mem_toDigits {n : Nat} {c : Char} (h : c ∈ Nat.toDigits 10 n) :
    isDigit c = true := by
  have digit := Nat.isDigit_of_mem_toDigits (by decide) (le_refl 10) h
  simp only [Char.isDigit, Bool.and_eq_true, decide_eq_true_eq] at digit
  exact decide_eq_true ⟨digit.1, digit.2⟩

theorem natural_toDigits (n : Nat) : natural 0 (Nat.toDigits 10 n) = n := by
  have read := Nat.ofDigitChars_ten_toDigits (n := n)
  simpa only [Nat.ofDigitChars_eq_foldl, natural, Nat.mul_comm 10] using read

/-- The digits of a number begin with zero only if there is no other digit. -/
theorem eq_nil_of_toDigits {n : Nat} {ds : List Char} (h : Nat.toDigits 10 n = '0' :: ds) :
    ds = [] := by
  induction n using Nat.strongRecOn generalizing ds with
  | ind n ih =>
    rcases Nat.lt_or_ge n 10 with small | large
    · rw [Nat.toDigits_of_lt_base small] at h
      exact (List.cons.inj h).2.symm
    · rw [Nat.toDigits_of_base_le (by decide) large] at h
      cases front : Nat.toDigits 10 (n / 10) with
      | nil => exact absurd front Nat.toDigits_ne_nil
      | cons c cs =>
        obtain ⟨rfl, -⟩ := List.cons.inj (front ▸ h)
        -- Without its last digit the number would be zero.
        have alone := ih (n / 10) (by omega) front
        have zero := natural_toDigits (n / 10)
        rw [front, alone] at zero
        have : n / 10 = 0 := zero.symm
        omega

/-- No digit stands in front. -/
def NoDigit (s : List Char) : Prop := ∀ c ∈ s.head?, isDigit c = false

theorem digits?_toDigits (n : Nat) {rest : List Char} (h : NoDigit rest) :
    digits? (Nat.toDigits 10 n ++ rest) = some (Nat.toDigits 10 n, rest) := by
  have all : ∀ c ∈ Nat.toDigits 10 n, isDigit c = true := fun _ => isDigit_of_mem_toDigits
  have stops : rest.takeWhile isDigit = [] ∧ rest.dropWhile isDigit = rest := by
    cases rest with
    | nil => exact ⟨rfl, rfl⟩
    | cons c rest =>
      have := h c rfl
      simp [this]
  rw [digits?, List.takeWhile_append_of_pos all, List.dropWhile_append_of_pos all, stops.1,
    stops.2, List.append_nil]
  cases digits : Nat.toDigits 10 n with
  | nil => exact absurd digits Nat.toDigits_ne_nil
  | cons => rfl

theorem wholePart?_toDigits (n : Nat) {rest : List Char} (h : NoDigit rest) :
    wholePart? (Nat.toDigits 10 n ++ rest) = some (Nat.toDigits 10 n, rest) := by
  rw [wholePart?, digits?_toDigits n h]
  split
  · next d ds _ leading =>
    obtain ⟨digits, -⟩ := Prod.mk.inj (Option.some.inj leading)
    cases eq_nil_of_toDigits digits
  · rfl

/-! ## Numbers -/

/-- Text that does not go on with a number: nothing, a blank, or the end of a part of a value. -/
def SetOff (rest : List Char) : Prop :=
  ∀ c ∈ rest.head?, isBlank c = true ∨ c = ',' ∨ c = ']' ∨ c = '\x7d'

theorem SetOff.noDigit {rest : List Char} (h : SetOff rest) : NoDigit rest := by
  intro c hc
  obtain blank | rfl | rfl | rfl := h c hc
  · simp only [isBlank, Bool.or_eq_true, decide_eq_true_eq] at blank
    obtain ((rfl | rfl) | rfl) | rfl := blank <;> rfl
  all_goals rfl

/-- Neither a fraction nor a power of ten follows. -/
theorem SetOff.fraction_power {rest : List Char} (h : SetOff rest) :
    fraction? rest = some (none, rest) ∧ power? rest = some (none, rest) := by
  cases rest with
  | nil => exact ⟨rfl, rfl⟩
  | cons c rest =>
    obtain blank | rfl | rfl | rfl := h c rfl
    · simp only [isBlank, Bool.or_eq_true, decide_eq_true_eq] at blank
      obtain ((rfl | rfl) | rfl) | rfl := blank <;> exact ⟨rfl, rfl⟩
    all_goals exact ⟨rfl, rfl⟩

/-- A number is written with a sign if it is negative and the digits of its size. -/
theorem integer_eq (n : Int) : Printer.integer n =
    if n < 0 then '-' :: Nat.toDigits 10 n.natAbs else Nat.toDigits 10 n.natAbs := by
  have text : toString n = n.repr := rfl
  rw [Printer.integer, text, Int.repr_eq_if]
  by_cases negative : n < 0
  · have size : (-n).toNat = n.natAbs := by omega
    rw [if_neg (by omega), if_pos negative, Nat.repr_eq_ofList_toDigits, size]
    simp
  · have size : n.toNat = n.natAbs := by omega
    rw [if_pos (by omega), if_neg negative, Nat.repr_eq_ofList_toDigits, size]
    simp

/-- A digit stands in front of the digits of a number. -/
theorem exists_digit (n : Nat) : ∃ c ds, Nat.toDigits 10 n = c :: ds ∧ isDigit c = true := by
  cases digits : Nat.toDigits 10 n with
  | nil => exact absurd digits Nat.toDigits_ne_nil
  | cons c ds => exact ⟨c, ds, rfl, isDigit_of_mem_toDigits (digits ▸ List.mem_cons_self)⟩

theorem number?_integer (n : Int) (rest : List Char) : number? (Printer.integer n ++ rest) =
    unsigned? (n < 0) (Nat.toDigits 10 n.natAbs ++ rest) := by
  obtain ⟨c, ds, digits, digit⟩ := exists_digit n.natAbs
  rw [integer_eq]
  by_cases negative : n < 0
  · have noInfinity : after? "Infinity".toList (c :: (ds ++ rest)) = none := by
      have other : ('I' = c) = False := by
        simp only [eq_iff_iff, iff_false]
        rintro rfl
        exact absurd digit (by decide)
      simp [after?, other]
    rw [if_pos negative, digits, List.cons_append, List.cons_append, number?, noInfinity]
    simp [negative]
  · rw [if_neg negative, digits, List.cons_append, number?]
    · simp [negative]
    · rintro s head
      obtain ⟨rfl, -⟩ := List.cons.inj head
      exact absurd digit (by decide)

theorem sign_natAbs (n : Int) :
    (if decide (n < 0) = true then -(n.natAbs : Int) else n.natAbs) = n := by
  split_ifs with negative <;> simp only [decide_eq_true_eq] at negative <;> omega

/-- What is written for an integer is read as that integer. -/
theorem number?_int (n : Int) {rest : List Char} (h : SetOff rest) :
    number? (Printer.integer n ++ rest) = some (.int n, rest) := by
  obtain ⟨fraction, power⟩ := h.fraction_power
  rw [number?_integer, unsigned?, wholePart?_toDigits _ h.noDigit]
  simp only [Option.bind_eq_bind, Option.bind_some, fraction, power, Option.getD_none,
    natural_toDigits]
  rw [natural, List.foldl_nil, sign_natAbs]
  rfl

/-- What is written for a power of ten is read as that power. -/
theorem power?_integer (e : Int) {rest : List Char} (h : NoDigit rest) :
    power? ('e' :: Printer.integer e ++ rest) = some (some e, rest) := by
  obtain ⟨c, ds, digits, digit⟩ := exists_digit e.natAbs
  have sign := sign_natAbs e
  rw [integer_eq]
  by_cases negative : e < 0
  · simp only [negative, decide_true, if_true] at sign ⊢
    simp only [power?, List.cons_append, true_or, if_true, digits?_toDigits _ h, Option.map_some,
      natural_toDigits, sign]
  · simp only [negative, decide_false, Bool.false_eq_true, if_false] at sign ⊢
    have read := digits?_toDigits e.natAbs h
    have noSign : ∀ d, isDigit d = false → ∀ s, c :: (ds ++ rest) ≠ d :: s := by
      rintro d other s head
      exact absurd (List.cons.inj head).1 (by rintro rfl; simp [digit] at other)
    have value := natural_toDigits e.natAbs
    rw [digits] at read value ⊢
    simp only [List.cons_append] at read ⊢
    rw [power?]
    · simp [read, value, sign]
    · exact noSign '-' rfl
    · exact noSign '+' rfl

/-- What is written for a number with a power of ten is read as that number. -/
theorem number?_real (m e : Int) {rest : List Char} (h : SetOff rest) :
    number? (Printer.integer m ++ 'e' :: Printer.integer e ++ rest) =
      some (.real m e, rest) := by
  have mark : NoDigit ('e' :: Printer.integer e ++ rest) := by
    rintro c ⟨⟩
    rfl
  have power := power?_integer e h.noDigit
  have fraction : fraction? ('e' :: Printer.integer e ++ rest) =
      some (none, 'e' :: Printer.integer e ++ rest) := rfl
  rw [List.append_assoc, number?_integer, unsigned?, wholePart?_toDigits _ mark]
  simp only [Option.bind_eq_bind, Option.bind_some, fraction, power, Option.getD_none,
    Option.getD_some, natural_toDigits, List.length_nil, Nat.cast_zero, sub_zero]
  rw [natural, List.foldl_nil, sign_natAbs]
  rfl

end Reader

end ModuleAtlas.Json
