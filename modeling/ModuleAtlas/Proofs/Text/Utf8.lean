import ModuleAtlas.Text.Utf8
import Mathlib.Data.List.Basic

/-!
# UTF-8 of characters

The bytes of a text are read as that text.
-/
namespace ModuleAtlas.Text.Utf8

/-! ## First bytes -/

theorem toNat_ofNat {n : Nat} (h : n < 256) : (UInt8.ofNat n).toNat = n := by
  simpa using h

theorem follow?_two {n : Nat} (h : 0xC2 ≤ n ∧ n < 0xE0) :
    follow? (UInt8.ofNat n) = some (0x80, 0xBF, 1) := by
  have byte : (UInt8.ofNat n).toNat = n := toNat_ofNat (by omega)
  simp only [follow?, UInt8.lt_iff_toNat_lt, byte, UInt8.reduceToNat]
  rw [if_neg (by omega), if_pos (by omega)]

/-- The second of three bytes has a bound of its own behind the least first byte, and behind the one
before the surrogates. -/
theorem follow?_three {n : Nat} (h : 0xE0 ≤ n ∧ n < 0xF0) : follow? (UInt8.ofNat n) =
    some (if n = 0xE0 then 0xA0 else 0x80, if n = 0xED then 0x9F else 0xBF, 2) := by
  have byte : (UInt8.ofNat n).toNat = n := toNat_ofNat (by omega)
  simp only [follow?, UInt8.lt_iff_toNat_lt, ← UInt8.toNat_inj, byte, UInt8.reduceToNat]
  rw [if_neg (by omega), if_neg (by omega)]
  split_ifs <;> first | rfl | omega

/-- So has the second of four bytes behind the least first byte and behind the greatest. -/
theorem follow?_four {n : Nat} (h : 0xF0 ≤ n ∧ n < 0xF5) : follow? (UInt8.ofNat n) =
    some (if n = 0xF0 then 0x90 else 0x80, if n = 0xF4 then 0x8F else 0xBF, 3) := by
  have byte : (UInt8.ofNat n).toNat = n := toNat_ofNat (by omega)
  simp only [follow?, UInt8.lt_iff_toNat_lt, ← UInt8.toNat_inj, byte, UInt8.reduceToNat]
  rw [if_neg (by omega), if_neg (by omega), if_neg (by omega), if_neg (by omega),
    if_neg (by omega)]
  split_ifs <;> first | rfl | omega

/-! ## Characters -/

theorem next_ascii {n : Nat} (h : n < 0x80) (bs : List UInt8) :
    next (UInt8.ofNat n) bs = .ok (Char.ofNat n, bs) := by
  have byte : (UInt8.ofNat n).toNat = n := toNat_ofNat (by omega)
  have ascii : UInt8.ofNat n < 0x80 := by simp [UInt8.lt_iff_toNat_lt, byte, h]
  rw [next, if_pos ascii, byte]

/-- A first byte that others follow is read as its leading bits. -/
theorem next_ofNat {n : Nat} (h : 0x80 ≤ n ∧ n < 256) {low high : UInt8} {count : Nat}
    (follows : follow? (UInt8.ofNat n) = some (low, high, count)) (bs : List UInt8) :
    next (UInt8.ofNat n) bs = continuation low high (n % (0x40 >>> count)) count 1 bs := by
  have byte : (UInt8.ofNat n).toNat = n := toNat_ofNat h.2
  have notAscii : ¬ UInt8.ofNat n < 0x80 := by simp [UInt8.lt_iff_toNat_lt, byte, h.1]
  rw [next, if_neg notAscii, follows]
  simp only [leadingBits, byte]

/-- A byte of six bits behind the first is read as those bits. -/
theorem continuation_ofNat {low high : UInt8} {x : Nat}
    (h : low.toNat ≤ x % 64 + 128 ∧ x % 64 + 128 ≤ high.toNat) (value count read : Nat)
    (bs : List UInt8) :
    continuation low high value (count + 1) read (UInt8.ofNat (x % 64 + 128) :: bs) =
      continuation 0x80 0xBF (value * 64 + x % 64) count (read + 1) bs := by
  have byte : (UInt8.ofNat (x % 64 + 128)).toNat = x % 64 + 128 := toNat_ofNat (by omega)
  have bits : (x % 64 + 128) % 0x40 = x % 64 := by omega
  have within : low ≤ UInt8.ofNat (x % 64 + 128) ∧ UInt8.ofNat (x % 64 + 128) ≤ high := by
    rwa [UInt8.le_iff_toNat_le, UInt8.le_iff_toNat_le, byte]
  rw [continuation, if_pos within, byte, bits]

theorem continuation_plain (x value count read : Nat) (bs : List UInt8) :
    continuation 0x80 0xBF value (count + 1) read (UInt8.ofNat (x % 64 + 128) :: bs) =
      continuation 0x80 0xBF (value * 64 + x % 64) count (read + 1) bs := by
  have small : x % 64 < 64 := Nat.mod_lt _ (by omega)
  exact continuation_ofNat (by simp only [UInt8.reduceToNat]; omega) value count read bs

/-- The bytes of a character are read as that character. -/
theorem next_encodeChar (c : Char) (rest : List UInt8) :
    ∃ b bs, String.utf8EncodeChar c ++ rest = b :: bs ∧ next b bs = .ok (c, rest) := by
  have code : c.val.toNat = c.toNat := rfl
  have same : Char.ofNat c.toNat = c := Char.ofNat_toNat c
  have valid : c.toNat < 0xD800 ∨ 0xDFFF < c.toNat ∧ c.toNat < 0x110000 := c.valid
  rw [String.utf8EncodeChar, code]
  generalize c.toNat = v at *
  split_ifs with one two three
  · refine ⟨_, _, List.cons_append, ?_⟩
    rw [next_ascii (by omega), same, List.nil_append]
  · refine ⟨_, _, List.cons_append, ?_⟩
    rw [next_ofNat (by omega) (follow?_two (by omega)), List.cons_append, continuation_plain,
      continuation, List.nil_append]
    have whole : (v / 64 % 32 + 192) % (0x40 >>> 1) * 64 + v % 64 = v := by
      show (v / 64 % 32 + 192) % 32 * 64 + v % 64 = v
      omega
    rw [whole, same]
  · refine ⟨_, _, List.cons_append, ?_⟩
    rw [next_ofNat (by omega) (follow?_three (by omega)), List.cons_append, List.cons_append,
      continuation_ofNat, continuation_plain, continuation, List.nil_append]
    · have whole : ((v / 4096 % 16 + 224) % (0x40 >>> 2) * 64 + v / 64 % 64) * 64 + v % 64 = v := by
        show ((v / 4096 % 16 + 224) % 16 * 64 + v / 64 % 64) * 64 + v % 64 = v
        omega
      rw [whole, same]
    · split_ifs <;> simp only [UInt8.reduceToNat] <;> omega
  · refine ⟨_, _, List.cons_append, ?_⟩
    rw [next_ofNat (by omega) (follow?_four (by omega)), List.cons_append, List.cons_append,
      List.cons_append, continuation_ofNat, continuation_plain, continuation_plain, continuation,
      List.nil_append]
    · have whole : (((v / 262144 % 8 + 240) % (0x40 >>> 3) * 64 + v / 4096 % 64) * 64 +
          v / 64 % 64) * 64 + v % 64 = v := by
        show (((v / 262144 % 8 + 240) % 8 * 64 + v / 4096 % 64) * 64 + v / 64 % 64) * 64 +
          v % 64 = v
        omega
      rw [whole, same]
    · split_ifs <;> simp only [UInt8.reduceToNat] <;> omega

/-! ## Texts -/

theorem decodeFrom_encode {cs : List Char} {fuel : Nat} (h : cs.length ≤ fuel) (start : Nat)
    (read : List Char) :
    decodeFrom fuel start (cs.flatMap String.utf8EncodeChar) read = .ok (read.reverse ++ cs) := by
  induction cs generalizing fuel start read with
  | nil => cases fuel <;> simp [decodeFrom]
  | cons c cs ih =>
    obtain ⟨fuel, rfl⟩ : ∃ k, fuel = k + 1 := Nat.exists_eq_add_one.2 (by simp at h; omega)
    obtain ⟨b, bs, bytes, read⟩ := next_encodeChar c (cs.flatMap String.utf8EncodeChar)
    rw [List.flatMap_cons, bytes, decodeFrom, read]
    simp only
    rw [ih (by simpa using h)]
    simp

theorem length_le_encode (cs : List Char) :
    cs.length ≤ (cs.flatMap String.utf8EncodeChar).length := by
  induction cs with
  | nil => simp
  | cons c cs ih =>
    have := List.length_pos_iff.2 (String.utf8EncodeChar_ne_nil (c := c))
    simp only [List.flatMap_cons, List.length_append, List.length_cons]
    omega

theorem toList_loop (bytes : ByteArray) (i : Nat) (before : List UInt8) :
    ByteArray.toList.loop bytes i before = before.reverse ++ bytes.data.toList.drop i := by
  fun_induction ByteArray.toList.loop bytes i before with
  | case1 i before inside ih =>
    have here : bytes.get! i = bytes.data[i] := getElem!_pos bytes.data i inside
    have split : bytes.data.toList.drop i = bytes.data[i] :: bytes.data.toList.drop (i + 1) :=
      List.drop_eq_getElem_cons (by simpa using inside)
    rw [ih, here, split]
    simp
  | case2 i before outside =>
    have size : bytes.data.size = bytes.size := rfl
    rw [List.drop_of_length_le (by simp; omega), List.append_nil]

/-- The bytes of a text are those of its characters. -/
theorem toList_toUTF8 (s : String) :
    s.toUTF8.toList = s.toList.flatMap String.utf8EncodeChar := by
  rw [String.toUTF8_eq_toByteArray, ← String.utf8Encode_toList, ByteArray.toList, toList_loop]
  simp [List.utf8Encode]

theorem decode_encode (cs : List Char) : decode (cs.flatMap String.utf8EncodeChar) = .ok cs := by
  rw [decode, decodeFrom_encode (length_le_encode cs), List.reverse_nil, List.nil_append]

/-- The bytes of a text are read as that text. -/
theorem decode_toUTF8 (s : String) : decode s.toUTF8.toList = .ok s.toList := by
  rw [toList_toUTF8, decode_encode]

end ModuleAtlas.Text.Utf8
