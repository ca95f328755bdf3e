import ModuleAtlas.Proofs.Json.RoundTrip

/-!
# The characters of a JSON text

Control characters are escaped inside strings, and nothing else that is written for a value has any.
So they stand in a text only where its layout sets off one part of the value from another.
-/
namespace ModuleAtlas.Json.Printer

open Reader

variable {l : Layout} {depth : Nat}

theorem le_of_mem_character {c d : Char} (h : d ∈ character c) : 0x20 ≤ d.toNat := by
  have digit (n : Nat) (small : n < 16) : 0x20 ≤ (hexDigit n).toNat := by
    interval_cases n <;> decide
  have short {e : Char} (letter : 0x20 ≤ e.toNat) (h : d ∈ ['\\', e]) : 0x20 ≤ d.toNat := by
    obtain rfl | rfl : d = '\\' ∨ d = e := by simpa using h
    · decide
    · exact letter
  unfold character at h
  split_ifs at h
  · exact short (by decide) h
  · exact short (by decide) h
  · exact short (by decide) h
  · exact short (by decide) h
  · exact short (by decide) h
  · exact short (by decide) h
  · exact short (by decide) h
  · simp only [List.mem_cons, List.not_mem_nil, or_false] at h
    obtain rfl | rfl | rfl | rfl | rfl | rfl := h
    · decide
    · decide
    · decide
    · decide
    · exact digit _ (by omega)
    · exact digit _ (by omega)
  · obtain rfl := List.mem_singleton.1 h
    omega

theorem le_of_mem_string {s : String} {d : Char} (h : d ∈ string s) : 0x20 ≤ d.toNat := by
  simp only [string, List.cons_append, List.mem_cons, List.mem_append, List.mem_flatMap,
    List.not_mem_nil, or_false] at h
  obtain rfl | ⟨c, -, h⟩ | rfl := h
  · decide
  · exact le_of_mem_character h
  · decide

theorem le_of_mem_integer {n : Int} {d : Char} (h : d ∈ integer n) : 0x20 ≤ d.toNat := by
  have digit (h : d ∈ Nat.toDigits 10 n.natAbs) : 0x20 ≤ d.toNat := by
    have range := isDigit_of_mem_toDigits h
    simp only [isDigit, decide_eq_true_eq] at range
    exact le_trans (by decide) (show ('0' : Char).toNat ≤ d.toNat from range.1)
  rw [integer_eq] at h
  split_ifs at h
  · obtain rfl | h := List.mem_cons.1 h
    · decide
    · exact digit h
  · exact digit h

/-- No part of a value is set off with a character. -/
structure Layout.Lacks (l : Layout) (c : Char) : Prop where
  before : ∀ d, c ∉ l.before d
  after : ∀ d, c ∉ l.after d
  gap : c ∉ l.gap

section Control

variable {c : Char} (control : c.toNat < 0x20)
include control

theorem ne_of_le {e : Char} (h : 0x20 ≤ e.toNat) : c ≠ e := by
  rintro rfl
  omega

theorem notMem_string (s : String) : c ∉ string s := fun h =>
  Nat.not_le.2 control (le_of_mem_string h)

theorem notMem_integer (n : Int) : c ∉ integer n := fun h =>
  Nat.not_le.2 control (le_of_mem_integer h)

theorem notMem_word {w : List Char} (h : w.all (0x20 ≤ ·.toNat)) : c ∉ w := fun mem =>
  Nat.not_le.2 control (of_decide_eq_true (List.all_eq_true.1 h c mem))

variable (hl : l.Lacks c)
include hl

theorem notMem_elements {d : Nat} {xs : List Json} (each : ∀ v ∈ xs, c ∉ value l (d + 1) v) :
    c ∉ elements l d xs := by
  induction xs with
  | nil => simp [elements]
  | cons v xs ih =>
    obtain ⟨first, others⟩ := List.forall_mem_cons.1 each
    simp [elements, ne_of_le control (e := ',') (by decide), hl.before, first, ih others]

theorem notMem_member {d : Nat} {m : String × Json} (inside : c ∉ value l (d + 1) m.2) :
    c ∉ member l d m := by
  obtain ⟨name, v⟩ := m
  have colon : c ≠ ':' := ne_of_le control (by decide)
  simpa [member, notMem_string control, colon, hl.gap] using inside

theorem notMem_members {d : Nat} {ms : List (String × Json)} (each : ∀ m ∈ ms, c ∉ member l d m) :
    c ∉ members l d ms := by
  induction ms with
  | nil => simp [members]
  | cons m ms ih =>
    obtain ⟨first, others⟩ := List.forall_mem_cons.1 each
    simp [members, ne_of_le control (e := ',') (by decide), hl.before, first, ih others]

/-- A control character stands in a text only where it sets off the parts of a value. -/
theorem notMem_value {v : Json} (nested : Nested depth v) (d : Nat) : c ∉ value l d v := by
  have other {e : Char} (h : 0x20 ≤ e.toNat) : c ≠ e := ne_of_le control h
  induction nested generalizing d with
  | @array depth xs h ih =>
    cases xs with
    | nil => exact notMem_word control (w := ['[', ']']) (by decide)
    | cons x xs =>
      have first := ih x List.mem_cons_self (d + 1)
      have rest := notMem_elements control hl fun v hv => ih v (List.mem_cons_of_mem x hv) (d + 1)
      simp [value, other (e := '[') (by decide), other (e := ']') (by decide), hl.before, hl.after,
        first, rest]
  | @object depth ms h ih =>
    have each (m : String × Json) (hm : m ∈ ms) := notMem_member control hl (ih m hm (d + 1))
    cases ms with
    | nil => exact notMem_word control (w := ['\x7b', '\x7d']) (by decide)
    | cons m ms =>
      have first := each m List.mem_cons_self
      have rest := notMem_members control hl fun n hn => each n (List.mem_cons_of_mem m hn)
      simp [value, other (e := '\x7b') (by decide), other (e := '\x7d') (by decide), hl.before,
        hl.after, first, rest]
  | string s => exact notMem_string control s
  | int n => exact notMem_integer control n
  | real m e => simp [value, notMem_integer control, other (e := 'e') (by decide)]
  | null => exact notMem_word control (w := "null".toList) (by decide)
  | bool b =>
    cases b with
    | false => exact notMem_word control (w := "false".toList) (by decide)
    | true => exact notMem_word control (w := "true".toList) (by decide)
  | infinity negative =>
    cases negative with
    | false => exact notMem_word control (w := "Infinity".toList) (by decide)
    | true => exact notMem_word control (w := "-Infinity".toList) (by decide)
  | notANumber => exact notMem_word control (w := "NaN".toList) (by decide)

end Control

end ModuleAtlas.Json.Printer
