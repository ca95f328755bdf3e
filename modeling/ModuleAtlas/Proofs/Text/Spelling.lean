import ModuleAtlas.Text.Quoted
import Mathlib.Algebra.Group.Nat.Defs
import Mathlib.Data.List.Basic

/-!
# How names are spelled

A name is spelled by its characters, a stray byte by four of them. Two names may therefore be
spelled alike, when one of them holds a stray byte and the other the characters that spell it; all
other names are told apart. A text, which holds no stray bytes, is spelled as it is.

## Main definitions

* `Glyph.IsText` — a row of glyphs without stray bytes.
* `Glyph.SpellsOut` — the characters that spell a stray byte stand in a name.
-/
namespace ModuleAtlas.Text

namespace Glyph

/-! ## Texts -/

/-- All glyphs of a row are characters. -/
def IsText (g : List Glyph) : Prop := ∀ x ∈ g, ∃ c, x = char c

theorem isText_ofText (cs : List Char) : IsText (ofText cs) := by
  intro g hg
  obtain ⟨c, -, rfl⟩ := List.mem_map.1 hg
  exact ⟨c, rfl⟩

theorem IsText.append {g g' : List Glyph} (h : IsText g) (h' : IsText g') : IsText (g ++ g') :=
  List.forall_mem_append.2 ⟨h, h'⟩

/-- A text is spelled as it is. -/
theorem ofText_text {g : List Glyph} (h : IsText g) : ofText (text g) = g := by
  induction g with
  | nil => rfl
  | cons x g ih =>
    obtain ⟨hx, hg⟩ := List.forall_mem_cons.1 h
    obtain ⟨c, rfl⟩ := hx
    exact congrArg (char c :: ·) (ih hg)

end Glyph

namespace Glyph

/-! ## Hexadecimal digits -/

theorem hexDigit_injective {k l : Nat} (hk : k < 16) (hl : l < 16) (h : hexDigit k = hexDigit l) :
    k = l := by
  have all : ∀ k < 16, ∀ l < 16, hexDigit k = hexDigit l → k = l := by decide
  exact all k hk l hl h

theorem hexDigit_ne_backslash (n : Nat) : hexDigit (n % 16) ≠ '\\' := by
  have small : ∀ k < 16, hexDigit k ≠ '\\' := by decide
  exact small _ (Nat.mod_lt _ (by omega))

theorem backslash_notMem_hex (width n : Nat) : '\\' ∉ hex width n := by
  induction width generalizing n with
  | zero => simp [hex]
  | succ width ih =>
    have digit := hexDigit_ne_backslash n
    simp [hex, ih, Ne.symm digit]

@[simp] theorem length_hex (width n : Nat) : (hex width n).length = width := by
  induction width generalizing n with
  | zero => rfl
  | succ width ih => simp [hex, ih]

/-- Numbers that fit into a width are told apart by their digits. -/
theorem hex_injective {width n m : Nat} (hn : n < 16 ^ width) (hm : m < 16 ^ width)
    (h : hex width n = hex width m) : n = m := by
  induction width generalizing n m with
  | zero => omega
  | succ width ih =>
    rw [Nat.pow_succ] at hn hm
    obtain ⟨high, low⟩ := List.append_inj' h rfl
    have quotient : n / 16 = m / 16 := ih (by omega) (by omega) high
    have rest : n % 16 = m % 16 :=
      hexDigit_injective (Nat.mod_lt _ (by omega)) (Nat.mod_lt _ (by omega)) (by simpa using low)
    omega

theorem spelled_byte_injective {b b' : UInt8} {s s' : List Char}
    (h : spelled (byte b) ++ s = spelled (byte b') ++ s') : b = b' ∧ s = s' := by
  obtain ⟨digits, rest⟩ := List.append_inj h (by simp [spelled])
  have digits : hex 2 b.toNat = hex 2 b'.toNat := by simpa [spelled] using digits
  exact ⟨UInt8.toNat_inj.1 (hex_injective b.toNat_lt b'.toNat_lt digits), rest⟩

/-! ## Names that are spelled alike -/

/-- The characters that spell a stray byte stand in a name. -/
def SpellsOut (n : List Glyph) (b : UInt8) : Prop := ofText (spelled (byte b)) <:+: n

instance (n : List Glyph) (b : UInt8) : Decidable (SpellsOut n b) :=
  inferInstanceAs (Decidable (_ <:+: _))

theorem spelled_ne_nil (g : Glyph) : spelled g ≠ [] := by
  cases g <;> simp [spelled]

theorem text_eq_nil {n : List Glyph} (h : text n = []) : n = [] := by
  cases n with
  | nil => rfl
  | cons g n => exact absurd (List.append_eq_nil_iff.1 h).1 (spelled_ne_nil g)

/-- Characters other than a backslash are spelled by themselves alone. -/
theorem eq_of_text_eq_append {cs rest : List Char} (plain : '\\' ∉ cs) {n : List Glyph}
    (h : text n = cs ++ rest) : ∃ n', n = ofText cs ++ n' ∧ text n' = rest := by
  induction cs generalizing n with
  | nil => exact ⟨n, rfl, h⟩
  | cons c cs ih =>
    obtain ⟨other, plainRest⟩ := not_or.1 (List.mem_cons.not.1 plain)
    cases n with
    | nil => simp [text] at h
    | cons g n =>
      cases g with
      | byte b => exact absurd (List.cons.inj h).1 other
      | char c' =>
        obtain ⟨rfl, behind⟩ := List.cons.inj h
        obtain ⟨n', rfl, hn'⟩ := ih plainRest behind
        exact ⟨n', rfl, hn'⟩

/-- Where one name has a stray byte and another one a character, the other one spells it out. -/
theorem spellsOut_of_text_eq {b : UInt8} {c : Char} {n m : List Glyph}
    (h : text (byte b :: n) = text (char c :: m)) : SpellsOut (char c :: m) b := by
  obtain ⟨rfl, behind⟩ := List.cons.inj
    (show '\\' :: ('x' :: hex 2 b.toNat ++ text n) = c :: text m from h)
  have plain : '\\' ∉ 'x' :: hex 2 b.toNat := by simp [backslash_notMem_hex]
  obtain ⟨m', rfl, -⟩ := eq_of_text_eq_append plain behind.symm
  exact List.IsPrefix.isInfix ⟨m', rfl⟩

/-- Different names that are spelled alike: a stray byte of one of them is spelled out in the other
one. -/
theorem spellsOut_of_ne {n m : List Glyph} (ne : n ≠ m) (h : text n = text m) :
    ∃ b, byte b ∈ n ∧ SpellsOut m b ∨ byte b ∈ m ∧ SpellsOut n b := by
  induction n generalizing m with
  | nil => exact absurd (text_eq_nil h.symm).symm ne
  | cons g n ih =>
    cases m with
    | nil => exact absurd (text_eq_nil h) ne
    | cons g' m =>
      -- What the rests of the names hold and spell out, the names do.
      have deeper (same : g = g') (rest : text n = text m) :
          ∃ b, byte b ∈ g :: n ∧ SpellsOut (g' :: m) b ∨
            byte b ∈ g' :: m ∧ SpellsOut (g :: n) b := by
        subst same
        obtain ⟨b, ⟨mem, out⟩ | ⟨mem, out⟩⟩ := ih (fun same => ne (same ▸ rfl)) rest
        · exact ⟨b, .inl ⟨List.mem_cons_of_mem _ mem, List.infix_cons out⟩⟩
        · exact ⟨b, .inr ⟨List.mem_cons_of_mem _ mem, List.infix_cons out⟩⟩
      cases g with
      | char c =>
        cases g' with
        | char c' =>
          obtain ⟨rfl, rest⟩ := List.cons.inj h
          exact deeper rfl rest
        | byte b => exact ⟨b, .inr ⟨List.mem_cons_self, spellsOut_of_text_eq h.symm⟩⟩
      | byte b =>
        cases g' with
        | char c => exact ⟨b, .inl ⟨List.mem_cons_self, spellsOut_of_text_eq h⟩⟩
        | byte b' =>
          obtain ⟨rfl, rest⟩ := spelled_byte_injective h
          exact deeper rfl rest

end Glyph

end ModuleAtlas.Text
