import ModuleAtlas.Proofs.Json.Tokens
import Mathlib.Data.List.Basic

/-!
# JSON texts and their values

What is written for a value is read as that value, on one line or on several, if it is not nested
deeper than the reader goes.

## Main definitions

* `Json.Nested` — values that are nested no deeper than to a given depth.
* `Printer.Layout.IsBlank` — layouts that set off the parts of a value with blanks alone.
* `Printer.ReadsBack` — what is written for a value is read as that value.
-/
namespace ModuleAtlas.Json

/-- Values that are nested no deeper than to a given depth. -/
inductive Nested : (depth : Nat) → Json → Prop
  | null {depth : Nat} : Nested depth .null
  | bool {depth : Nat} (b : Bool) : Nested depth (.bool b)
  | int {depth : Nat} (n : Int) : Nested depth (.int n)
  | real {depth : Nat} (m e : Int) : Nested depth (.real m e)
  | infinity {depth : Nat} (negative : Bool) : Nested depth (.infinity negative)
  | notANumber {depth : Nat} : Nested depth .notANumber
  | string {depth : Nat} (s : String) : Nested depth (.string s)
  | array {depth : Nat} {xs : List Json} (h : ∀ x ∈ xs, Nested depth x) :
    Nested (depth + 1) (.array xs)
  | object {depth : Nat} {ms : List (String × Json)} (h : ∀ m ∈ ms, Nested depth m.2) :
    Nested (depth + 1) (.object ms)

variable {depth : Nat}

theorem Nested.mono {v : Json} (h : Nested depth v) {deeper : Nat} (le : depth ≤ deeper) :
    Nested deeper v := by
  induction h generalizing deeper with
  | array _ ih =>
    obtain ⟨k, rfl⟩ := Nat.exists_eq_add_one.2 (Nat.lt_of_lt_of_le (Nat.succ_pos _) le)
    exact .array fun x hx => ih x hx (Nat.le_of_succ_le_succ le)
  | object _ ih =>
    obtain ⟨k, rfl⟩ := Nat.exists_eq_add_one.2 (Nat.lt_of_lt_of_le (Nat.succ_pos _) le)
    exact .object fun m hm => ih m hm (Nat.le_of_succ_le_succ le)
  | _ => constructor

theorem nested_map {α : Type} {write : α → Json} {as : List α}
    (h : ∀ a ∈ as, Nested depth (write a)) : Nested (depth + 1) (.array (as.map write)) := by
  refine .array fun x hx => ?_
  obtain ⟨a, ha, rfl⟩ := List.mem_map.1 hx
  exact h a ha

theorem nested_ofStrings (xs : List String) : Nested (depth + 1) (.ofStrings xs) :=
  nested_map fun s _ => .string s

/-- An object is nested one deeper than its members. -/
theorem nested_object {ms : List (String × Json)}
    (h : (ms.map Prod.snd).Forall (Nested depth)) : Nested (depth + 1) (.object ms) :=
  .object fun m hm => (List.forall_iff_forall_mem.1 h) m.2 (List.mem_map_of_mem hm)

namespace Reader

/-! ## Blanks -/

/-- Nothing but blanks. -/
def Blank (s : List Char) : Prop := ∀ c ∈ s, isBlank c = true

theorem blank_nil : Blank [] := fun _ hc => nomatch hc

theorem skip_append {b : List Char} (h : Blank b) (s : List Char) : skip (b ++ s) = skip s :=
  List.dropWhile_append_of_pos h

theorem skip_cons {c : Char} (h : isBlank c = false) (s : List Char) : skip (c :: s) = c :: s :=
  List.dropWhile_cons_of_neg (by simp [h])

theorem SetOff.cons {c : Char} (h : isBlank c = true ∨ c = ',' ∨ c = ']' ∨ c = '\x7d')
    (s : List Char) : SetOff (c :: s) := by
  rintro d ⟨⟩
  exact h

theorem SetOff.append {b s : List Char} (hb : Blank b) (h : SetOff s) : SetOff (b ++ s) := by
  cases b with
  | nil => exact h
  | cons c b => exact .cons (.inl (hb c List.mem_cons_self)) _

end Reader

namespace Printer

open Reader

/-- The parts of a value are set off with blanks alone. -/
structure Layout.IsBlank (l : Layout) : Prop where
  before : ∀ d, Blank (l.before d)
  after : ∀ d, Blank (l.after d)
  gap : Blank l.gap

theorem Layout.oneLine_isBlank : Layout.oneLine.IsBlank := ⟨by simp [Blank, oneLine],
  by simp [Blank, oneLine], by simp [Blank, oneLine]⟩

theorem Layout.lines_isBlank (indent : Nat) : (Layout.lines indent).IsBlank := by
  have spaces (n : Nat) : Blank ('\n' :: List.replicate n ' ') := by
    intro c hc
    obtain rfl | hc := List.mem_cons.1 hc
    · rfl
    · rw [List.eq_of_mem_replicate hc]
      rfl
  refine ⟨fun d => spaces _, fun d => spaces _, ?_⟩
  intro c hc
  rw [List.mem_singleton.1 hc]
  rfl

/-- What is written for a value begins with a character that is neither a blank nor the end of an
array. -/
theorem exists_value_eq_cons (l : Layout) (d : Nat) (v : Json) :
    ∃ c s, value l d v = c :: s ∧ Reader.isBlank c = false ∧ c ≠ ']' := by
  have number (n : Int) (s : List Char) :
      ∃ c t, integer n ++ s = c :: t ∧ Reader.isBlank c = false ∧ c ≠ ']' := by
    obtain ⟨c, ds, digits, digit⟩ := exists_digit n.natAbs
    rw [integer_eq]
    split_ifs
    · exact ⟨'-', _, rfl, rfl, by decide⟩
    · refine ⟨c, ds ++ s, by rw [digits, List.cons_append], ?_, ?_⟩
      · cases blank : Reader.isBlank c with
        | false => rfl
        | true => simpa [digit] using (SetOff.cons (.inl blank) []).noDigit c rfl
      · rintro rfl
        exact absurd digit (by decide)
  cases v with
  | null => exact ⟨'n', _, rfl, rfl, by decide⟩
  | bool b => cases b <;> exact ⟨_, _, rfl, rfl, by decide⟩
  | int n => simpa [value] using number n []
  | real m e => exact number m _
  | infinity negative => cases negative <;> exact ⟨_, _, rfl, rfl, by decide⟩
  | notANumber => exact ⟨'N', _, rfl, rfl, by decide⟩
  | string s => exact ⟨'"', _, rfl, rfl, by decide⟩
  | array xs => cases xs <;> exact ⟨'[', _, rfl, rfl, by decide⟩
  | object ms => cases ms <;> exact ⟨'\x7b', _, rfl, rfl, by decide⟩

theorem skip_value (l : Layout) (d : Nat) (v : Json) (rest : List Char) :
    skip (value l d v ++ rest) = value l d v ++ rest := by
  obtain ⟨c, s, text, noBlank, -⟩ := exists_value_eq_cons l d v
  rw [text, List.cons_append, skip_cons noBlank]

/-- What is written for a value is read as that value, whatever is set off from it. Each character
of it may take two steps. -/
def ReadsBack (l : Layout) (depth : Nat) (v : Json) : Prop :=
  ∀ (d fuel : Nat) (rest : List Char), 2 * (value l d v).length ≤ fuel → SetOff rest →
    value? fuel depth (value l d v ++ rest) = some (v, rest)

/-! ## Words and numbers -/

/-- A number is no word and no part of another value. -/
theorem value?_integer (fuel depth : Nat) (n : Int) (rest : List Char) :
    value? (fuel + 1) depth (integer n ++ rest) = number? (integer n ++ rest) := by
  obtain ⟨c, ds, digits, digit⟩ := exists_digit n.natAbs
  rw [integer_eq]
  split_ifs
  · rfl
  · have other (d : Char) (h : isDigit d = false) : d ≠ c := by
      rintro rfl
      simp [digit] at h
    have different (d : Char) (h : isDigit d = false) (s : List Char) :
        c :: (ds ++ rest) ≠ d :: s := fun same => other d h (List.cons.inj same).1.symm
    have noWord : word? (c :: (ds ++ rest)) = none := by
      simp [word?, words, after?, other 'n' rfl, other 't' rfl, other 'f' rfl, other 'N' rfl,
        other 'I' rfl]
    rw [digits, List.cons_append, value?, noWord, Option.none_or]
    · exact different '[' rfl
    · exact different '\x7b' rfl
    · exact different '"' rfl

theorem readsBack_string (l : Layout) (depth : Nat) (s : String) :
    ReadsBack l depth (.string s) := by
  intro d fuel rest enough _
  simp only [value] at enough ⊢
  have quotes : 2 ≤ (Printer.string s).length := by simp [Printer.string]
  obtain ⟨fuel, rfl⟩ : ∃ k, fuel = k + 1 := ⟨fuel - 1, by omega⟩
  have short : (Printer.string s).length ≤ fuel := by omega
  have read := string?_string short rest
  simp only [Printer.string, List.cons_append] at read ⊢
  rw [value?, read, Option.map_some]

/-! ## Arrays and objects -/

variable {l : Layout} {depth : Nat}

/-- Elements are read as they are written, up to the end of their array. -/
theorem elements?_elements (hl : l.IsBlank) {d : Nat} {x : Json} {xs : List Json}
    (reads : ∀ v ∈ x :: xs, ReadsBack l depth v) {fuel : Nat} (rest : List Char)
    (read : List Json) (enough : 2 * (value l (d + 1) x ++ elements l d xs).length < fuel) :
    elements? fuel depth (value l (d + 1) x ++ elements l d xs ++ l.after d ++ ']' :: rest) read =
      some (read.reverse ++ x :: xs, rest) := by
  have first := reads x List.mem_cons_self
  obtain ⟨fuel, rfl⟩ : ∃ k, fuel = k + 1 := ⟨fuel - 1, by omega⟩
  simp only [List.length_append] at enough
  induction xs generalizing x fuel read with
  | nil =>
    have setOff : SetOff (l.after d ++ ']' :: rest) := .append (hl.after d) (.cons (by simp) _)
    have behind := skip_append (hl.after d) (']' :: rest)
    rw [skip_cons (by rfl)] at behind
    rw [elements, List.append_nil, List.append_assoc, elements?,
      first (d + 1) fuel _ (by omega) setOff]
    simp [behind]
  | cons y ys ih =>
    have setOff : SetOff (elements l d (y :: ys) ++ l.after d ++ ']' :: rest) := .cons (by simp) _
    simp only [elements, List.length_cons, List.length_append] at enough
    obtain ⟨fuel, rfl⟩ : ∃ k, fuel = k + 1 := ⟨fuel - 1, by omega⟩
    rw [elements?, List.append_assoc, List.append_assoc, ← List.append_assoc (elements _ _ _),
      first (d + 1) _ _ (by omega) setOff]
    have next := ih (fun v hv => reads v (List.mem_cons_of_mem _ hv)) (x := y) (x :: read)
      (reads y (by simp)) fuel (by omega)
    simp only [elements, List.cons_append, List.append_assoc, skip_cons (c := ',') rfl,
      skip_append (hl.before d), skip_value] at next ⊢
    rw [next]
    simp

theorem skip_member (l : Layout) (d : Nat) (m : String × Json) (rest : List Char) :
    skip (member l d m ++ rest) = member l d m ++ rest := by
  obtain ⟨name, v⟩ := m
  exact skip_cons rfl _

/-- A member is read as it is written, and reading goes on behind it. -/
theorem members?_member (hl : l.IsBlank) {d : Nat} {m : String × Json}
    (reads : ReadsBack l depth m.2) {fuel : Nat} {rest : List Char} (setOff : SetOff rest)
    (read : List (String × Json))
    (enough : 2 * (member l d m).length ≤ fuel) :
    members? (fuel + 1) depth (member l d m ++ rest) read =
      match skip rest with
      | ',' :: s => members? fuel depth (skip s) (m :: read)
      | '\x7d' :: s => some ((m :: read).reverse, s)
      | _ => none := by
  obtain ⟨name, v⟩ := m
  replace reads : ReadsBack l depth v := reads
  simp only [member, List.length_append, List.length_cons] at enough
  have named : (string name).length ≤ fuel := by omega
  have value := reads (d + 1) fuel rest (by omega) setOff
  have behind : skip (l.gap ++ Printer.value l (d + 1) v ++ rest) =
      Printer.value l (d + 1) v ++ rest := by
    rw [List.append_assoc, skip_append hl.gap, skip_value]
  have step := members?.eq_def (fuel + 1) depth (member l d (name, v) ++ rest) read
  simp only [member, List.cons_append, List.append_assoc] at behind step ⊢
  simp only [string?_string named, skip_cons (c := ':') rfl, behind, value] at step
  exact step

/-- Members are read as they are written, up to the end of their object. -/
theorem members?_members (hl : l.IsBlank) {d : Nat} {m : String × Json}
    {ms : List (String × Json)} (reads : ∀ p ∈ m :: ms, ReadsBack l depth p.2) {fuel : Nat}
    (rest : List Char) (read : List (String × Json))
    (enough : 2 * (member l d m ++ members l d ms).length < fuel) :
    members? fuel depth (member l d m ++ members l d ms ++ l.after d ++ '\x7d' :: rest) read =
      some (read.reverse ++ m :: ms, rest) := by
  have first := reads m List.mem_cons_self
  obtain ⟨fuel, rfl⟩ : ∃ k, fuel = k + 1 := ⟨fuel - 1, by omega⟩
  simp only [List.length_append] at enough
  induction ms generalizing m fuel read with
  | nil =>
    have setOff : SetOff (l.after d ++ '\x7d' :: rest) := .append (hl.after d) (.cons (by simp) _)
    rw [members, List.append_nil, List.append_assoc,
      members?_member hl first setOff read (by omega), skip_append (hl.after d), skip_cons rfl]
    simp
  | cons n ns ih =>
    have setOff : SetOff (members l d (n :: ns) ++ l.after d ++ '\x7d' :: rest) :=
      .cons (by simp) _
    simp only [members, List.length_cons, List.length_append] at enough
    obtain ⟨fuel, rfl⟩ : ∃ k, fuel = k + 1 := ⟨fuel - 1, by omega⟩
    rw [List.append_assoc, List.append_assoc, ← List.append_assoc (members _ _ _),
      members?_member hl first setOff read (by omega)]
    have next := ih (fun p hp => reads p (List.mem_cons_of_mem _ hp)) (m := n) (m :: read)
      (reads n (by simp)) fuel (by omega)
    simp only [members, List.cons_append, List.append_assoc, skip_cons (c := ',') rfl,
      skip_append (hl.before d), skip_member] at next ⊢
    rw [next]
    simp

/-! ## Values -/

theorem exists_fuel {l : Layout} {d fuel : Nat} {v : Json}
    (enough : 2 * (value l d v).length ≤ fuel) : ∃ k, fuel = k + 1 := by
  obtain ⟨c, s, text, -⟩ := exists_value_eq_cons l d v
  rw [text, List.length_cons] at enough
  exact ⟨fuel - 1, by omega⟩

theorem readsBack_array (hl : l.IsBlank) {xs : List Json}
    (reads : ∀ x ∈ xs, ReadsBack l depth x) : ReadsBack l (depth + 1) (.array xs) := by
  intro d fuel rest enough _
  obtain ⟨fuel, rfl⟩ := exists_fuel enough
  cases xs with
  | nil => rfl
  | cons x xs =>
    have left : 2 * (value l (d + 1) x ++ elements l d xs).length < fuel := by
      simp only [value, List.cons_append, List.length_cons, List.length_append] at enough ⊢
      omega
    have inside := elements?_elements hl reads rest [] left
    obtain ⟨c, s, text, noBlank, notEnd⟩ := exists_value_eq_cons l (d + 1) x
    simp only [value, text, List.cons_append, List.append_assoc, List.nil_append] at inside ⊢
    unfold value?
    simp [skip_append (hl.before d), skip_cons noBlank, notEnd, inside]

theorem readsBack_object (hl : l.IsBlank) {ms : List (String × Json)}
    (reads : ∀ m ∈ ms, ReadsBack l depth m.2) : ReadsBack l (depth + 1) (.object ms) := by
  intro d fuel rest enough _
  obtain ⟨fuel, rfl⟩ := exists_fuel enough
  cases ms with
  | nil => rfl
  | cons m ms =>
    have left : 2 * (member l d m ++ members l d ms).length < fuel := by
      simp only [value, List.cons_append, List.length_cons, List.length_append] at enough ⊢
      omega
    have inside := members?_members hl reads rest [] left
    obtain ⟨name, v⟩ := m
    simp only [value, member, Printer.string, List.cons_append, List.append_assoc,
      List.nil_append] at inside ⊢
    unfold value?
    simp [skip_append (hl.before d), skip_cons (c := '"') rfl, inside]

/-- What is written for a value is read as that value, in any layout of blanks. -/
theorem readsBack (hl : l.IsBlank) {v : Json} (nested : Nested depth v) : ReadsBack l depth v := by
  induction nested with
  | array _ reads => exact readsBack_array hl reads
  | object _ reads => exact readsBack_object hl reads
  | string s => exact readsBack_string l _ s
  | int n =>
    intro d fuel rest enough setOff
    obtain ⟨fuel, rfl⟩ := exists_fuel enough
    rw [value, value?_integer, number?_int n setOff]
  | real m e =>
    intro d fuel rest enough setOff
    obtain ⟨fuel, rfl⟩ := exists_fuel enough
    have read := number?_real m e setOff
    rw [List.append_assoc] at read
    rw [value, List.append_assoc, value?_integer, read]
  | bool b =>
    intro d fuel rest enough _
    obtain ⟨fuel, rfl⟩ := exists_fuel enough
    cases b <;> rfl
  | infinity negative =>
    intro d fuel rest enough _
    obtain ⟨fuel, rfl⟩ := exists_fuel enough
    cases negative <;> rfl
  | null | notANumber =>
    intro d fuel rest enough _
    obtain ⟨fuel, rfl⟩ := exists_fuel enough
    rfl

end Printer

/-! ## Whole texts -/

/-- What is written for a value is read as that value, also with blanks behind it. -/
theorem read?_value {l : Printer.Layout} (hl : l.IsBlank) {depth : Nat} {v : Json}
    (nested : Nested depth v) {blanks : List Char} (hb : Reader.Blank blanks) :
    read? depth (Printer.value l 0 v ++ blanks) = some v := by
  have setOff : Reader.SetOff blanks := fun c hc => .inl (hb c (List.mem_of_mem_head? hc))
  have behind : Reader.skip blanks = [] := by
    rw [← List.append_nil blanks, Reader.skip_append hb]
    rfl
  rw [read?, Printer.skip_value, Printer.readsBack hl nested 0 _ _ (by simp; omega) setOff]
  simp [behind]

/-- A value is read back however it is laid out. -/
theorem parse?_value {l : Printer.Layout} (hl : l.IsBlank) {v : Json} (nested : Nested maxDepth v) :
    parse? (String.ofList (Printer.value l 0 v)) = some v := by
  simpa [parse?] using read?_value hl nested Reader.blank_nil

/-- A value on one line is read back. -/
theorem parse?_compact {v : Json} (nested : Nested maxDepth v) : parse? v.compact = some v :=
  parse?_value Printer.Layout.oneLine_isBlank nested

/-- A value on several lines is read back, also from text that ends its last line. -/
theorem parse?_pretty {v : Json} (nested : Nested maxDepth v) (indent : Nat) :
    parse? (v.pretty indent) = some v ∧ parse? (v.pretty indent ++ "\n") = some v := by
  have read {blanks : List Char} (hb : Reader.Blank blanks) :=
    read?_value (Printer.Layout.lines_isBlank indent) nested hb
  have lineEnd : Reader.Blank ['\n'] := by simp [Reader.Blank, Reader.isBlank]
  refine ⟨?_, ?_⟩
  · simpa [parse?, pretty] using read Reader.blank_nil
  · simpa [parse?, pretty] using read lineEnd

end ModuleAtlas.Json
