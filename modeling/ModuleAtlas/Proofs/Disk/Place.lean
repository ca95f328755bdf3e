import ModuleAtlas.Disk
import Mathlib.Data.List.Basic
import Mathlib.Data.List.Nodup

/-!
# What lies at a place

An entry is known by its nodes: what lies at each place, without what is in it. Two disks are
compared node by node, so that the order in which a directory holds its entries does not count.

## Main definitions

* `Entry.isProper` — the names in every directory are names of a file system, and differ.
* `Entry.AgreeExcept` — two entries with the same nodes at all places but one.
-/
namespace ModuleAtlas

open Text

/-- A name that a file system gives: not empty, not a way to stay or to go up, and without slashes
and null bytes. -/
def properName (n : Name) : Bool :=
  !n.isEmpty && n != [Path.dot] && n != Path.parent && !n.contains Path.slash && !Path.hasNul n

namespace Entry

mutual

/-- The names in every directory are proper, and no two in one directory are the same. -/
def isProper : Entry → Bool
  | directory _ es => decide (es.map Prod.fst).Nodup && allProper es
  | file _ | link _ => true

def allProper : List (Name × Entry) → Bool
  | [] => true
  | (n, e) :: rest => properName n && e.isProper && allProper rest

end

/-! ## Places -/

@[simp] theorem at?_nil (e : Entry) : e.at? [] = some e := rfl

theorem at?_cons (e : Entry) (n : Name) (q : List Name) :
    e.at? (n :: q) = (e.entries.lookup n).bind (·.at? q) := rfl

@[simp] theorem at?_singleton (e : Entry) (n : Name) : e.at? [n] = e.entries.lookup n := by
  rw [at?_cons]
  cases e.entries.lookup n <;> rfl

theorem at?_append (e : Entry) (p q : List Name) :
    e.at? (p ++ q) = (e.at? p).bind (·.at? q) := by
  induction p generalizing e with
  | nil => rfl
  | cons n p ih =>
    rw [List.cons_append, at?_cons, at?_cons]
    cases e.entries.lookup n with
    | none => rfl
    | some child => exact ih child

/-- What has an entry in it is a directory. -/
theorem directory_of_at?_cons {e child : Entry} {n : Name} {q : List Name}
    (h : e.at? (n :: q) = some child) : ∃ r es, e = .directory r es := by
  cases e with
  | directory r es => exact ⟨r, es, rfl⟩
  | file _ => simp [at?_cons, entries] at h
  | link _ => simp [at?_cons, entries] at h

/-- Nothing is in what is no directory. -/
theorem eq_of_at? {e x : Entry} {q : List Name} (h : e.isDirectory = false)
    (found : e.at? q = some x) : q = [] ∧ x = e := by
  cases q with
  | nil => exact ⟨rfl, (Option.some.inj found).symm⟩
  | cons n q =>
    obtain ⟨r, es, rfl⟩ := directory_of_at?_cons found
    cases h

theorem node?_append (e : Entry) (p q : List Name) :
    e.node? (p ++ q) = (e.at? p).bind (·.node? q) := by
  rw [node?, at?_append]
  cases e.at? p <;> rfl

theorem node?_of_at? {e child : Entry} {p : List Name} (h : e.at? p = some child)
    (q : List Name) : e.node? (p ++ q) = child.node? q := by
  rw [node?_append, h, Option.bind_some]

theorem node?_eq_some {e : Entry} {q : List Name} {x : Node} :
    e.node? q = some x ↔ ∃ child, e.at? q = some child ∧ child.node = x := by
  simp [node?]

theorem at?_directory {e : Entry} {q : List Name} {r : Option Refusal} :
    e.node? q = some (.directory r) ↔ ∃ es, e.at? q = some (.directory r es) := by
  rw [node?_eq_some]
  constructor
  · rintro ⟨child, h, hnode⟩
    cases child with
    | directory r' es => cases hnode; exact ⟨es, h⟩
    | file _ => cases hnode
    | link _ => cases hnode
  · rintro ⟨es, h⟩
    exact ⟨_, h, rfl⟩

theorem at?_link {e : Entry} {q : List Name} {target : Path} :
    e.node? q = some (.link target) ↔ e.at? q = some (.link target) := by
  rw [node?_eq_some]
  constructor
  · rintro ⟨child, h, hnode⟩
    cases child with
    | link _ => cases hnode; exact h
    | file _ => cases hnode
    | directory _ _ => cases hnode
  · intro h
    exact ⟨_, h, rfl⟩

/-- A place above another one that holds something is a directory. -/
theorem directory_of_node?_append {e : Entry} {p q : List Name} {x : Node} (hq : q ≠ [])
    (h : e.node? (p ++ q) = some x) : ∃ r, e.node? p = some (.directory r) := by
  obtain ⟨child, hchild, -⟩ := node?_eq_some.1 h
  rw [at?_append] at hchild
  obtain ⟨above, habove, hbelow⟩ := Option.bind_eq_some_iff.1 hchild
  obtain ⟨n, q, rfl⟩ := List.exists_cons_of_ne_nil hq
  obtain ⟨r, es, rfl⟩ := directory_of_at?_cons hbelow
  exact ⟨r, at?_directory.2 ⟨es, habove⟩⟩

theorem isDirectory_of_node {e e' : Entry} (h : e.node = e'.node) :
    e.isDirectory = e'.isDirectory := by
  cases e <;> cases e' <;> first | rfl | cases h

theorem trouble?_of_node {e e' : Entry} (h : e.node = e'.node) (listings : Nat) :
    e.trouble? listings = e'.trouble? listings := by
  have refusal : e.refusal? = e'.refusal? := by
    cases e <;> cases e' <;> cases h <;> rfl
  rw [trouble?, trouble?, refusal]

/-! ## Proper names -/

theorem allProper_iff {es : List (Name × Entry)} :
    allProper es = true ↔ ∀ x ∈ es, properName x.1 = true ∧ x.2.isProper = true := by
  induction es with
  | nil => simp [allProper]
  | cons x es ih => simp [allProper, ih]

theorem isProper_directory {r : Option Refusal} {es : List (Name × Entry)} :
    (directory r es).isProper = true ↔
      (es.map Prod.fst).Nodup ∧ ∀ x ∈ es, properName x.1 = true ∧ x.2.isProper = true := by
  simp [isProper, allProper_iff]

/-- In a directory with different names an entry is found by its name. -/
theorem lookup_iff_mem {es : List (Name × Entry)} (h : (es.map Prod.fst).Nodup) {n : Name}
    {e : Entry} : es.lookup n = some e ↔ (n, e) ∈ es := by
  induction es with
  | nil => simp
  | cons x es ih =>
    obtain ⟨m, d⟩ := x
    have ⟨hm, hes⟩ := List.nodup_cons.1 h
    rw [List.lookup_cons, List.mem_cons]
    by_cases hn : n = m
    · subst hn
      have absent : (n, e) ∉ es := fun mem => hm (List.mem_map.2 ⟨_, mem, rfl⟩)
      simp [absent, eq_comm]
    · have differ : (n == m) = false := beq_false_of_ne hn
      simp [differ, hn, ih hes]

theorem nodup_entries {e : Entry} (he : e.isProper = true) : (e.entries.map Prod.fst).Nodup := by
  cases e with
  | directory r es => exact (isProper_directory.1 he).1
  | file _ => simp [entries]
  | link _ => simp [entries]

theorem lookup_entries {e child : Entry} (he : e.isProper = true) {n : Name} :
    e.entries.lookup n = some child ↔ (n, child) ∈ e.entries :=
  lookup_iff_mem (nodup_entries he)

theorem isProper_of_lookup {e child : Entry} {n : Name} (he : e.isProper = true)
    (h : e.entries.lookup n = some child) : properName n = true ∧ child.isProper = true := by
  cases e with
  | directory r es =>
    have ⟨hnames, hall⟩ := isProper_directory.1 he
    exact hall _ ((lookup_iff_mem hnames).1 h)
  | file _ => simp [entries] at h
  | link _ => simp [entries] at h

theorem isProper_of_at? {e child : Entry} {q : List Name} (he : e.isProper = true)
    (h : e.at? q = some child) : child.isProper = true ∧ ∀ n ∈ q, properName n = true := by
  induction q generalizing e with
  | nil =>
    cases h
    exact ⟨he, by simp⟩
  | cons n q ih =>
    rw [at?_cons] at h
    obtain ⟨next, hnext, hbelow⟩ := Option.bind_eq_some_iff.1 h
    have ⟨hn, hproper⟩ := isProper_of_lookup he hnext
    have ⟨hchild, hq⟩ := ih hproper hbelow
    exact ⟨hchild, List.forall_mem_cons.2 ⟨hn, hq⟩⟩

/-! ## Entries that differ at one place -/

/-- The same nodes at all places but one. -/
def AgreeExcept (p : List Name) (e e' : Entry) : Prop := ∀ q, q ≠ p → e.node? q = e'.node? q

theorem AgreeExcept.symm {p : List Name} {e e' : Entry} (h : AgreeExcept p e e') :
    AgreeExcept p e' e := fun q hq => (h q hq).symm

/-- Below a place on the way to the one where they differ, they agree just as well. -/
theorem AgreeExcept.below {way p : List Name} {e e' child child' : Entry}
    (h : AgreeExcept (way ++ p) e e') (hchild : e.at? way = some child)
    (hchild' : e'.at? way = some child') : AgreeExcept p child child' := by
  intro q hq
  have agree := h (way ++ q) (by simpa using hq)
  rwa [node?_of_at? hchild, node?_of_at? hchild'] at agree

end Entry

end ModuleAtlas
