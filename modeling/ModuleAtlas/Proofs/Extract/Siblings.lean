import ModuleAtlas.Proofs.Tree.Order
import Mathlib.Data.List.Forall2

/-!
# What the children of a node show

Some of the children of a node say what it means; comments and punctuation stand between them. A
search for a field, for a kind of node or for a token finds what it would find without what stands
between.

## Main definitions

* `Interspersed` — a row with extra elements between its own.
* `Tree.Specifier.ShownBy` — the nodes that a name in braces is read from.
-/
namespace ModuleAtlas

/-! ## Rows with extra elements -/

/-- A row, and the same row with extra elements between its own. -/
inductive Interspersed {α : Type} (extra : α → Prop) : List α → List α → Prop where
  | nil : Interspersed extra [] []
  | keep {x : α} {xs ys : List α} (h : Interspersed extra xs ys) :
      Interspersed extra (x :: xs) (x :: ys)
  | between {y : α} {xs ys : List α} (hy : extra y) (h : Interspersed extra xs ys) :
      Interspersed extra xs (y :: ys)

namespace Interspersed

variable {α β : Type} {extra : α → Prop} {xs ys : List α}

theorem filter_eq (h : Interspersed extra xs ys) (p : α → Bool)
    (out : ∀ y, extra y → p y = false) : ys.filter p = xs.filter p := by
  induction h with
  | nil => rfl
  | keep _ ih => rw [List.filter_cons, List.filter_cons, ih]
  | between hy _ ih => rw [List.filter_cons_of_neg (by simp [out _ hy]), ih]

theorem filter (h : Interspersed extra xs ys) (p : α → Bool) :
    Interspersed extra (xs.filter p) (ys.filter p) := by
  induction h with
  | nil => exact .nil
  | keep _ ih =>
    rw [List.filter_cons, List.filter_cons]
    split
    · exact .keep ih
    · exact ih
  | between hy _ ih =>
    rw [List.filter_cons]
    split
    · exact .between hy ih
    · exact ih

theorem find?_eq (h : Interspersed extra xs ys) (p : α → Bool)
    (out : ∀ y, extra y → p y = false) : ys.find? p = xs.find? p := by
  rw [← List.head?_filter, ← List.head?_filter, h.filter_eq p out]

theorem any_eq (h : Interspersed extra xs ys) (p : α → Bool)
    (out : ∀ y, extra y → p y = false) : ys.any p = xs.any p := by
  rw [← List.isSome_find?, ← List.isSome_find?, h.find?_eq p out]

theorem flatMap_eq (h : Interspersed extra xs ys) (f : α → List β)
    (out : ∀ y ∈ ys, extra y → f y = []) : ys.flatMap f = xs.flatMap f := by
  induction h with
  | nil => rfl
  | keep _ ih =>
    rw [List.flatMap_cons, List.flatMap_cons, ih fun y hy => out y (List.mem_cons_of_mem _ hy)]
  | between hy _ ih =>
    rw [List.flatMap_cons, out _ List.mem_cons_self hy, List.nil_append,
      ih fun y hy => out y (List.mem_cons_of_mem _ hy)]

theorem foldl_eq (h : Interspersed extra xs ys) (f : β → α → β)
    (out : ∀ y, extra y → ∀ b, f b y = b) (b : β) : ys.foldl f b = xs.foldl f b := by
  induction h generalizing b with
  | nil => rfl
  | keep _ ih => exact ih _
  | between hy _ ih => rw [List.foldl_cons, out _ hy, ih]

/-- All of the one row is in the other. -/
theorem mem (h : Interspersed extra xs ys) {x : α} (hx : x ∈ xs) : x ∈ ys := by
  induction h <;> grind

end Interspersed

/-- What need not be there. -/
inductive Optionally {α β : Type} (shown : α → β → Prop) : Option α → List β → Prop where
  | absent : Optionally shown none []
  | present {a : α} {b : β} (h : shown a b) : Optionally shown (some a) [b]

theorem Optionally.forall_mem {α β : Type} {shown : α → β → Prop} {a? : Option α} {bs : List β}
    {p : β → Prop} (h : Optionally shown a? bs) (all : ∀ a b, shown a b → p b) : ∀ b ∈ bs, p b := by
  cases h with
  | absent => simp
  | present h => simpa using all _ _ h

namespace Tree

/-! ## Searching children -/

section
variable {extra : Tree → Prop} {parts : List Tree} {t : Tree}

theorem child?_eq (h : Interspersed extra parts t.children) (field : String)
    (out : ∀ c, extra c → c.field ≠ some field) :
    t.child? field = parts.find? fun c => c.field == some field :=
  h.find?_eq _ fun c hc => by simpa using out c hc

theorem first?_eq (h : Interspersed extra parts t.children) (kind : String)
    (out : ∀ c, extra c → c.named = true → c.kind ≠ kind) :
    t.first? kind = parts.find? fun c => c.named && c.kind == kind := by
  have both : t.first? kind = t.children.find? fun c => c.named && c.kind == kind := by
    simp only [first?, namedChildren, List.find?_filter, Bool.decide_and, Bool.decide_eq_true]
  rw [both, h.find?_eq _ fun c hc => by simpa using out c hc]

theorem hasToken_eq (h : Interspersed extra parts t.children) (kind : String)
    (out : ∀ c, extra c → c.named = false → c.kind ≠ kind) :
    t.hasToken kind = parts.any fun c => !c.named && c.kind == kind :=
  h.any_eq _ fun c hc => by simpa using out c hc

end

/-! ## Tokens, names and what stands between -/

/-- A bare token. -/
structure IsToken (kind : String) (t : Tree) : Prop where
  named : t.named = false
  kind : t.kind = kind
  field : t.field = none

/-- A named node with no role of its own. -/
structure IsNode (kind : String) (t : Tree) : Prop where
  named : t.named = true
  kind : t.kind = kind
  field : t.field = none

/-- A word that may be there. -/
inductive Marks (word : String) : Bool → List Tree → Prop where
  | absent : Marks word false []
  | present {t : Tree} (h : t.IsToken word) : Marks word true [t]

namespace Marks

variable {word : String} {marked : Bool} {marks : List Tree}

theorem any_eq (h : Marks word marked marks) :
    marks.any (fun c => !c.named && c.kind == word) = marked := by
  cases h with
  | absent => rfl
  | present token => simp [token.named, token.kind]

/-- What is not looked for among tokens is behind them. -/
theorem find?_append (h : Marks word marked marks) (parts : List Tree) (p : Tree → Bool)
    (out : ∀ c, c.IsToken word → p c = false) : (marks ++ parts).find? p = parts.find? p := by
  cases h with
  | absent => rfl
  | present token => rw [List.singleton_append, List.find?_cons, out _ token]

end Marks

/-- A named node with a text and no role of its own. -/
structure Says (kind s : String) (t : Tree) : Prop extends t.IsNode kind where
  text : t.text = s

/-- What says nothing: comments, attributes and punctuation. -/
structure IsFiller (t : Tree) : Prop where
  field : t.field = none
  named : t.named = true → t.kind ∈ ["comment", "html_comment", "import_attribute"]
  token : t.named = false → t.kind ≠ "type"

/-- A text in quotes. -/
def Quotes (text s : String) : Prop :=
  ∃ q : Char, (q = '\'' ∨ q = '"' ∨ q.toNat = 0x60) ∧ text.toList = q :: (s.toList ++ [q])

theorem Quotes.unquoted {text s : String} (h : Quotes text s) : unquoted text = s := by
  obtain ⟨q, quote, text⟩ := h
  have quote : (q = '\'' || q = '"' || q.toNat = 0x60) = true := by
    simpa [or_assoc] using quote
  rw [ModuleAtlas.unquoted, text]
  simp [quote]

/-- A name, which may be in quotes. -/
structure Spells (s : String) (t : Tree) : Prop where
  named : t.named = true
  text : if t.kind = "string" then Quotes t.text s else t.text = s

/-- A name with a role. -/
structure Names (field s : String) (t : Tree) : Prop extends t.Spells s where
  field : t.field = some field

theorem Spells.nameText {s : String} {t : Tree} (h : t.Spells s) : t.nameText = s := by
  have text := h.text
  rw [Tree.nameText]
  by_cases quoted : t.kind = "string"
  · rw [if_pos quoted] at text
    rw [if_pos (by simpa using quoted), text.unquoted]
  · rw [if_neg quoted] at text
    rw [if_neg (by simpa using quoted), text]

theorem IsFiller.kind_ne {kind : String} {t : Tree} (h : t.IsFiller) (named : t.named = true)
    (new : kind ∉ ["comment", "html_comment", "import_attribute"]) : t.kind ≠ kind :=
  fun same => new (same ▸ h.named named)

/-- Going through the named children is going through the nodes that say something. -/
theorem foldl_namedChildren {α : Type} {parts : List Tree} {t : Tree}
    (h : Interspersed IsFiller parts t.children) (named : ∀ c ∈ parts, c.named = true)
    (f : α → Tree → α) (out : ∀ c, c.IsFiller → c.named = true → ∀ a, f a c = a) (a : α) :
    t.namedChildren.foldl f a = parts.foldl f a := by
  rw [namedChildren, List.foldl_filter, h.foldl_eq, ← List.foldl_filter,
    List.filter_eq_self.2 named]
  intro c hc a
  split
  · exact out c hc ‹_› a
  · rfl

/-! ## Specifiers -/

/-- A name in the braces of an import or export, with another name for it. -/
structure Specifier where
  typed : Bool
  name : String
  alias? : Option String

namespace Specifier

variable {kind : String} {s : Specifier} {t : Tree}

def binding (s : Specifier) : String := s.alias?.getD s.name

/-- The nodes of a specifier. -/
def ShownBy (kind : String) (s : Specifier) (t : Tree) : Prop :=
  t.IsNode kind ∧ ∃ marks name aliases,
    Marks "type" s.typed marks ∧ name.Names "name" s.name ∧
    Optionally (fun a c => c.Names "alias" a) s.alias? aliases ∧
    Interspersed IsFiller (marks ++ name :: aliases) t.children

theorem ShownBy.hasToken (h : s.ShownBy kind t) : t.hasToken "type" = s.typed := by
  obtain ⟨isTyped, own, other?⟩ := s
  obtain ⟨-, marks, name, aliases, typed, named, aliased, children⟩ := h
  rw [hasToken_eq children "type" fun c hc => hc.token]
  have rest : (name :: aliases).any (fun c => !c.named && c.kind == "type") = false := by
    cases aliased with
    | absent => simp [named.named]
    | present again => simp [named.named, again.named]
  rw [List.any_append, typed.any_eq, rest, Bool.or_false]

theorem ShownBy.binding (h : s.ShownBy kind t) : t.binding = s.binding := by
  obtain ⟨isTyped, own, other?⟩ := s
  obtain ⟨-, marks, name, aliases, typed, named, aliased, children⟩ := h
  have noField (f : String) (c : Tree) (hc : c.IsFiller) : c.field ≠ some f := by simp [hc.field]
  have unmarked (f : String) : (marks ++ name :: aliases).find? (fun c => c.field == some f) =
      (name :: aliases).find? fun c => c.field == some f :=
    typed.find?_append _ _ fun c token => by simp [token.field]
  rw [Tree.binding, child?_eq children "alias" (noField _), child?_eq children "name" (noField _),
    unmarked, unmarked]
  cases aliased with
  | absent => simp [Specifier.binding, named.field, named.nameText]
  | present again => simp [Specifier.binding, named.field, again.field, again.nameText]

theorem isNode_of_shown {specs : List Specifier} {nodes : List Tree}
    (h : List.Forall₂ (ShownBy kind) specs nodes) : ∀ c ∈ nodes, c.IsNode kind := by
  induction h with
  | nil => simp
  | cons hnode _ ih => exact List.forall_mem_cons.2 ⟨hnode.1, ih⟩

end Specifier

/-! ## Sample trees -/

namespace Sample

theorem token_isToken (word : String) : (token word).IsToken word := ⟨rfl, rfl, rfl⟩

theorem leaf_names (field s : String) : (leaf "identifier" (some field) s).Names field s :=
  ⟨⟨rfl, rfl⟩, rfl⟩

theorem leaf_shown (kind s : String) : (leaf kind none s).Says kind s := ⟨⟨rfl, rfl, rfl⟩, rfl⟩

theorem token_isFiller {word : String} (h : word ≠ "type") : (token word).IsFiller :=
  ⟨rfl, nofun, fun _ => h⟩

theorem comment_isFiller (text : String) : (leaf "comment" none text).IsFiller :=
  ⟨rfl, fun _ => List.mem_cons_self, nofun⟩

end Sample

end Tree

end ModuleAtlas
