import ModuleAtlas.Proofs.Disk.Agreement

/-!
# Writing one file

A file that is put in a directory, in the place of another file or where there was nothing, leaves
what lies at all other places.
-/
namespace ModuleAtlas

namespace Entry

theorem lookup_cons (n m : Name) (e : Entry) (es : List (Name × Entry)) :
    ((m, e) :: es).lookup n = if n = m then some e else es.lookup n := by
  rw [List.lookup_cons]
  by_cases h : n = m
  · simp [h]
  · have differ : (n == m) = false := beq_false_of_ne h
    simp [h, differ]

theorem lookup_put (name : Name) (e : Entry) (es : List (Name × Entry)) (n : Name) :
    (put name e es).lookup n = if n = name then some e else es.lookup n := by
  induction es with
  | nil => exact lookup_cons n name e []
  | cons x es ih =>
    obtain ⟨m, d⟩ := x
    by_cases same : m = name
    · subst same
      rw [put, if_pos rfl, lookup_cons, lookup_cons]
      split <;> rfl
    · rw [put, if_neg same, lookup_cons, lookup_cons, ih]
      grind

theorem node?_directory_cons (r : Option Refusal) (es : List (Name × Entry)) (n : Name)
    (q : List Name) : (directory r es).node? (n :: q) = (es.lookup n).bind (·.node? q) := by
  rw [← List.singleton_append, node?_append, at?_singleton]
  rfl

/-- All that contains a place are directories. -/
def HasWay (e : Entry) (place : List Name) : Prop :=
  ∀ way below, place = way ++ below → below ≠ [] → e.HasDirectory way

/-- A file that is put at a place, where something may lie or not, leaves the nodes at all others.
-/
theorem update_file (content : List UInt8) (place : List Name) (old : Option Entry)
    (way : ∀ above below, place = above ++ below → below ≠ [] →
      ∃ e, old = some e ∧ e.HasDirectory above)
    (dead : ∀ e, old = some e → e.IsDead place) :
    ∃ new, update (fun _ => some (.file content)) place old = some new ∧
      new.node? place = some (.file content) ∧
      ∀ q ≠ place, old.bind (·.node? q) = new.node? q := by
  induction place generalizing old with
  | nil =>
    refine ⟨.file content, rfl, rfl, fun q hq => ?_⟩
    obtain ⟨n, q, rfl⟩ := List.exists_cons_of_ne_nil hq
    match old with
    | none => rfl
    | some (.file _) => rfl
    | some (.link _) => rfl
    | some (.directory r es) => exact absurd ⟨r, rfl⟩ (dead _ rfl).not_directory
  | cons n place ih =>
    obtain ⟨e, rfl, r, hr⟩ := way [] (n :: place) rfl (by simp)
    obtain ⟨es, hes⟩ := at?_directory.1 hr
    obtain rfl : e = .directory r es := Option.some.inj hes
    have way' : ∀ above below, place = above ++ below → below ≠ [] →
        ∃ child, es.lookup n = some child ∧ child.HasDirectory above := by
      intro above below split hb
      obtain ⟨_, same, r', hr'⟩ := way (n :: above) below (by rw [split]; rfl) hb
      cases same
      rw [node?_directory_cons] at hr'
      obtain ⟨child, found, node⟩ := Option.bind_eq_some_iff.1 hr'
      exact ⟨child, found, r', node⟩
    have dead' : ∀ child, es.lookup n = some child → child.IsDead place := by
      intro child found
      have dead := dead _ rfl
      rwa [IsDead, node?_directory_cons, found] at dead
    -- The file is put below the entry with the first name, or in the place of that entry.
    obtain ⟨new, done, node, same⟩ := ih (es.lookup n) way' dead'
    refine ⟨.directory r (put n new es), ?_, ?_, ?_⟩
    · simp [update, entries, refusal?, done]
    · rw [node?_directory_cons, lookup_put, if_pos rfl, Option.bind_some, node]
    · intro q hq
      cases q with
      | nil => rfl
      | cons m q =>
        rw [Option.bind_some, node?_directory_cons, node?_directory_cons, lookup_put]
        by_cases h : m = n
        · subst h
          rw [if_pos rfl, Option.bind_some, same q (by simpa using hq)]
        · rw [if_neg h]

end Entry

namespace Disk

variable {d : Disk} {place : List Name}

/-- A file that is written where a file or nothing has been changes no other place. -/
theorem agreeExcept_update (content : List UInt8) (way : d.top.HasWay place)
    (dead : d.top.IsDead place) :
    AgreeExcept place d (d.update place fun _ => some (.file content)) ∧
      (d.update place fun _ => some (.file content)).top.node? place = some (.file content) := by
  obtain ⟨e, done, node, agree⟩ := Entry.update_file content place (some d.top)
    (fun above below split hb => ⟨d.top, rfl, way above below split hb⟩)
    (fun e same => Option.some.inj same ▸ dead)
  have top : (d.update place fun _ => some (.file content)).top = e := by
    simp [update, done]
  refine ⟨⟨rfl, ?_⟩, ?_⟩
  · rw [top]
    exact agree
  · rw [top, node]

end Disk

end ModuleAtlas
