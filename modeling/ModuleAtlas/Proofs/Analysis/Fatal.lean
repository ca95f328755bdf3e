import ModuleAtlas.Proofs.Analysis.Faults

/-!
# What is fatal

A tree is refused for its root alone: nothing lies where the path of the root leads, or no
directory, or one that refuses one of the two times that it is listed. A trouble that names its
directory is taken for one with the root when the paths are the same, and no place below a root
comes to the path of the root, whatever its names are.

## Main definitions

* `Disk.NamesTroubles` — a directory that cannot be listed is named by its trouble.
* `Discovery.RootFault` — what is wrong with a root, by what lies where its path leads.
-/
namespace ModuleAtlas

/-- Each directory that refuses to be listed is named by its trouble. The reason is the text that
the system has for it or, where it has none, that of the error itself. -/
def Disk.NamesTroubles (d : Disk) : Prop :=
  ∀ q r, d.top.node? q = some (.directory (some r)) → ∃ reason, r.trouble = .known reason

namespace Disk

theorem nodeAt_eq (d : Disk) (p : Path) : d.nodeAt p = (d.find p).map Entry.node := by
  rw [Disk.nodeAt, Disk.find]
  cases d.locate p with
  | error x => rfl
  | ok q =>
    simp only [Entry.node?]
    cases d.top.at? q <;> rfl

theorem nodeAt_eq_ok {d : Disk} {p : Path} {x : Node} :
    d.nodeAt p = .ok x ↔ ∃ e, d.find p = .ok e ∧ e.node = x := by
  rw [nodeAt_eq]
  cases d.find p <;> simp [Except.map]

theorem nodeAt_eq_error {d : Disk} {p : Path} {x : Errno} :
    d.nodeAt p = .error x ↔ d.find p = .error x := by
  rw [nodeAt_eq]
  cases d.find p <;> simp [Except.map]

theorem exists_directory {d : Disk} {p : Path} {r : Option Refusal}
    (h : d.nodeAt p = .ok (.directory r)) : ∃ es, d.find p = .ok (.directory r es) := by
  obtain ⟨e, found, node⟩ := nodeAt_eq_ok.1 h
  cases e with
  | directory r' es =>
    cases node
    exact ⟨es, found⟩
  | file _ => cases node
  | link _ => cases node

end Disk

namespace Discovery

/-- What is wrong with a root. It is listed once before the walk and once by the walk. -/
inductive RootFault (d : Disk) (root : Path) : String → Prop where
  | missing (h : root.hasNul = true ∨ ∃ x, d.nodeAt root = .error x) :
      RootFault d root "no such directory"
  | notDirectory {x : Node} (noNul : root.hasNul = false) (h : d.nodeAt root = .ok x)
      (other : ∀ r, x ≠ .directory r) : RootFault d root "not a directory"
  | refused {r : Option Refusal} {k : Nat} {t : Trouble} (noNul : root.hasNul = false)
      (h : d.nodeAt root = .ok (.directory r)) (twice : k < 2)
      (trouble : Refusal.trouble? r k = some t) : RootFault d root t.reason

/-- A directory that refuses to be listed refuses for the same reason later on. -/
theorem trouble?_mono {r : Option Refusal} {t : Trouble} {k l : Nat} (hkl : k ≤ l)
    (h : Refusal.trouble? r k = some t) : Refusal.trouble? r l = some t := by
  simp only [Refusal.trouble?, Option.map_eq_some_iff, Option.filter_eq_some_iff,
    decide_eq_true_eq] at h ⊢
  obtain ⟨refusal, ⟨known, reached⟩, rfl⟩ := h
  exact ⟨refusal, ⟨known, Nat.le_trans reached hkl⟩, rfl⟩

section Root

variable {d : Disk} {root : Path} {c : Config} {stop : StopSignal} {r : Option Refusal}
  {es : List (Name × Entry)}

/-- A directory that is listed before the walk. -/
theorem openRoot_of_directory (noNul : root.hasNul = false)
    (found : d.find root = .ok (.directory r es)) (listed : Refusal.trouble? r 0 = none) :
    openRoot d root = .ok (.directory r es) :=
  openRoot_eq_ok.2 ⟨find_eq_ok.1 found, noNul, rfl, listed⟩

theorem discover_of_missing (h : root.hasNul = true ∨ ∃ x, d.nodeAt root = .error x) :
    discover d root c stop = .error ⟨root, "no such directory"⟩ := by
  cases found : d.find root with
  | error x => simp [discover, openRoot, found]
  | ok e =>
    have nul : root.hasNul = true := by
      refine h.resolve_right ?_
      rintro ⟨x, failed⟩
      cases (Disk.nodeAt_eq_error.1 failed).symm.trans found
    simp [discover, openRoot, found, nul]

theorem discover_of_notDirectory {x : Node} (noNul : root.hasNul = false)
    (h : d.nodeAt root = .ok x) (other : ∀ r, x ≠ .directory r) :
    discover d root c stop = .error ⟨root, "not a directory"⟩ := by
  obtain ⟨e, found, rfl⟩ := Disk.nodeAt_eq_ok.1 h
  have notDirectory : e.isDirectory = false := by
    cases e with
    | directory r es => exact absurd rfl (other r)
    | file _ => rfl
    | link _ => rfl
  simp [discover, openRoot, found, noNul, notDirectory]

/-- The first listing is part of the look at the root, the second one starts the walk. -/
theorem discover_of_refused {k : Nat} {reason : String} (same : d.absolute root = root)
    (noNul : root.hasNul = false) (found : d.find root = .ok (.directory r es)) (twice : k < 2)
    (trouble : Refusal.trouble? r k = some (.known reason)) :
    discover d root c stop = .error ⟨root, reason⟩ := by
  cases first : Refusal.trouble? r 0 with
  | some t =>
    have sooner := (trouble?_mono (Nat.zero_le k) first).symm.trans trouble
    cases sooner
    have refused : (Entry.directory r es).trouble? 0 = some (.known reason) := first
    have dir : (Entry.directory r es).isDirectory = true := rfl
    simp [discover, openRoot, found, noNul, refused, dir, Trouble.reason]
  | none =>
    have second : (Entry.directory r es).trouble? 1 = some (.known reason) :=
      trouble?_mono (Nat.le_of_lt_succ twice) trouble
    have concerned : concernsRoot d root [] (.known reason) = true := by
      simp [concernsRoot, namedPath, fullPath, same]
    simp [discover, openRoot_of_directory noNul found first, visits, second, run, concerned,
      Trouble.reason]

/-- When nothing is wrong with the root, there is no trouble that the walk takes for one with it. -/
theorem exists_listable_of_sound (named : d.NamesTroubles)
    (h : ∀ reason, ¬ RootFault d root reason) : ∃ e, Listable d root e := by
  have noNul : root.hasNul = false :=
    Bool.eq_false_iff.2 fun nul => h _ (.missing (.inl nul))
  cases there : d.nodeAt root with
  | error x => exact absurd (.missing (.inr ⟨x, there⟩)) (h _)
  | ok x =>
    obtain ⟨r, rfl⟩ : ∃ r, x = .directory r := by
      by_contra other
      exact h _ (.notDirectory noNul there fun r same => other ⟨r, same⟩)
    have listed (k : Nat) (twice : k < 2) : Refusal.trouble? r k = none := by
      by_contra refused
      obtain ⟨t, trouble⟩ := Option.ne_none_iff_exists'.1 refused
      exact h _ (.refused noNul there twice trouble)
    obtain ⟨es, found⟩ := Disk.exists_directory there
    obtain ⟨above, -, lies⟩ := find_eq_ok.1 found
    refine ⟨_, openRoot_of_directory noNul found (listed 0 (by omega)), listed 1 (by omega), ?_⟩
    intro q refusal reason node trouble
    cases refusal with
    | none => cases trouble
    | some refusal =>
      obtain ⟨text, known⟩ := named (above ++ q) refusal (by rw [Entry.node?_of_at? lies, node])
      simp only [Refusal.trouble?, Option.map_eq_some_iff, Option.filter_eq_some_iff] at trouble
      obtain ⟨_, ⟨⟨⟩, -⟩, unnamed⟩ := trouble
      cases known.symm.trans unnamed

/-- Discovery fails with what is wrong with the root. -/
theorem discover_of_rootFault (named : d.NamesTroubles) (same : d.absolute root = root)
    {reason : String} (h : RootFault d root reason) :
    discover d root c stop = .error ⟨root, reason⟩ := by
  cases h with
  | missing nothing => exact discover_of_missing nothing
  | notDirectory noNul there other => exact discover_of_notDirectory noNul there other
  | @refused r k t noNul there twice trouble =>
    obtain ⟨es, found⟩ := Disk.exists_directory there
    obtain ⟨above, -, lies⟩ := find_eq_ok.1 found
    cases r with
    | none => cases trouble
    | some refusal =>
      obtain ⟨text, known⟩ := named above refusal (Entry.at?_directory.2 ⟨es, lies⟩)
      obtain rfl : t = .known text := by
        simp only [Refusal.trouble?, Option.map_eq_some_iff, Option.filter_eq_some_iff] at trouble
        obtain ⟨_, ⟨⟨⟩, -⟩, rfl⟩ := trouble
        exact known
      exact discover_of_refused same noNul found twice trouble

theorem discover_eq_error_iff (hd : d.IsProper) (named : d.NamesTroubles)
    (same : d.absolute root = root) {f : DiscoveryFault} :
    discover d root c stop = .error f ↔ ∃ reason, RootFault d root reason ∧ f = ⟨root, reason⟩ := by
  constructor
  · intro failed
    by_cases h : ∃ reason, RootFault d root reason
    · obtain ⟨reason, fault⟩ := h
      cases failed.symm.trans (discover_of_rootFault named same fault)
      exact ⟨reason, fault, rfl⟩
    · obtain ⟨e, hroot⟩ := exists_listable_of_sound named (not_exists.1 h)
      cases failed.symm.trans (discover_eq hd hroot stop)
  · rintro ⟨reason, fault, rfl⟩
    exact discover_of_rootFault named same fault

end Root

end Discovery

open Discovery

/-- Where settings are at hand, discovery and analysis fail exactly with what is wrong with the
root, and name it by its absolute path. No directory below the root is fatal, whatever its name and
however many of them refuse to be listed, and neither is any file, nor the signal; otherwise each
run of the workers has an ending. -/
theorem fatal_exactly_at_root {d : Disk} (hd : d.IsProper) (named : d.NamesTroubles) (path : Path)
    (c : Config) (stop : StopSignal) (read : FileReader) (parse : SourceParser) {env : Environment}
    {kept : Settings.Kept} {asked : Option Int} (atHand : Settings.AtHand env kept asked) :
    Path.isAbsolute (d.absolute path) = true ∧
    (∀ f, discover d (d.absolute path) c stop = .error f ↔
      ∃ reason, RootFault d (d.absolute path) reason ∧ f = ⟨d.absolute path, reason⟩) ∧
    (∀ x, (analyzeReading d read parse env kept ⟨path, c, asked, stop⟩).1 = .error x ↔
      ∃ reason, RootFault d (d.absolute path) reason ∧
        x = .discovery ⟨d.absolute path, reason⟩) ∧
    ((∃ a, Analyzes d read parse env kept ⟨path, c, asked, stop⟩ a) ↔
      ∀ reason, ¬ RootFault d (d.absolute path) reason) := by
  have same : d.absolute (d.absolute path) = d.absolute path :=
    Path.absolute_absolute hd.workingDirectory path
  have failing {f : DiscoveryFault} : discover d (d.absolute path) c stop = .error f ↔ _ :=
    discover_eq_error_iff hd named same
  obtain ⟨n, count⟩ := Settings.exists_workerCount.2 atHand
  refine ⟨hd.isAbsolute path, fun f => failing, ?_, ?_⟩
  · intro x
    rcases analyzeReading_cases hd read parse env kept ⟨path, c, asked, stop⟩ with
      ⟨fs, noCount, -⟩ | ⟨n, f, -, hfound, failed⟩ | ⟨n, found, a, -, hfound, done, -⟩
    · cases count.symm.trans noCount
    · obtain ⟨reason, fault, rfl⟩ := failing.1 hfound
      rw [failed]
      constructor
      · rintro ⟨⟩
        exact ⟨reason, fault, rfl⟩
      · rintro ⟨reason', fault', rfl⟩
        cases hfound.symm.trans (failing.2 ⟨reason', fault', rfl⟩)
        rfl
    · rw [done]
      refine ⟨nofun, ?_⟩
      rintro ⟨reason, fault, -⟩
      cases hfound.symm.trans (failing.2 ⟨reason, fault, rfl⟩)
  · constructor
    · rintro ⟨a, workers, found, -, hfound, -⟩ reason fault
      cases hfound.symm.trans (failing.2 ⟨reason, fault, rfl⟩)
    · intro sound
      obtain ⟨e, hroot⟩ := exists_listable_of_sound named sound
      have hfound := discover_eq (c := c) hd hroot stop
      have hfiles := analyzeFileRead_of_discover hd (hd.isAbsolute path) hfound read parse
      obtain ⟨a, ending⟩ := Analysis.exists_ending n.toNat stop (.ofFile read parse)
        (d.absolute path) _
      exact ⟨a, (analyzes_iff (r := ⟨path, c, asked, stop⟩) count hfound hfiles a).2 ending⟩

namespace Discovery.Sample

/-- The root may be looked at once, and is refused when the walk lists it. -/
def refusing : Disk where
  top := .directory none [([.char 'r'], .directory (some ⟨.known "Permission denied", 1⟩) [])]
  workingDirectory := [Path.slash]

theorem refusing_isProper : refusing.IsProper := ⟨by decide +kernel, by decide +kernel⟩

theorem refusing_namesTroubles : refusing.NamesTroubles := by
  intro q r node
  obtain ⟨es, here⟩ := Entry.at?_directory.1 node
  cases q with
  | nil => simp [refusing] at here
  | cons n q =>
    cases q with
    | nil =>
      simp only [refusing, Entry.at?_singleton, Entry.entries, List.lookup_cons,
        List.lookup_nil] at here
      split at here
      · cases here
        exact ⟨_, rfl⟩
      · cases here
    | cons m q =>
      simp only [refusing, Entry.at?_cons, Entry.entries, List.lookup_cons, List.lookup_nil] at here
      split at here <;> simp at here

theorem refusing_fault : RootFault refusing (refusing.absolute root) "Permission denied" := by
  have there : refusing.nodeAt (refusing.absolute root) =
      .ok (.directory (some ⟨.known "Permission denied", 1⟩)) := by decide +kernel
  exact .refused (by decide +kernel) there (k := 1) (by decide) rfl

end Discovery.Sample

theorem fatal_exactly_at_root_sample :
    discover Sample.refusing (Sample.refusing.absolute Sample.root) .standard .always =
        .error ⟨Sample.refusing.absolute Sample.root, "Permission denied"⟩ ∧
      (analyzeReading Sample.refusing Sample.refusing.reader (fun _ _ => default) [] none
        ⟨Sample.root, .standard, some 2, .always⟩).1 =
          .error (.discovery ⟨Sample.refusing.absolute Sample.root, "Permission denied"⟩) := by
  have atHand : Settings.AtHand [] none (some 2) := .inl ⟨2, rfl, by decide⟩
  obtain ⟨-, discovery, analysis, -⟩ := fatal_exactly_at_root Sample.refusing_isProper
    Sample.refusing_namesTroubles Sample.root .standard .always Sample.refusing.reader
    (fun _ _ => default) atHand
  exact ⟨(discovery _).2 ⟨_, Sample.refusing_fault, rfl⟩,
    (analysis _).2 ⟨_, Sample.refusing_fault, rfl⟩⟩

end ModuleAtlas
