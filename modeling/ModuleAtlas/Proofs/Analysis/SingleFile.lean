import ModuleAtlas.Proofs.Analysis.Accounting
import ModuleAtlas.Proofs.Record.Serialization
import ModuleAtlas.Proofs.Text.Storage

/-!
# Analyzing one file

Whatever comes of opening, decoding and parsing a file, there is a record of it. What goes wrong is
told by a warning, and a warning comes with a record of its own, so the one thing that an analysis
of a file may fail with is a path that no record may have. Of the content of a file its text is all
that counts, in whichever way the text is stored.

## Main definitions

* `FileRecord.Misplaced` — a path that no record may have.
-/
namespace ModuleAtlas

open Text Schema Checked

/-! ## Paths of records -/

/-- A path that is absolute, or a part of which goes up. -/
def FileRecord.Misplaced (path : String) : Prop :=
  path.toList.head? = some '/' ∨ ['.', '.'] ∈ path.toList.splitOn '/'

theorem FileRecord.misplaced_iff {path : String} :
    Misplaced path ↔ ∃ fault, pathFault? path = some fault := by
  rw [Misplaced, pathFault?]
  split
  · next absolute => simp [absolute]
  · next relative =>
    split
    · next leaves => simp [leaves]
    · next stays => simp [relative, stays]

@[simp] theorem SourceFile.path_located (root : Path) (path : String) (opened : Option Path) :
    (located root path opened).path = path := by
  cases opened <;> rfl

section Paths

variable {read : FileReader} {parse : SourceParser} {f : SourceFile}

theorem analyzeFileRead_of_pathFault (noNul : f.fullPath.hasNul = false) {fault : PathFault}
    (h : FileRecord.pathFault? f.path = some fault) : analyzeFileRead read parse f =
      .error (.invalid [⟨[.key "path"], .refused (fault.reason f.path)⟩]) := by
  rw [analyzeFileRead_eq, noNul, if_neg Bool.false_ne_true, FileRecord.checkPath, h]
  rfl

/-- A warning is about the path of the file, and its record has nothing in it. -/
theorem Accounts.warning {r : FileRecord} {w : Warning} (h : Accounts read parse f r (some w)) :
    w.path = f.path ∧ r = .empty f.path := by
  cases h <;> exact ⟨rfl, rfl⟩

end Paths

/-- The analysis of a file fails exactly when its path is absolute or goes up, with what the check
of a record says of such a path and whether or not the file can be opened, decoded and parsed.
Otherwise there is a record with the path, and what went wrong is told by one warning next to an
empty record: that the file could not be read, or else that it could not be parsed; if nothing went
wrong, the record holds what is declared in the file. -/
theorem fails_exactly_for_path (read : FileReader) (parse : SourceParser) (root : Path)
    (path : String) (opened : Option Path)
    (noNul : (SourceFile.located root path opened).fullPath.hasNul = false) :
    ((∃ e, analyzeFileRead read parse (.located root path opened) = .error e) ↔
      FileRecord.Misplaced path) ∧
    (∀ e, analyzeFileRead read parse (.located root path opened) = .error e →
      ∃ fault, FileRecord.pathFault? path = some fault ∧
        e = .invalid [⟨[.key "path"], .refused (fault.reason path)⟩]) ∧
    (¬ FileRecord.Misplaced path →
      ∃ o, analyzeFileRead read parse (.located root path opened) = .ok o ∧
        o.record.path = path ∧
        (∀ w, o.warning = some w → w.path = path ∧ o.record = .empty path) ∧
        Accounts read parse (.located root path opened) o.record o.warning) := by
  have spelled := SourceFile.path_located root path opened
  rw [FileRecord.misplaced_iff]
  cases h : FileRecord.pathFault? path with
  | some fault =>
    have faulty :
        FileRecord.pathFault? (SourceFile.located root path opened).path = some fault := by
      rw [spelled]
      exact h
    have failed : analyzeFileRead read parse (.located root path opened) =
        .error (.invalid [⟨[.key "path"], .refused (fault.reason path)⟩]) := by
      rw [analyzeFileRead_of_pathFault noNul faulty, spelled]
    refine ⟨iff_of_true ⟨_, failed⟩ ⟨fault, rfl⟩, ?_, fun placed => absurd ⟨fault, rfl⟩ placed⟩
    intro e error
    cases failed.symm.trans error
    exact ⟨fault, rfl, rfl⟩
  | none =>
    have noFault : FileRecord.pathFault? (SourceFile.located root path opened).path = none := by
      rw [spelled]
      exact h
    have done : analyzeFileRead read parse (.located root path opened) =
        .ok (.ofFile read parse (.located root path opened)) :=
      analyzeFileRead_eq_ok.2 ⟨noNul, noFault, rfl⟩
    have accounts := accounts_ofFile read parse (.located root path opened)
    refine ⟨iff_of_false ?_ nofun, ?_, ?_⟩
    · rintro ⟨e, error⟩
      cases done.symm.trans error
    · intro e error
      cases done.symm.trans error
    · intro _
      refine ⟨_, done, accounts.path.trans spelled, ?_, accounts⟩
      intro w warned
      rw [warned] at accounts
      obtain ⟨about, empty⟩ := accounts.warning
      rw [spelled] at about empty
      exact ⟨about, empty⟩

theorem fails_exactly_for_path_sample :
    (∃ e, analyzeFileRead (fun _ => .error "gone") (fun _ _ => default)
      (.located [Path.slash] "../a.ts" none) = .error e) ∧
    ∃ o, analyzeFileRead (fun _ => .ok [0xFF]) (fun _ _ => default)
      (.located [Path.slash] "a.ts" (some [.char 'b'])) = .ok o ∧ o.record.path = "a.ts" := by
  have bad := fails_exactly_for_path (fun _ => .error "gone") (fun _ _ => default) [Path.slash]
    "../a.ts" none (by decide +kernel)
  have good := fails_exactly_for_path (fun _ => .ok [0xFF]) (fun _ _ => default) [Path.slash]
    "a.ts" (some [.char 'b']) (by decide +kernel)
  have misplaced : FileRecord.Misplaced "../a.ts" :=
    FileRecord.misplaced_iff.2 ⟨.leavesRoot, by decide +kernel⟩
  have placed : ¬ FileRecord.Misplaced "a.ts" := by
    have none : FileRecord.pathFault? "a.ts" = none := by decide +kernel
    rw [FileRecord.misplaced_iff, none]
    nofun
  obtain ⟨o, done, path, -⟩ := good.2.2 placed
  exact ⟨bad.1.2 misplaced, o, done, path⟩

/-! ## Texts and how they are stored -/

/-- A text is read alike in whichever way it is stored. -/
theorem FileOutcome.textOf_bytes {read : FileReader} {fullPath : Path} {text : String} {w : Storage}
    (noReturn : '\r' ∉ text.toList) (noMark : text.toList.head? ≠ some markCharacter)
    (h : read fullPath = .ok (w.bytes text.toList)) : textOf read fullPath = .ok text := by
  simp only [textOf, h, Utf8.decodeMarked_bytes w noMark, Utf8.unifyLines_write w.lineEnd noReturn,
    String.ofList_toList]

/-- Nothing but the text of a file counts. -/
theorem analyzeFileRead_congr {read read' : FileReader} {parse : SourceParser} {f : SourceFile}
    (h : FileOutcome.textOf read f.fullPath = FileOutcome.textOf read' f.fullPath) :
    analyzeFileRead read parse f = analyzeFileRead read' parse f := by
  rw [analyzeFileRead, analyzeFileRead, h]

/-- However a text is stored, as long as it has no carriage returns and does not begin with the
character of a byte order mark, the analysis of its file comes to the same: to the outcome of the
text where the path is one that a file may have, with the same place of an error. -/
theorem storage_makes_no_difference (parse : SourceParser) (root : Path) (path : String)
    (opened : Option Path) {text : String} (noReturn : '\r' ∉ text.toList)
    (noMark : text.toList.head? ≠ some markCharacter) {read read' : FileReader} {w w' : Storage}
    (h : read (SourceFile.located root path opened).fullPath = .ok (w.bytes text.toList))
    (h' : read' (SourceFile.located root path opened).fullPath = .ok (w'.bytes text.toList)) :
    analyzeFileRead read parse (.located root path opened) =
      analyzeFileRead read' parse (.located root path opened) ∧
    ((SourceFile.located root path opened).fullPath.hasNul = false →
      ¬ FileRecord.Misplaced path →
      analyzeFileRead read parse (.located root path opened) = .ok (.ofText parse path text)) := by
  have found := FileOutcome.textOf_bytes noReturn noMark h
  have found' := FileOutcome.textOf_bytes noReturn noMark h'
  refine ⟨analyzeFileRead_congr (found.trans found'.symm), ?_⟩
  intro noNul placed
  have spelled := SourceFile.path_located root path opened
  have noFault : FileRecord.pathFault? (SourceFile.located root path opened).path = none := by
    rw [spelled]
    exact Option.eq_none_iff_forall_ne_some.2 fun fault fails =>
      placed (FileRecord.misplaced_iff.2 ⟨fault, fails⟩)
  rw [analyzeFileRead_eq_ok.2 ⟨noNul, noFault, rfl⟩, FileOutcome.ofFile, found, spelled]

theorem storage_makes_no_difference_sample :
    analyzeFileRead (fun _ => .ok ((⟨false, .feed⟩ : Storage).bytes "let\n = ;\n".toList))
        (fun _ _ => default) (.located [Path.slash] "a.ts" none) =
      analyzeFileRead (fun _ => .ok ((⟨true, .both⟩ : Storage).bytes "let\n = ;\n".toList))
        (fun _ _ => default) (.located [Path.slash] "a.ts" none) :=
  (storage_makes_no_difference (fun _ _ => default) [Path.slash] "a.ts" none (by decide +kernel)
    (by decide +kernel) rfl rfl).1

end ModuleAtlas
