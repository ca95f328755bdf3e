import ModuleAtlas.Proofs.Analysis.SingleFile
import ModuleAtlas.Proofs.Text.WellFormed

/-!
# Files that are no text

A file that can be opened is reported as unreadable when its bytes are no UTF-8, and only then.
Where they are, the file has the outcome of their text. The one exception are files that hold
nothing but the beginning of a byte order mark: what is missing of the mark is waited for and never
comes, so that these files are taken for empty ones.
-/
namespace ModuleAtlas

open Text

/-! ## Outcomes of bytes -/

/-- A text is never reported as one that cannot be read. -/
theorem FileOutcome.kind_ofText {parse : SourceParser} {path text : String} {w : Warning}
    (h : (ofText parse path text).warning = some w) : w.kind = .parse := by
  rw [ofText] at h
  cases check : (parse path text).check path <;> rw [check] at h <;> cases h
  rfl

section Bytes

variable {read : FileReader} {parse : SourceParser} {f : SourceFile} {bytes : List UInt8}

theorem FileOutcome.ofFile_of_decoded (h : read f.fullPath = .ok bytes) {text : List Char}
    (decoded : Utf8.decodeMarked bytes = .ok text) :
    ofFile read parse f = ofText parse f.path (.ofList (Utf8.unifyLines text)) := by
  simp only [ofFile, textOf, h, decoded]

/-- A file is reported as unreadable when the decoder refuses its bytes. -/
theorem FileOutcome.fileRead_iff (h : read f.fullPath = .ok bytes) :
    (∃ w, (ofFile read parse f).warning = some w ∧ w.kind = .fileRead) ↔
      ∃ fault, Utf8.decodeMarked bytes = .error fault := by
  cases decoded : Utf8.decodeMarked bytes with
  | error fault =>
    have unread : ofFile read parse f =
        failed f.path .fileRead s!"Could not read {f.path}: {fault.message}" := by
      simp only [ofFile, textOf, h, decoded]
    rw [unread]
    exact iff_of_true ⟨_, rfl, rfl⟩ ⟨fault, rfl⟩
  | ok text =>
    rw [ofFile_of_decoded h decoded]
    refine iff_of_false ?_ ?_
    · rintro ⟨w, warned, kind⟩
      rw [kind_ofText warned] at kind
      cases kind
    · rintro ⟨fault, ⟨⟩⟩

end Bytes

/-- A file that can be opened is reported as unreadable exactly when its bytes, behind a byte order
mark if there is one, are no UTF-8: when behind some text there is something that is no character.
Otherwise its outcome is that of the text. Nothing but the first one or two bytes of a mark is an
empty text. -/
theorem unreadable_exactly_if_malformed (parse : SourceParser) (root : Path) (path : String)
    (opened : Option Path) {read : FileReader} {bytes : List UInt8}
    (noNul : (SourceFile.located root path opened).fullPath.hasNul = false)
    (placed : ¬ FileRecord.Misplaced path)
    (h : read (SourceFile.located root path opened).fullPath = .ok bytes) :
    ∃ o, analyzeFileRead read parse (.located root path opened) = .ok o ∧
      (¬ Utf8.BreaksOffInMark bytes →
        ((∃ w, o.warning = some w ∧ w.kind = .fileRead) ↔
          ¬ Utf8.WellFormed (Utf8.withoutMark bytes)) ∧
        ∀ text : List Char, Utf8.withoutMark bytes = text.flatMap String.utf8EncodeChar →
          o = .ofText parse path (.ofList (Utf8.unifyLines text))) ∧
      (¬ Utf8.WellFormed (Utf8.withoutMark bytes) ↔ ∃ before after,
        Utf8.withoutMark bytes = before ++ after ∧ Utf8.WellFormed before ∧
          Utf8.Malformed after) ∧
      (Utf8.BreaksOffInMark bytes → o = .ofText parse path "") := by
  have spelled := SourceFile.path_located root path opened
  have noFault : FileRecord.pathFault? (SourceFile.located root path opened).path = none := by
    rw [spelled]
    exact Option.eq_none_iff_forall_ne_some.2 fun fault fails =>
      placed (FileRecord.misplaced_iff.2 ⟨fault, fails⟩)
  refine ⟨_, analyzeFileRead_eq_ok.2 ⟨noNul, noFault, rfl⟩, fun whole => ⟨?_, ?_⟩,
    Utf8.not_wellFormed_iff, fun broken => ?_⟩
  · rw [FileOutcome.fileRead_iff h, Utf8.decodeMarked_eq whole, Utf8.decode_eq_error_iff]
  · intro text bytes
    have decoded := (Utf8.decodeMarked_eq whole).trans (Utf8.decode_eq_ok.2 bytes)
    rw [FileOutcome.ofFile_of_decoded h decoded, spelled]
  · rw [FileOutcome.ofFile_of_decoded h (Utf8.decodeMarked_of_breaksOff broken), spelled]
    rfl

namespace FileOutcome.Sample

/-- The name of a file, and a disk with that file alone below its root. -/
def name : Name := [.char 'a', .char '.', .char 't', .char 's']

def root : Path := [Path.slash, .char 'r']

def disk (content : List UInt8) : Disk where
  top := .directory none [([.char 'r'], .directory none [(name, .file content)])]
  workingDirectory := [Path.slash]

theorem placed : ¬ FileRecord.Misplaced "a.ts" := by
  have noFault : FileRecord.pathFault? "a.ts" = none := by decide
  rw [FileRecord.misplaced_iff, noFault]
  nofun

/-- Half of a pair. -/
theorem half_malformed : Utf8.Malformed [0xED, 0xA0, 0x80] :=
  have goesOn : ∀ b ∈ [0xA0, 0x80], Utf8.Continues b :=
    List.forall_mem_cons.2 ⟨by decide, List.forall_mem_singleton.2 (by decide)⟩
  @Utf8.Malformed.surrogate 0xED [0xA0, 0x80] [] ⟨rfl, goesOn⟩ (by decide)

end FileOutcome.Sample

open FileOutcome.Sample (disk root) in
/-- Half of a pair behind a letter. -/
theorem unreadable_exactly_if_malformed_sample : ∃ o,
    analyzeFile (disk [0x61, 0xED, 0xA0, 0x80]) (fun _ _ => default)
      (.located root "a.ts" none) = .ok o ∧
    ∃ w, o.warning = some w ∧ w.kind = .fileRead := by
  have lies : (disk [0x61, 0xED, 0xA0, 0x80]).reader
      (SourceFile.located root "a.ts" none).fullPath = .ok [0x61, 0xED, 0xA0, 0x80] := by
    decide +kernel
  obtain ⟨o, done, outcome, malformed, -⟩ := unreadable_exactly_if_malformed (fun _ _ => default)
    root "a.ts" none (by decide) FileOutcome.Sample.placed lies
  have bad := malformed.2 ⟨[0x61], _, rfl, ⟨['a'], rfl⟩, FileOutcome.Sample.half_malformed⟩
  exact ⟨o, done, (outcome (by decide)).1.2 bad⟩

open FileOutcome.Sample (disk root) in
/-- A file that holds the first byte of a mark is not reported, though the byte alone is no UTF-8.
-/
theorem part_of_mark_unreported :
    (disk [0xEF]).readFile (SourceFile.located root "a.ts" none).fullPath = .ok [0xEF] ∧
    ¬ Utf8.WellFormed (Utf8.withoutMark [0xEF]) ∧
    analyzeFile (disk [0xEF]) (fun _ _ => default) (.located root "a.ts" none) =
      .ok ⟨.empty "a.ts", none, []⟩ := by
  have truncated : Utf8.Malformed [0xEF] :=
    @Utf8.Malformed.truncated 0xEF [] [] 2 rfl nofun (by decide) nofun
  exact ⟨by decide, Utf8.not_wellFormed_iff.2 ⟨[], [0xEF], rfl, ⟨[], rfl⟩, truncated⟩,
    by decide⟩

end ModuleAtlas
