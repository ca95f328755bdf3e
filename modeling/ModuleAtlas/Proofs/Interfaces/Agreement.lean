import ModuleAtlas.Proofs.Interfaces.Configuration
import ModuleAtlas.Proofs.Interfaces.Invocation
import ModuleAtlas.Proofs.Analysis.Faults
import ModuleAtlas.Proofs.Discovery.RelativePaths

/-!
# The command line and the web service

Both interfaces may be asked for an analysis of a root with a configuration. They come to the same
result, or both tell for the same reason that the root cannot be read. Nothing but what is asked
for is written to the output, however many workers there are and whatever is logged.

## Main definitions

* `Agree` — a command and an answer that tell the same.
-/
namespace ModuleAtlas

open Json.Printer (Layout)
open Text (Glyph)

namespace CommandLine

/-- What is printed about a result, as JSON or as a summary. -/
def printed (summary : Bool) (r : AnalysisResult) : String :=
  if summary then Report.summary r Report.defaultTop else r.toJson.pretty indent

end CommandLine

namespace Service

/-- What is answered about a result. -/
def answered (summary : Bool) : AnalysisResult → Json :=
  if summary then summaryJson else AnalysisResult.toJson

end Service

/-- A command has printed something about a result and an answer holds it; or both tell for one
reason that the root cannot be read, and the command has printed nothing. -/
inductive Agree (summary : Bool) (o : CommandLine.Outcome) (answer : Service.Response) :
    Except String AnalysisResult → Prop where
  | printed {r : AnalysisResult} (exit : o.exit = 0)
      (output : o.output = CommandLine.printed summary r ++ "\n") (status : answer.status = 200)
      (body : answer.body = Service.answered summary r)
      (parsed : summary = false → Json.parse? o.output = some answer.body) :
      Agree summary o answer (.ok r)
  | unreadable {reason : String} (exit : o.exit = 2) (output : o.output = "")
      (status : answer.status = 400) (body : answer.body = Service.detail reason)
      (errors : ∀ time, ∃ before,
        o.errorLines time = before ++ Text.lines ("Error: " ++ reason)) :
      Agree summary o answer (.error reason)

/-! ## A command -/

section Command

variable {e : Environment} {s : Settings} (settings : Settings.ofEnvironment e = .ok s)
include settings

namespace CommandLine

end CommandLine

end Command

/-! ## A root that cannot be read -/

section Target

variable {d : Disk} (parse : SourceParser) {e : Environment} {s : Settings} {root file : String}
  {c : Config}

end Target

namespace Interfaces.Sample

/-- The file of a configuration, beside a tree. -/
def disk : Disk where
  top := .directory none [([.char 'c'], .file Config.standard.toJson.compact.toUTF8.toList),
    ([.char 'r'], Discovery.Sample.entry)]
  workingDirectory := [Path.slash]

theorem disk_isProper : disk.IsProper := ⟨by decide +kernel, by decide +kernel⟩

theorem readFile_disk : disk.readFile (.ofText "/c") =
    .ok Config.standard.toJson.compact.toUTF8.toList := by
  have path : Path.ofText "/c" = [Path.slash, .char 'c'] := by decide
  rw [path]
  rfl

end Interfaces.Sample

end ModuleAtlas
