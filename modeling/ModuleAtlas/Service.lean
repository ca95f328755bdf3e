import ModuleAtlas.Analysis
import ModuleAtlas.Report

/-!
# The web service

Requests name a root and may bring a configuration. The answer is the result of the analysis or a
summary of it.
-/
namespace ModuleAtlas.Service

open Schema Checked

/-- The body of a request: a value, or text that should be one. -/
inductive Body
  | absent
  | value (v : Json)
  | text (s : String)

structure Request where
  method : String
  path : String
  body : Body

structure Response where
  status : Nat
  body : Json

/-- What an analysis is asked for. -/
structure AnalyzeRequest where
  rootPath : String
  config : Option Config

/-- Reads a member that may be null. -/
def readOptional {α : Type} (f : Reading α) : Reading (Option α)
  | .null => ok none
  | v => some <$> f v

def AnalyzeRequest.read : Reading AnalyzeRequest := readObject fun ms =>
  AnalyzeRequest.mk
    <$> required ms "root_path" "root_path" readString
    <*> optional ms "config" "config" (readOptional Config.read) none

/-- The value of a body, if there is any. -/
def Body.read : Body → Checked (Option Json)
  | absent | value .null | text "" => ok none
  | value v => ok (some v)
  | text s =>
    let s := match s.toList with
      | '\uFEFF' :: s => s
      | s => s
    match Json.read? s.length s with
    | some .null => ok none
    | some v => ok (some v)
    | none => fail .notJson

/-- Reads the request in a body, which must not be missing. -/
def readRequest (b : Body) : Checked AnalyzeRequest :=
  within (.key "body") <| b.read.andThen fun
    | some v => AnalyzeRequest.read v
    | none => fail .missing

/-- The code of a fault in a request; here objects may also come in other forms. -/
def code : Cause → String
  | .notObject => "model_attributes_type"
  | c => c.code

def stepJson : Step → Json
  | .key s => .string s
  | .index n => .ofNat n

def faultJson (f : Schema.Fault) : Json :=
  .object [("type", .string (code f.cause)), ("loc", .array (f.place.map stepJson))]

def detail (s : String) : Json := .object [("detail", .string s)]

def internalError : Response := ⟨500, detail "Internal Server Error"⟩

/-- The answer where the root cannot be read. No body can hold stray bytes. -/
def unreadable (f : DiscoveryFault) : Response :=
  match Text.Glyph.string? f.message with
  | some reason => ⟨400, detail reason⟩
  | none => internalError

/-- A path without the slashes at its end and without a query. -/
def route (path : String) : String :=
  let p := path.toList.takeWhile fun c => c ≠ '?' && c ≠ '#'
  match (p.reverse.dropWhile (· = '/')).reverse with
  | [] => "/"
  | p => String.ofList p

variable (d : Disk) (parse : SourceParser) (e : Environment)

/-- Analyzes the tree that a body asks for. -/
def answerAbout (b : Body) (write : AnalysisResult → Json) : Response :=
  match readRequest b with
  | .faults fs => ⟨422, .array (fs.map faultJson)⟩
  | .ok r =>
    let config := r.config.getD .standard
    match (analyze d parse e none ⟨.ofText r.rootPath, config, none, .never⟩).1 with
    | .ok a => ⟨200, write a.result⟩
    | .error (.discovery f) => unreadable f
    | .error _ => internalError

def summaryJson (r : AnalysisResult) : Json :=
  .object [("summary", .string (Report.summary r Report.defaultTop))]

def respond (r : Request) : Response :=
  match route r.path, r.method with
  | "/analyze", "POST" => answerAbout d parse e r.body AnalysisResult.toJson
  | "/summary", "POST" => answerAbout d parse e r.body summaryJson
  | "/health", "GET" => ⟨200, .object [("status", .string "ok")]⟩
  | "/analyze", _ | "/summary", _ | "/health", _ => ⟨405, detail "Method Not Allowed"⟩
  | _, _ => ⟨404, detail "Not Found"⟩

end ModuleAtlas.Service
