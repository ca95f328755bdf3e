import ModuleAtlas.TypeScript.Definition
import ModuleAtlas.TypeScript.Scanner
import ModuleAtlas.Parse.Parser
import ModuleAtlas.Parse.Shown
import ModuleAtlas.Text.LowerCase

/-!
# The TypeScript parser

A parser keeps the part of its table that the texts so far have needed, so that later texts are
read faster. What is kept never shows in a tree.
-/
namespace ModuleAtlas.TypeScript

open Parse

/-- Files whose names end in one of these are read as plain TypeScript. -/
def plainSuffixes : List String := [".ts", ".mts", ".cts"]

/-- The dialect of a file, by its name. All other files may hold markup. -/
def Dialect.ofPath (path : String) : Dialect :=
  let name := Text.lower path.toList
  if plainSuffixes.any fun s => s.toList.isSuffixOf name then .typescript else .tsx

def Dialect.name : Dialect → String
  | typescript => "typescript"
  | tsx => "tsx"

structure Parser where
  language : Language
  table : Grammar.Table

namespace Parser

/-- Answers for the scanned tokens by their numbers. -/
def scan (source : Source) (valid : Nat → Bool) (p : Extent) : Option (Nat × Extent × Extent) :=
  (Scanner.scan source (fun k => valid k.index) p).map fun f => (f.kind.index, f.start, f.stop)

def ofDialect (d : Dialect) : Parser :=
  let machine := Grammar.Machine.ofGrammar (definition d).compile
  ⟨⟨machine, scan⟩, machine.emptyTable⟩

/-- The tree of a text, and the parser with what it has learned. -/
def read (p : Parser) (text : String) : Tree × Parser :=
  let (piece, table) := p.language.parse text.toList.toArray p.table
  let g := p.language.grammar
  (Piece.tree g text (piece.getD (.join g .error [] none)), { p with table })

def tree (p : Parser) (text : String) : Tree := (p.read text).1

end Parser

/-- The parsers of both dialects. -/
structure Parsers where
  typescript : Parser
  tsx : Parser

namespace Parsers

def fresh : Parsers := ⟨.ofDialect .typescript, .ofDialect .tsx⟩

def ofDialect (p : Parsers) : Dialect → Parser
  | .typescript => p.typescript
  | .tsx => p.tsx

/-- Reads a text and keeps what its parser has learned. -/
def read (p : Parsers) (d : Dialect) (text : String) : Tree × Parsers :=
  match d with
  | .typescript =>
    let (t, q) := p.typescript.read text
    (t, { p with typescript := q })
  | .tsx =>
    let (t, q) := p.tsx.read text
    (t, { p with tsx := q })

/-- The tree of the text of a file. -/
def parse (p : Parsers) (path text : String) : Tree := (p.ofDialect (.ofPath path)).tree text

end Parsers

end ModuleAtlas.TypeScript
