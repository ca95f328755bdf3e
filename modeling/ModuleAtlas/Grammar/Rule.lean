import ModuleAtlas.Grammar.Pattern

/-!
# Grammar rules

A grammar is a list of named rules over tokens and other rules, together with what the parser
needs beyond the rules: which characters and tokens may stand anywhere, which tokens a scanner of
its own recognizes, which rules leave no node in the tree, and how competing rules rank.
-/
namespace ModuleAtlas.Grammar

/-- Which side a repeated operator groups to. -/
inductive Side
  | left | right
deriving BEq, Hashable, Inhabited, DecidableEq

/-- How strongly a rule binds: by number, or by a name that the grammar ranks. -/
inductive Rank
  | level (n : Int)
  | name (s : String)
deriving BEq, Hashable, Inhabited, DecidableEq

inductive Shape
  | literal (s : String)
  | pattern (p : Pattern)
deriving BEq, Hashable, Inhabited

/-- A token; an immediate one follows the token before it without a blank between them. Where two
tokens compete for the same text, the higher level wins. -/
structure TokenRule where
  shape : Shape
  immediate : Bool
  level : Int
deriving BEq, Hashable, Inhabited

/-- The name a node shows in place of its rule's name. -/
structure Alias where
  name : String
  named : Bool
deriving BEq, Hashable, Inhabited, DecidableEq

inductive Rule
  | blank
  | token (t : TokenRule)
  | ref (name : String)
  | seq (a b : Rule)
  | alt (a b : Rule)
  | many1 (a : Rule)
  | rank (r : Rank) (side : Option Side) (a : Rule)
  | weight (n : Int) (a : Rule)
  | renamed (as : Alias) (a : Rule)
  | field (name : String) (a : Rule)
deriving BEq, Hashable, Inhabited

namespace Rule

instance : Append Rule := ⟨seq⟩

instance : OrOp Rule := ⟨alt⟩

def literal (s : String) : Rule := token ⟨.literal s, false, 0⟩

instance : Coe String Rule := ⟨literal⟩

def pattern (p : Pattern) : Rule := token ⟨.pattern p, false, 0⟩

def immediate (level : Int) (p : Pattern) : Rule := token ⟨.pattern p, true, level⟩

def opt (a : Rule) : Rule := a ||| blank

def many (a : Rule) : Rule := many1 a ||| blank

/-- One or more, with a separator between neighbours. -/
def sepBy1 (a sep : Rule) : Rule := a ++ many (sep ++ a)

def sepBy (a sep : Rule) : Rule := opt (sepBy1 a sep)

/-- One of the listed rules. -/
def oneOf : List Rule → Rule
  | [] => blank
  | [a] => a
  | a :: as => a ||| oneOf as

/-- One of the listed literals. -/
def words (ws : List String) : Rule := oneOf (ws.map literal)

end Rule

/-- A token that the grammar's own scanner recognizes: by name, or an ordinary literal that the
scanner asks about. -/
inductive Scanned
  | named (s : String)
  | literal (s : String)
deriving BEq, Inhabited

/-- What a ranking list orders: named ranks and rules. -/
inductive Ranked
  | name (s : String)
  | rule (s : String)
deriving BEq, Inhabited

structure Definition where
  rules : List (String × Rule)
  /-- Characters that may stand between tokens. -/
  blanks : CharClass
  /-- Tokens that may stand anywhere and join the tree where they stand. -/
  extras : List String
  scanned : List Scanned
  /-- Rules that group others and leave no node. -/
  groups : List String
  /-- Rules that are replaced by their alternatives wherever they occur. -/
  inlined : List String
  /-- Each list ranks its members from the strongest down. -/
  rankings : List (List Ranked)
  /-- The token whose texts keywords share. -/
  word : String
  /-- Tokens that the parser does not look for while it recovers from an error. -/
  notInRecovery : List String
deriving Inhabited

end ModuleAtlas.Grammar
