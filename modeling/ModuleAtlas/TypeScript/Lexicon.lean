import ModuleAtlas.Grammar.Rule

/-!
# The lexicon

Patterns of the tokens that are not written out in a rule.
-/
namespace ModuleAtlas.TypeScript.Lexicon

open Grammar Grammar.Rule

/-- Any character that does not end a line. -/
def inLine : CharClass := (CharClass.only '\n').except

/-- The characters that end a comment, and those that never belong to a name. -/
def lineEnds : CharClass := .listed "\r\n" ++ .codes 0x2028 0x2029

def hashBangLine : Rule := pattern ("#!" ++ .star inLine)

def comment : Rule :=
  pattern
    ("//" ++ .star lineEnds.except |||
     "/*" ++ .star notStar ++ stars ++
     .star (.oneOf (CharClass.listed "/*").except ++ .star notStar ++ stars) ++ "/")
where
  notStar : CharClass := (CharClass.only '*').except
  stars : Pattern := .plus (CharClass.only '*')

/-- A reference to a character in markup, such as an ampersand with `amp` and a semicolon. -/
def characterReference : Rule :=
  pattern
    ("&" ++
     ("#" ++ (.oneOf (.listed "xX") ++ .times CharClass.hexDigit 1 5 |||
              .times CharClass.digit 1 4) |||
      .times CharClass.letter 1 29) ++
     ";")

/-- A name in markup with a hyphen in it. -/
def jsxIdentifier : Rule :=
  pattern (.oneOf start ++ .star part ++ "-" ++ .star (.oneOf (part ++ .listed "-")))
where
  start : CharClass := .letter ++ .listed "_$"
  part : CharClass := start ++ .digit

/-- Text of a quoted attribute value, which an ampersand before a letter or a hash sign ends. -/
def jsxFragment (quote : Char) : Rule :=
  immediate 1
    (.plus (.oneOf (CharClass.only quote ++ CharClass.only '&').except |||
            "&" ++ .oneOf (CharClass.only '#' ++ .letter).except))

def doubleJsxFragment : Rule := jsxFragment '"'

def singleJsxFragment : Rule := jsxFragment '\''

/-- Text of a string up to its quote, an escape or the end of the line. -/
def fragment (quote : Char) : Rule :=
  immediate 1 (.plus (CharClass.only quote ++ .listed "\\\r\n").except)

def doubleFragment : Rule := fragment '"'

def singleFragment : Rule := fragment '\''

def octalDigit : CharClass := .range '0' '7'

def hex : Pattern := .oneOf .hexDigit

def escapeSequence : Rule :=
  immediate 0
    ("\\" ++
     (.oneOf (CharClass.listed "xu" ++ octalDigit).except |||
      .times octalDigit 1 2 |||
      "x" ++ .times hex 2 0 |||
      "u" ++ .times hex 4 0 |||
      "u\x7b" ++ .plus hex ++ "\x7d" |||
      .oneOf (.listed "\r?") ++ .oneOf (.only '\n' ++ .codes 0x2028 0x2029)))

/-- The body of a regular expression: a slash in brackets or behind a backslash does not end it. -/
def regexPattern : Rule :=
  immediate (-1)
    (.plus
      ("[" ++ .star (escaped ||| .oneOf (CharClass.listed "]\n\\").except) ++ "]" |||
       escaped ||| .oneOf (CharClass.listed "/\\[\n").except))
where
  escaped : Pattern := "\\" ++ .oneOf inLine

def regexFlags : Rule := immediate 0 (.plus (CharClass.range 'a' 'z'))

/-- Digits of one class with single underscores between them. -/
def digits (k : CharClass) : Pattern := .oneOf k ++ .star (.opt "_" ++ .oneOf k)

def decimals : Pattern := digits .digit

def number : Rule :=
  pattern (hexadecimal ||| decimal ||| binary ||| octal ||| big)
where
  hexadecimal : Pattern := "0" ++ .oneOf (.listed "xX") ++ digits .hexDigit
  binary : Pattern := "0" ++ .oneOf (.listed "bB") ++ digits (.range '0' '1')
  octal : Pattern := "0" ++ .oneOf (.listed "oO") ++ digits octalDigit
  exponent : Pattern := .oneOf (.listed "eE") ++ .opt (.oneOf (.listed "-+")) ++ decimals
  whole : Pattern :=
    "0" ||| .opt "0" ++ .oneOf (.range '1' '9') ++ .opt (.opt "_" ++ decimals)
  decimal : Pattern :=
    whole ++ "." ++ .opt decimals ++ .opt exponent |||
    "." ++ decimals ++ .opt exponent |||
    whole ++ exponent |||
    decimals
  big : Pattern := (hexadecimal ||| binary ||| octal ||| decimals) ++ "n"

/-- The characters that never belong to a name. -/
def separators : CharClass :=
  .codes 0 0x1F ++ .blank ++ .spaceSeparator ++
  .listed ":;\x60\"'@#.,|^&<=>+-*/\\%?!~()[]\x7b\x7d" ++
  ⟨[(0xFEFF, 0xFEFF), (0x2060, 0x2060), (0x200B, 0x200B), (0x2028, 0x2029)]⟩

def unicodeEscape : Pattern :=
  "\\u" ++ .times hex 4 0 ||| "\\u\x7b" ++ .plus hex ++ "\x7d"

/-- A name: it does not start with a digit. -/
def name : Pattern :=
  (.oneOf (separators ++ .digit).except ||| unicodeEscape) ++
  .star (.oneOf separators.except ||| unicodeEscape)

def word : Rule := pattern name

def privateWord : Rule := pattern ("#" ++ name)

end ModuleAtlas.TypeScript.Lexicon
