import ModuleAtlas.Text.Number
import ModuleAtlas.Text.Quoted

/-!
# Reading arguments

Arguments are options, each with a value of its own or none, and positional ones. An option may be
shortened as long as it stays clear which one is meant. After two dashes nothing is an option.
-/
namespace ModuleAtlas.CommandLine

inductive ValueKind
  | text | integer | number
deriving DecidableEq

inductive Value
  | given
  | text (s : String)
  | integer (n : Int)
  | number (x : Float)

/-- An option by its long name, with the kind of its value if it has one. -/
structure OptionSpec where
  name : String
  kind : Option ValueKind

structure Spec where
  /-- What stands before the messages about these arguments. -/
  program : String
  options : List OptionSpec
  positionals : List String

inductive ArgumentFault
  | ambiguous (argument : String) (matching : List String)
  | noValue (option : String)
  | unwantedValue (option value : String)
  | badValue (option : String) (kind : ValueKind) (value : String)
  | missing (names : List String)
  | unknownCommand (name : String) (choices : List String)
  | unrecognized (arguments : List String)

def quoted (s : String) : String :=
  String.ofList (Text.Quoted.encode (Text.Glyph.ofText s.toList))

def ValueKind.name : ValueKind → String
  | text => "str"
  | integer => "int"
  | number => "float"

def ArgumentFault.message : ArgumentFault → String
  | ambiguous a ms => s!"ambiguous option: {a} could match " ++ ", ".intercalate ms
  | noValue o => s!"argument {o}: expected one argument"
  | unwantedValue o v => s!"argument {o}: ignored explicit argument " ++ quoted v
  | badValue o k v => s!"argument {o}: invalid {k.name} value: " ++ quoted v
  | missing ns => "the following arguments are required: " ++ ", ".intercalate ns
  | unknownCommand n cs =>
    "argument cmd: invalid choice: " ++ quoted n ++ " (choose from " ++
      ", ".intercalate (cs.map quoted) ++ ")"
  | unrecognized as => "unrecognized arguments: " ++ " ".intercalate as

/-! ## Options -/

/-- What an argument is, by the way it is written. -/
inductive Mark
  | plain
  | dashes
  | option (o : OptionSpec) (value : Option String)
  | unknown

def helpNames : List String := ["-h", "--help"]

/-- The request for help, which every command knows. -/
def helpOption : OptionSpec := ⟨"/".intercalate helpNames, none⟩

/-- Digits with a minus before them are no option. -/
def isNegativeNumber (s : String) : Bool :=
  match s.toList with
  | '-' :: s =>
    let (whole, fraction) := s.span (· ≠ '.')
    whole.all Text.isDigit &&
      match fraction with
      | [] => !whole.isEmpty
      | _ :: ds => !ds.isEmpty && ds.all Text.isDigit
  | _ => false

/-- The parts before and behind the first equals sign. -/
def splitValue (s : String) : String × Option String :=
  let (name, value) := s.toList.span (· ≠ '=')
  match value with
  | [] => (s, none)
  | _ :: v => (String.ofList name, some (String.ofList v))

namespace Spec

variable (spec : Spec)

/-- The options by all their names. -/
def named : List (String × OptionSpec) :=
  helpNames.map (·, helpOption) ++ spec.options.map fun o => (o.name, o)

/-- The options whose names a shortened argument begins. -/
def abbreviated (argument : String) : List (String × OptionSpec × Option String) :=
  if argument.startsWith "--" then
    let (name, value) := splitValue argument
    (spec.named.filter fun o => o.1.startsWith name).map fun o => (o.1, o.2, value)
  else
    spec.named.filterMap fun o =>
      if o.1.length = 2 && argument.startsWith o.1 then
        some (o.1, o.2, some (argument.drop 2).toString)
      else if o.1.startsWith argument then some (o.1, o.2, none)
      else none

/-- What an argument before two dashes is. -/
def mark (argument : String) : Except ArgumentFault Mark :=
  if !argument.startsWith "-" || argument = "-" then .ok .plain
  else
    match spec.named.lookup argument with
    | some o => .ok (.option o none)
    | none =>
      let (name, value) := splitValue argument
      match spec.named.lookup name, value with
      | some o, some v => .ok (.option o (some v))
      | _, _ =>
        match spec.abbreviated argument with
        | [(_, o, v)] => .ok (.option o v)
        | [] =>
          .ok <|
            if isNegativeNumber argument || argument.contains ' ' then .plain else .unknown
        | several => .error (.ambiguous argument (several.map Prod.fst))

/-- All arguments with what they are. -/
def marks : List String → Except ArgumentFault (List (String × Mark))
  | [] => .ok []
  | "--" :: rest => .ok (("--", .dashes) :: rest.map (·, .plain))
  | a :: rest => do
    let m ← spec.mark a
    return (a, m) :: (← marks rest)

end Spec

def readValue (option : String) (kind : ValueKind) (s : String) : Except ArgumentFault Value :=
  match kind with
  | .text => .ok (.text s)
  | .integer => match Text.integer? s.toList with
    | some n => .ok (.integer n)
    | none => .error (.badValue option kind s)
  | .number => match Text.float? s.toList with
    | some x => .ok (.number x)
    | none => .error (.badValue option kind s)

/-! ## All arguments -/

/-- What has been read. Of repeated options the last one counts. -/
structure Arguments where
  values : List (String × Value)
  positionals : List (String × String)
  /-- Positional arguments that are still to come. -/
  pending : List String
  extras : List String

namespace Arguments

def value? (a : Arguments) (option : String) : Option Value := a.values.lookup option

def text? (a : Arguments) (option : String) : Option String :=
  match a.value? option with
  | some (.text s) => some s
  | _ => none

def positional (a : Arguments) (name : String) : String := (a.positionals.lookup name).getD ""

/-- Drops two dashes at the start. -/
def pastDashes : List (String × Mark) → List (String × Mark)
  | (_, .dashes) :: rest => rest
  | args => args

/-- Takes as many positional arguments as there are here. -/
def takePositionals : (pending : List String) → List (String × Mark) → Arguments →
    Arguments × List (String × Mark)
  | [], args, a => ({ a with pending := [] }, args)
  | name :: pending, args, a =>
    match pastDashes args with
    | (s, .plain) :: rest =>
      takePositionals pending (pastDashes rest) { a with positionals := (name, s) :: a.positionals }
    | _ => ({ a with pending := name :: pending }, args)

end Arguments

/-- Reads an option; the answer is what follows it. -/
def readOption (o : OptionSpec) (value : Option String) (rest : List (String × Mark)) :
    Except ArgumentFault (Value × List (String × Mark)) :=
  match o.kind, value, rest with
  | none, none, rest => .ok (.given, rest)
  | none, some v, _ => .error (.unwantedValue o.name v)
  | some k, some v, rest => (readValue o.name k v).map (·, rest)
  | some k, none, (v, .plain) :: rest => (readValue o.name k v).map (·, rest)
  | some _, none, _ => .error (.noValue o.name)

/-- Whether an argument is written as an option. -/
def isOption : Mark → Bool
  | .option _ _ | .unknown => true
  | .plain | .dashes => false

/-- Reads the arguments from here on; the answer is none if help was asked for. -/
def readAll : (fuel : Nat) → List (String × Mark) → Arguments →
    Except ArgumentFault (Option Arguments)
  | 0, _, a => .ok (some a)
  | fuel + 1, args, a =>
    if args.any fun m => isOption m.2 then
      match args with
      | [] => .ok (some a)
      | (s, .unknown) :: rest => readAll fuel rest { a with extras := a.extras ++ [s] }
      | (_, .option o value) :: rest =>
        if o.name = helpOption.name && value.isNone then .ok none
        else
          match readOption o value rest with
          | .error f => .error f
          | .ok (v, rest) => readAll fuel rest { a with values := (o.name, v) :: a.values }
      | (s, m) :: rest =>
        let (b, left) := Arguments.takePositionals a.pending ((s, m) :: rest) a
        if left.length < rest.length + 1 then readAll fuel left b
        else readAll fuel rest { a with extras := a.extras ++ [s] }
    else
      let (b, left) := Arguments.takePositionals a.pending args a
      .ok (some { b with extras := b.extras ++ left.map Prod.fst })

/-- Reads the arguments of a command; the answer is none if help was asked for. -/
def Spec.read (spec : Spec) (args : List String) : Except ArgumentFault (Option Arguments) := do
  let marked ← spec.marks args
  match ← readAll (marked.length + 1) marked ⟨[], [], spec.positionals, []⟩ with
  | none => return none
  | some a => if a.pending.isEmpty then return some a else throw (.missing a.pending)

end ModuleAtlas.CommandLine
