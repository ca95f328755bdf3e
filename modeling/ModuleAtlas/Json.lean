/-!
# JSON values

Numbers without a fraction or an exponent are integers of any size; all others are kept as they are
written, as a mantissa and a power of ten. Members of an object keep their order, and of members
with one name the last one counts.
-/
namespace ModuleAtlas

inductive Json
  | null
  | bool (b : Bool)
  | int (n : Int)
  | real (mantissa exponent : Int)
  | infinity (negative : Bool)
  | notANumber
  | string (s : String)
  | array (elements : List Json)
  | object (members : List (String × Json))
deriving Inhabited

namespace Json

/-- The member that counts among those with a name. -/
def lookup (name : String) (members : List (String × Json)) : Option Json :=
  (members.reverse.find? fun m => m.1 == name).map Prod.snd

def member? (name : String) : Json → Option Json
  | object members => lookup name members
  | _ => none

def ofStrings (xs : List String) : Json := array (xs.map string)

def ofNat (n : Nat) : Json := int n

/-- The double nearest to a number; none for what is no number. -/
def toFloat? : Json → Option Float
  | int n => some (Float.ofInt n)
  | real m e =>
    let digits := (toString m.natAbs).length
    let size : Float :=
      if m = 0 then 0
      else if (digits : Int) + e > 400 then 1 / 0
      else if (digits : Int) + e < -400 then 0
      else Float.ofScientific m.natAbs (e < 0) e.natAbs
    some (if m < 0 then -size else size)
  | infinity negative => some (if negative then -1 / 0 else 1 / 0)
  | notANumber => some (0 / 0)
  | _ => none

end Json

end ModuleAtlas
