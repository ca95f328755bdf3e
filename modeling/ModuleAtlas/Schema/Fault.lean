/-!
# What is wrong with a value

A fault names a place within a value and the cause. Each cause has a code for programs and a
sentence for readers.
-/
namespace ModuleAtlas.Schema

/-- One step into a value: to a member of an object or to an element of an array. -/
inductive Step
  | key (name : String)
  | index (n : Nat)
deriving DecidableEq, Inhabited

inductive Cause
  | missing
  | notString
  | notBool
  | unreadableBool
  | notInt
  | unreadableInt
  | fractionalInt
  | infiniteInt
  | hugeInt
  /-- An array is expected, as a set or as a row. -/
  | notSet
  | notRow
  | notObject
  | notOneOf (options : List String)
  | refused (reason : String)
  | notJson
deriving DecidableEq, Inhabited

structure Fault where
  place : List Step
  cause : Cause
deriving DecidableEq, Inhabited

namespace Cause

def code : Cause → String
  | missing => "missing"
  | notString => "string_type"
  | notBool => "bool_type"
  | unreadableBool => "bool_parsing"
  | notInt => "int_type"
  | unreadableInt => "int_parsing"
  | fractionalInt => "int_from_float"
  | infiniteInt => "finite_number"
  | hugeInt => "int_parsing_size"
  | notSet => "frozen_set_type"
  | notRow => "tuple_type"
  | notObject => "model_type"
  | notOneOf _ => "enum"
  | refused _ => "value_error"
  | notJson => "json_invalid"

def quoted (s : String) : String := "'" ++ s ++ "'"

/-- Options in a row, with the word "or" before the last. -/
def orList : List String → String
  | [] => ""
  | [a] => quoted a
  | [a, b] => quoted a ++ " or " ++ quoted b
  | a :: rest => quoted a ++ ", " ++ orList rest

def message : Cause → String
  | missing => "Field required"
  | notString => "Input should be a valid string"
  | notBool => "Input should be a valid boolean"
  | unreadableBool => "Input should be a valid boolean, unable to interpret input"
  | notInt => "Input should be a valid integer"
  | unreadableInt => "Input should be a valid integer, unable to parse string as an integer"
  | fractionalInt => "Input should be a valid integer, got a number with a fractional part"
  | infiniteInt => "Input should be a finite number"
  | hugeInt => "Unable to parse input string as an integer, exceeded maximum size"
  | notSet | notRow => "Input should be a valid array"
  | notObject => "Input should be an object"
  | notOneOf options => "Input should be " ++ orList options
  | refused reason => "Value error, " ++ reason
  | notJson => "Invalid JSON"

end Cause

def Fault.within (s : Step) (f : Fault) : Fault := { f with place := s :: f.place }

end ModuleAtlas.Schema
