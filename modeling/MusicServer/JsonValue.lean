/-
# JSON documents

What plans, job parameters and job results are made of.  An object is the list of its
fields in the order of the map that holds it; a number is an integer or the bits of a
double.
-/
import Mathlib.Data.Int.Notation
import Mathlib.Data.Nat.Notation

namespace MusicServer

inductive JsonNumber where
  | integer (value : ℤ)
  | float (bits : BitVec 64)
  deriving DecidableEq

inductive Json where
  | null
  | bool (value : Bool)
  | number (value : JsonNumber)
  | string (value : String)
  | array (items : List Json)
  | object (fields : List (String × Json))

abbrev JsonObject := List (String × Json)

namespace JsonObject

def get (object : JsonObject) (key : String) : Option Json := object.lookup key

end JsonObject

namespace Json

def asObject : Json → Option JsonObject
  | .object fields => some fields
  | _ => none

def asArray : Json → Option (List Json)
  | .array items => some items
  | _ => none

def asString : Json → Option String
  | .string value => some value
  | _ => none

def asBool : Json → Option Bool
  | .bool value => some value
  | _ => none

def isNumber : Json → Bool
  | .number _ => true
  | _ => false

end Json

end MusicServer
