import DocumentClient.Binary64
import DocumentClient.Keyed

namespace DocumentClient

/-- A whole number is kept apart from a floating-point number of the same value. -/
inductive Json.Number
  | int (n : Int)
  | float (x : Binary64)
  deriving DecidableEq, Repr

inductive Json
  | null
  | bool (b : Bool)
  | num (n : Json.Number)
  | str (s : String)
  | arr (items : List Json)
  | obj (fields : List (String × Json))
  deriving Repr, Inhabited, BEq

namespace Json

abbrev Fields := List (String × Json)

def int (n : Int) : Json := num (.int n)

def float (x : Binary64) : Json := if x.isFinite then num (.float x) else null

namespace Fields

def get? (fields : Fields) (name : String) : Option Json :=
  (Keyed.find? Prod.fst name fields).map Prod.snd

def has (fields : Fields) (name : String) : Bool := (fields.get? name).isSome

def put (fields : Fields) (name : String) (value : Json) : Fields :=
  Keyed.put Prod.fst (name, value) fields

def erase (fields : Fields) (name : String) : Fields := Keyed.erase Prod.fst name fields

end Fields

def isNull : Json → Bool
  | null => true
  | _ => false

def asStr? : Json → Option String
  | str s => some s
  | _ => none

def asFields? : Json → Option Fields
  | obj fields => some fields
  | _ => none

def hasField (name : String) : Json → Bool
  | obj fields => Fields.has fields name
  | _ => false

end Json

end DocumentClient
