import DocumentClient.Binary64.Rounding
import DocumentClient.Json
import DocumentClient.Operator
import DocumentClient.Text.Digits

namespace DocumentClient

open Text

inductive ListItem
  | int (n : Int64)
  | text (s : String)
  deriving DecidableEq, Repr

inductive Literal
  | int (n : Int64)
  | float (x : Binary64)
  | text (s : String)
  | list (items : List ListItem)
  deriving DecidableEq, Repr

namespace Literal

def isQuoteMark (c : Char) : Bool := c = '\x27' || c = '"' || c = '(' || c = ')'

def stripQuotes (s : List Char) : List Char := strip isQuoteMark s

inductive Shape
  | whole (digits : List Char)
  | decimal (digits fraction : List Char)
  | other
  deriving DecidableEq, Repr

def Shape.of (s : List Char) : Shape :=
  let (digits, rest) := spanDigits s
  if digits = [] then other
  else match rest with
    | [] => whole digits
    | '.' :: fraction =>
      if fraction ≠ [] ∧ fraction.all Char.isDigit then decimal digits fraction else other
    | _ => other

def int64? (digits : List Char) : Option Int64 :=
  let n := ofDigits digits
  if n < 9223372036854775808 then some (Int64.ofNat n) else none

end Literal

def ListItem.coerce (raw : List Char) : ListItem :=
  let s := Literal.stripQuotes (trim raw)
  match Literal.Shape.of s with
  | .whole digits =>
    match Literal.int64? digits with
    | some n => .int n
    | none => .text (String.ofList s)
  | _ => .text (String.ofList s)

def ListItem.toJson : ListItem → Json
  | int n => .int n.toInt
  | text s => .str s

namespace Literal

def floatOrText (raw : List Char) (x : Binary64) : Literal :=
  if x.isFinite then float x else text (String.ofList raw)

def coerceList (raw : List Char) : List ListItem :=
  (((stripQuotes raw).splitOn ',').filter fun item => trim item ≠ []).map ListItem.coerce

def coerce (raw : List Char) (op : Option Operator) : Literal :=
  match Shape.of raw with
  | .whole digits =>
    match int64? digits with
    | some n => int n
    | none => floatOrText raw (.ofDecimal false (ofDigits digits) 0)
  | .decimal digits fraction =>
    floatOrText raw (.ofDecimal false (ofDigits (digits ++ fraction)) (-(fraction.length : Int)))
  | .other =>
    if op.any Operator.takesList then list (coerceList raw)
    else text (String.ofList (stripQuotes raw))

/-- A literal given as a value: only text changes, and only by its quotes. -/
def normalized : Literal → Literal
  | text s => text (String.ofList (stripQuotes s.toList))
  | v => v

def asInt64? : Literal → Option Int64
  | int n => some n
  | _ => none

def asBinary64? : Literal → Option Binary64
  | int n => some (.ofInt n.toInt)
  | float x => some x
  | _ => none

def asText? : Literal → Option String
  | text s => some s
  | _ => none

def asList? : Literal → Option (List ListItem)
  | list items => some items
  | _ => none

def same : Literal → Literal → Bool
  | int a, int b => a == b
  | int a, float y => (Binary64.ofInt a.toInt).sameNumber y
  | float x, int b => x.sameNumber (.ofInt b.toInt)
  | float x, float y => x.sameNumber y
  | text a, text b => a == b
  | list a, list b => a == b
  | _, _ => false

def toJson : Literal → Json
  | int n => .int n.toInt
  | float x => .float x
  | text s => .str s
  | list items => .arr (items.map ListItem.toJson)

end Literal

end DocumentClient
