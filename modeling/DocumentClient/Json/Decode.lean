import DocumentClient.Json.Place
import DocumentClient.Json.Printer
import DocumentClient.Text.Quoted

namespace DocumentClient

open Text

inductive DecodeError
  | wrongType (found : Json) (expected : String)
  | wrongValue (found : Json) (expected : String)
  | wrongLength (length : Nat) (expected : String)
  | missingField (name : String)
  | unknownVariant (name : String) (expected : String)
  | other (message : String)
  deriving Repr

namespace DecodeError

def describe : Json → String
  | .null => "null"
  | .bool b => "boolean `" ++ toString b ++ "`"
  | .num (.int n) => "integer `" ++ String.ofList (intDigits n) ++ "`"
  | .num (.float x) => "floating point `" ++ String.ofList x.toText ++ "`"
  | .str s => "string " ++ quoted s
  | .arr _ => "sequence"
  | .obj _ => "map"

def message : DecodeError → String
  | wrongType found expected =>
    "invalid type: " ++ describe found ++ ", expected " ++ expected
  | wrongValue found expected =>
    "invalid value: " ++ describe found ++ ", expected " ++ expected
  | wrongLength length expected =>
    "invalid length " ++ String.ofList (natDigits length) ++ ", expected " ++ expected
  | missingField name => "missing field `" ++ name ++ "`"
  | unknownVariant name expected => "unknown variant `" ++ name ++ "`, expected " ++ expected
  | other message => String.ofList (Json.Place.plain message.toList)

end DecodeError

namespace Json

abbrev Decoder (α : Type) := Json → Except DecodeError α

namespace Decoder

def text : Decoder String
  | .str s => .ok s
  | v => .error (.wrongType v "a string")

def flag : Decoder Bool
  | .bool b => .ok b
  | v => .error (.wrongType v "a boolean")

def count : Decoder UInt64
  | .num (.int n) =>
    if 0 ≤ n ∧ n.toNat < UInt64.size then .ok (UInt64.ofNat n.toNat)
    else .error (.wrongValue (.int n) "u64")
  | v => .error (.wrongType v "u64")

def nullable {α : Type} (decode : Decoder α) : Decoder (Option α)
  | .null => .ok none
  | v => (decode v).map some

def list {α : Type} (decode : Decoder α) : Decoder (List α)
  | .arr items => items.mapM decode
  | v => .error (.wrongType v "a sequence")

def fields {α : Type} (step : α → String → Json → Except DecodeError α) (start : α)
    (fs : Fields) : Except DecodeError α :=
  fs.foldlM (fun acc f => step acc f.1 f.2) start

def required {α : Type} (name : String) : Option α → Except DecodeError α
  | some x => .ok x
  | none => .error (.missingField name)

def noMoreThan (limit : Nat) (items : List Json) : Except DecodeError Unit :=
  if items.length ≤ limit then .ok ()
  else .error (.wrongLength items.length "fewer elements in array")

end Decoder

end Json

end DocumentClient
