import DocumentClient.Instant.Reader
import DocumentClient.Json.Decode

namespace DocumentClient

structure Document where
  id : Option String := none
  createdAt : Option Instant := none
  updatedAt : Option Instant := none
  attributes : Json.Fields := []
  deriving BEq, Repr

namespace Document

def readId : Json → Option String
  | .str s => some s
  | .num n => some (String.ofList n.chars)
  | _ => none

def readInstant : Json → Option Instant
  | .str s => Instant.ofText? s
  | .num (.int n) => Instant.ofEpochSeconds? n
  | _ => none

/-- Take a field out if it is null or readable. -/
def take {α : Type} (read : Json → Option α) (name : String) (fs : Json.Fields) :
    Option α × Json.Fields :=
  match fs.get? name with
  | none => (none, fs)
  | some .null => (none, fs.erase name)
  | some v =>
    match read v with
    | some x => (some x, fs.erase name)
    | none => (none, fs)

def ofFields (fs : Json.Fields) : Document :=
  let (id, fs) := take readId "id" fs
  let (createdAt, fs) := take readInstant "created_at" fs
  let (updatedAt, fs) := take readInstant "updated_at" fs
  { id, createdAt, updatedAt, attributes := fs }

def decode : Json.Decoder Document
  | .obj fs => .ok (ofFields fs)
  | v => .error (.wrongType v "a map")

def get? (d : Document) (name : String) : Option Json := d.attributes.get? name

def text? (d : Document) (name : String) : Option String := (d.get? name).bind Json.asStr?

def toFields (d : Document) : Json.Fields :=
  (d.id.map fun s => ("id", .str s)).toList ++
    (d.createdAt.map fun t => ("created_at", .str t.zuluText)).toList ++
    (d.updatedAt.map fun t => ("updated_at", .str t.zuluText)).toList ++ d.attributes

def toJson (d : Document) : Json := .obj d.toFields

end Document

end DocumentClient
