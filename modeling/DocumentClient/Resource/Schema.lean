import DocumentClient.Json.Decode

namespace DocumentClient

structure SchemaField where
  name : String
  datatype : String := ""
  indexed : Bool := false
  required : Bool := false
  deriving DecidableEq, Repr

structure Schema where
  name : String
  fields : List SchemaField := []
  deriving DecidableEq, Repr

namespace SchemaField

open Json.Decoder

structure Draft where
  name : Option String := none
  datatype : String := ""
  indexed : Bool := false
  required : Bool := false

def Draft.step (d : Draft) (name : String) (v : Json) : Except DecodeError Draft :=
  match name with
  | "name" => (text v).map fun s => { d with name := some s }
  | "datatype" => (text v).map fun s => { d with datatype := s }
  | "indexed" => (flag v).map fun b => { d with indexed := b }
  | "required" => (flag v).map fun b => { d with required := b }
  | _ => .ok d

def names : List String := ["name", "datatype", "indexed", "required"]

def Draft.finish (d : Draft) (missing : DecodeError) : Except DecodeError SchemaField :=
  match d.name with
  | some name => .ok ⟨name, d.datatype, d.indexed, d.required⟩
  | none => .error missing

def decode : Json.Decoder SchemaField
  | .obj fs => do
    let d ← Json.Decoder.fields Draft.step {} fs
    d.finish (.missingField "name")
  | .arr items => do
    let d ← Json.Decoder.fields Draft.step {} (names.zip items)
    let field ← d.finish (.wrongLength 0 "struct SchemaField with 4 elements")
    noMoreThan 4 items
    return field
  | v => .error (.wrongType v "struct SchemaField")

def toJson (f : SchemaField) : Json :=
  .obj [("name", .str f.name), ("datatype", .str f.datatype), ("indexed", .bool f.indexed),
    ("required", .bool f.required)]

end SchemaField

namespace Schema

open Json.Decoder

structure Draft where
  name : Option String := none
  fields : List SchemaField := []

def Draft.step (d : Draft) (name : String) (v : Json) : Except DecodeError Draft :=
  match name with
  | "name" => (text v).map fun s => { d with name := some s }
  | "fields" => (list SchemaField.decode v).map fun fs => { d with fields := fs }
  | _ => .ok d

def names : List String := ["name", "fields"]

def Draft.finish (d : Draft) (missing : DecodeError) : Except DecodeError Schema :=
  match d.name with
  | some name => .ok ⟨name, d.fields⟩
  | none => .error missing

def decode : Json.Decoder Schema
  | .obj fs => do
    let d ← Json.Decoder.fields Draft.step {} fs
    d.finish (.missingField "name")
  | .arr items => do
    let d ← Json.Decoder.fields Draft.step {} (names.zip items)
    let schema ← d.finish (.wrongLength 0 "struct Schema with 2 elements")
    noMoreThan 2 items
    return schema
  | v => .error (.wrongType v "struct Schema")

def field? (s : Schema) (name : String) : Option SchemaField :=
  s.fields.find? (·.name = name)

def indexedNames (s : Schema) : List String := (s.fields.filter (·.indexed)).map (·.name)

def toJson (s : Schema) : Json :=
  .obj [("name", .str s.name), ("fields", .arr (s.fields.map SchemaField.toJson))]

end Schema

end DocumentClient
