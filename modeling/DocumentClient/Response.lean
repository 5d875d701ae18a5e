import DocumentClient.Registry

/-!
A reply and what it means.  The body is taken out of its envelope and decoded once; the result is
found under the label of the resource that was asked for and under its plural.
-/

namespace DocumentClient

structure Response where
  status : Nat
  body : Json
  name : String
  members : Member
  deriving BEq, Repr

namespace Response

def statusSuccess (status : Nat) : Bool := 200 ≤ status && status < 300

def hasErrors (body : Json) : Bool := body.hasField "errors"

/-- An object gives way to its `data`, unless that is null; no body at all is an empty list. -/
def normalize : Json → Json
  | .obj fs =>
    match Json.Fields.get? fs "data" with
    | none | some .null => .obj fs
    | some data => data
  | .null => .arr []
  | v => v

/-- The times of `_meta` stand in for those of the document itself. -/
def remapTimes (fs : Json.Fields) : Json.Fields :=
  match (fs.get? "_meta").bind Json.asFields? with
  | none => fs
  | some info =>
    (fs.put "created_at" ((info.get? "created").getD .null)).put "updated_at"
      ((info.get? "modified").getD .null)

/-- Decode a normalized body; one that reports errors decodes as errors whatever the label. -/
def resolveMember (r : Registry) (label : String) : Json → Except DecodeError Member
  | .arr items =>
    let label := if items.any hasErrors then Registry.errorLabel else label
    (r.buildCollection label items).map .collection
  | .obj fs =>
    let fs := remapTimes fs
    let label := if fs.has "errors" then Registry.errorLabel else label
    r.buildMember label (.obj fs)
  | v => r.buildMember label v

/-- A failure whose body does not decode keeps the body as its error. -/
def withRegistry (r : Registry) (status : Nat) (body : Json) (name : String) :
    Except Error Response :=
  let body := normalize body
  match resolveMember r name body with
  | .ok members => .ok { status, body, name, members }
  | .error e =>
    if statusSuccess status then .error (.decode e)
    else .ok { status, body, name, members := .resource (.error ⟨body⟩) }

def new (status : Nat) (body : Json) (name : String) : Except Error Response :=
  withRegistry .standard status body name

def unlabelled (status : Nat) (body : Json) : Except Error Response :=
  new status body Registry.defaultLabel

def isSuccess (r : Response) : Bool := !hasErrors r.body && statusSuccess r.status

def respondsTo (r : Response) (name : String) : Bool :=
  name = r.name || name = Registry.pluralize r.name

def member (r : Response) (name : String) : Except Error Member :=
  if r.respondsTo name then .ok r.members else .error (.undefinedMember name)

def resource (r : Response) (name : String) : Except Error Resource := do
  match (← r.member name).asResource? with
  | some x => return x
  | none => throw (.undefinedMember name)

def collection (r : Response) (name : String) : Except Error Collection := do
  match (← r.member name).asCollection? with
  | some c => return c
  | none => throw (.undefinedMember name)

end Response

end DocumentClient
