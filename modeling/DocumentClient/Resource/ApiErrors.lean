import DocumentClient.Json.Decode

namespace DocumentClient

structure ApiErrors where
  errors : Json := .null
  deriving BEq, Repr

namespace ApiErrors

open Json.Decoder

def decode : Json.Decoder ApiErrors
  | .obj fs => .ok ⟨(Json.Fields.get? fs "errors").getD .null⟩
  | .arr items => do
    noMoreThan 1 items
    return ⟨items.head?.getD .null⟩
  | v => .error (.wrongType v "struct ApiErrors")

def toJson (e : ApiErrors) : Json := .obj [("errors", e.errors)]

def detail? (fs : Json.Fields) : Option String :=
  ["detail", "message"].findSome? fun name => (fs.get? name).bind Json.asStr?

mutual

def messageOf : Json → String
  | .str s => s
  | .obj fs => (detail? fs).getD (Json.obj fs).text
  | .arr items => ", ".intercalate (messagesOf items)
  | v => v.text

def messagesOf : List Json → List String
  | [] => []
  | v :: vs => messageOf v :: messagesOf vs

end

def messages (e : ApiErrors) : List String :=
  match e.errors with
  | .null => []
  | .arr items => messagesOf items
  | .obj fs => fs.map fun f => f.1 ++ ": " ++ messageOf f.2
  | v => [messageOf v]

end ApiErrors

end DocumentClient
