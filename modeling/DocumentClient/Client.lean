import DocumentClient.Config
import DocumentClient.Query
import DocumentClient.Response

namespace DocumentClient

inductive Method
  | get
  | post
  | put
  | delete
  deriving DecidableEq, Repr

def Method.text : Method → String
  | get => "GET"
  | post => "POST"
  | put => "PUT"
  | delete => "DELETE"

structure Request where
  method : Method
  url : String
  body : Option Json := none
  deriving BEq, Repr

namespace Request

def get (url : String) : Request := { method := .get, url }

def post (url : String) (body : Json) : Request := { method := .post, url, body := some body }

end Request

structure Reply where
  status : Nat
  body : Json
  deriving BEq, Repr

abbrev Transport (m : Type → Type) := Request → ExceptT Error m Reply

structure Client (m : Type → Type) where
  config : Config
  transport : Transport m

namespace Client

variable {m : Type → Type} [Monad m]

def execute (c : Client m) (request : Request) (name : String) : ExceptT Error m Response := do
  let reply ← c.transport request
  ExceptT.mk (pure (Response.new reply.status reply.body name))

def attempt {α β : Type} (x : Except Error α) (f : α → ExceptT Error m β) : ExceptT Error m β :=
  match x with
  | .ok a => f a
  | .error e => throw e

def url (config : Config) (path : String) : Except Error String :=
  ((config.endpoint path).map Url.text).mapError .config

def checkSchema (schema : String) : Except Error Unit :=
  if Query.schemaValid schema then .ok () else .error (.invalidSchema schema)

def documentsRequest (config : Config) (q : Query) : Except Error Request := do
  let u ← url config "query/"
  return .post u (q.withOrderFormat config.orderFormat).toJson

def documentRequest (config : Config) (schema id : String) : Except Error Request := do
  checkSchema schema
  let u ← (config.segmentsEndpoint ["schemas", schema, id]).mapError .config
  return .get u.text

def schemaRequest (config : Config) (name : String) : Except Error Request := do
  checkSchema name
  let u ← url config ("schemas/" ++ name ++ "/")
  return .get u

def schemasRequest (config : Config) : Except Error Request := do
  let u ← url config "schemas/"
  return .get u

def documents (c : Client m) (q : Query) : ExceptT Error m Response :=
  attempt (documentsRequest c.config q) fun r => c.execute r "document"

def document (c : Client m) (schema id : String) : ExceptT Error m Response :=
  attempt (documentRequest c.config schema id) fun r => c.execute r "document"

def schema (c : Client m) (name : String) : ExceptT Error m Response :=
  attempt (schemaRequest c.config name) fun r => c.execute r "schema"

def schemas (c : Client m) : ExceptT Error m Response :=
  attempt (schemasRequest c.config) fun r => c.execute r "schema"

end Client

end DocumentClient
